import BlockGraph.Batch.Cache

namespace BlockGraph

namespace Path

/-- A plain name: a path element that is neither empty nor `.` or `..` and holds no separator. -/
def PlainName (n : String) : Prop := n ≠ "" ∧ n ≠ "." ∧ n ≠ ".." ∧ '/' ∉ n.toList

theorem elements_append_slash {a n : String} (hn : '/' ∉ n.toList) :
    elements (a ++ "/" ++ n) = elements a ++ [n] := by
  simp [elements, List.splitOn_append_cons_self, List.splitOn_eq_singleton hn]

theorem elements_of_plain {n : String} (hn : '/' ∉ n.toList) : elements n = [n] := by
  simp [elements, List.splitOn_eq_singleton hn]

theorem reduce_append_plain {n : String} (hn : PlainName n) (rooted : Bool) :
    ∀ (es acc : List String), reduce rooted acc (es ++ [n]) = reduce rooted acc es ++ [n] := by
  intro es
  induction es with
  | nil =>
    intro acc
    obtain ⟨h1, h2, h3, -⟩ := hn
    simp [reduce, h1, h2, h3]
  | cons e es ih =>
    intro acc
    simp only [List.cons_append, reduce]
    split
    · exact ih acc
    · split
      · split
        · split
          · exact ih _
          · exact ih _
        · split
          · exact ih _
          · exact ih _
      · exact ih _

theorem getLast_elements_of_split {p n : String} (hn : '/' ∉ n.toList)
    (h : p = n ∨ ∃ a, p = a ++ "/" ++ n) : (elements p).getLast? = some n := by
  rcases h with rfl | ⟨a, rfl⟩
  · simp [elements_of_plain hn]
  · simp [elements_append_slash hn]

theorem getLast_elements_join {G n : String} (hG : G ≠ "") (hn : PlainName n) :
    (elements (join G n)).getLast? = some n := by
  have hne : n ≠ "" := hn.1
  have hsl : '/' ∉ n.toList := hn.2.2.2
  simp only [join, if_neg hG, if_neg hne, clean]
  rw [elements_append_slash hsl, reduce_append_plain hn]
  generalize reduce _ [] (elements G) = R
  generalize isAbs (G ++ "/" ++ n) = rooted
  apply getLast_elements_of_split hsl
  by_cases hR : R = []
  · subst hR
    cases rooted
    · left
      simp [hne]
    · right
      exact ⟨"", by simp⟩
  · right
    rw [String.intercalate_append_of_ne_nil hR (List.cons_ne_nil _ _), String.intercalate_singleton]
    cases rooted
    · exact ⟨"/".intercalate R, by simp [String.append_assoc]⟩
    · exact ⟨"/" ++ "/".intercalate R, by simp [String.append_assoc]⟩

theorem clean_ne_empty (p : String) : clean p ≠ "" := by
  have h : ∀ out : String, (if out = "" then "." else out) ≠ "" := fun out => by
    split <;> simp_all
  exact h _

theorem join_ne_empty {a b : String} (hb : b ≠ "") : join a b ≠ "" := by
  unfold join
  split
  · exact clean_ne_empty b
  · exact clean_ne_empty _

end Path

namespace Disk.Tree

open Path

variable {t : Tree} {cwd : Location} {path n : String}

/-- A path whose last element is a plain name splits into a directory reached by the walk
and that name. -/
theorem parentOf_of_last (hlast : (elements path).getLast? = some n) {dir : Location} {last : String}
    (h : t.parentOf cwd path = .ok (dir, last)) : last = n := by
  unfold parentOf at h
  split at h
  · cases h
  · simp only [bind, Except.bind, pure, Except.pure] at h
    split at h
    · cases h
    · cases h
      rw [List.getLastD_eq_getLast?, hlast]
      rfl

theorem fileAt?_mem {l : Location} {bs : List UInt8} (h : t.fileAt? l = some bs) : (l, bs) ∈ t.files := by
  unfold fileAt? at h
  obtain ⟨⟨k, v⟩, hfind, rfl⟩ := Option.map_eq_some_iff.1 h
  have hk : k = l := by simpa using List.find?_some hfind
  subst hk
  exact List.mem_of_find?_eq_some hfind

/-- A file read through a path whose last element is a plain name is a file of the tree under
that name. -/
theorem readFile_mem (hn : PlainName n) (hlast : (elements path).getLast? = some n)
    {bs : List UInt8} (h : t.readFile cwd path = .ok bs) : ∃ dir, (dir ++ [n], bs) ∈ t.files := by
  unfold readFile at h
  split at h
  · cases h
  · rename_i l hloc
    split at h
    · rename_i bs' hat
      cases h
      unfold locate at hloc
      simp only [bind, Except.bind, pure, Except.pure] at hloc
      split at hloc
      · cases hloc
      · rename_i p hp
        obtain ⟨dir, last⟩ := p
        have hl := parentOf_of_last hlast hp
        subst hl
        obtain ⟨h1, h2, h3, -⟩ := hn
        simp only [h1, h2, h3, decide_false, Bool.or_false, Bool.false_eq_true, if_false] at hloc
        split at hloc
        · cases hloc
          exact ⟨dir, fileAt?_mem hat⟩
        · cases hloc
    · cases h

/-- Where a file named by a path whose last element is a plain name is made: under that name. -/
theorem creatable_last (hn : PlainName n) (hlast : (elements path).getLast? = some n) {l : Location}
    (h : t.creatable cwd path = .ok l) : l.getLast? = some n := by
  unfold creatable at h
  simp only [bind, Except.bind, pure, Except.pure] at h
  split at h
  · cases h
  · rename_i p hp
    obtain ⟨dir, last⟩ := p
    have hl := parentOf_of_last hlast hp
    subst hl
    obtain ⟨h1, h2, h3, -⟩ := hn
    simp only [h1, h2, h3, decide_false, Bool.or_false, Bool.false_eq_true, if_false] at h
    split at h
    · cases h
    · cases h
      simp

@[simp] theorem withDir_files (l : Location) : (t.withDir l).files = t.files := rfl

theorem mem_withFile {l l' : Location} {bytes bs : List UInt8} (h : (l', bs) ∈ (t.withFile l bytes).files) :
    (l' = l ∧ bs = bytes) ∨ (l', bs) ∈ t.files := by
  unfold withFile at h
  dsimp only at h
  split at h
  · obtain ⟨⟨k, v⟩, hkv, he⟩ := List.mem_map.1 h
    simp only [withDir_files] at hkv
    by_cases hk : k = l
    · subst hk
      simp only [beq_self_eq_true, if_true, Prod.mk.injEq] at he
      exact .inl ⟨he.1.symm, he.2.symm⟩
    · simp only [beq_iff_eq, hk, if_false] at he
      rw [← he]
      exact .inr hkv
  · simp only [withDir_files, List.mem_append, List.mem_singleton, Prod.mk.injEq] at h
    rcases h with h | h
    · exact .inr h
    · exact .inl h

theorem mkdir_files {p : String} {t' : Tree} (h : t.mkdir cwd p = .ok t') : t'.files = t.files := by
  unfold mkdir at h
  dsimp only at h
  split at h
  · cases h
  · split at h
    · cases h; rfl
    · split at h
      · cases h; rfl
      · split at h
        · cases h
        · cases h; rfl

theorem mkdirAll_files {p : List Char} {t' : Tree} (h : t.mkdirAll cwd p = .ok t') : t'.files = t.files := by
  fun_induction mkdirAll t cwd p generalizing t' with
  | case1 => cases h; rfl
  | case2 => cases h
  | case3 => exact mkdir_files h
  | case4 => cases h
  | case5 _ _ _ _ _ hparent ih => exact (mkdir_files h).trans (ih hparent)

end Disk.Tree

namespace Batch

open Path Disk

theorem hexDigit_ne_slash : ∀ k < 16, Text.hexDigit k ≠ '/' := by decide

theorem slash_not_mem_hexOfBytes (bs : List UInt8) : '/' ∉ (Text.hexOfBytes bs).toList := by
  simp only [Text.hexOfBytes, String.toList_ofList, List.mem_flatMap, not_exists, not_and, Text.hexDigits,
    List.mem_map, List.mem_reverse, List.mem_range]
  rintro b - i - h
  exact hexDigit_ne_slash _ (Nat.mod_lt _ (by decide)) h

/-- The file of an entry is named after its key: a plain name for the key of every dump. -/
theorem cacheKey_entry_plain (dump : List UInt8) : PlainName (cacheKey dump ++ ".mp") := by
  have hlen : ∀ s : String, (cacheKey dump ++ ".mp") = s → 3 ≤ s.length := by
    rintro s rfl
    rw [String.length_append]
    exact Nat.le_add_left _ _
  refine ⟨fun h => absurd (hlen _ h) (by decide), fun h => absurd (hlen _ h) (by decide),
    fun h => absurd (hlen _ h) (by decide), ?_⟩
  simp only [String.toList_append, List.mem_append, not_or]
  exact ⟨slash_not_mem_hexOfBytes _, by decide⟩

theorem Cache.pathFor_last (c : Cache) {key : String} (hk : PlainName (key ++ ".mp")) :
    (elements (c.pathFor key)).getLast? = some (key ++ ".mp") :=
  getLast_elements_join (join_ne_empty (by decide)) hk

variable {c : Cache} {t t' : Tree} {cwd : Location} {key : String}

theorem Cache.get?_mem (hk : PlainName (key ++ ".mp")) {e : CacheEntry} (h : c.get? t cwd key = some e) :
    ∃ dir bs, (dir ++ [key ++ ".mp"], bs) ∈ t.files ∧ CacheEntry.decode? bs = some e := by
  unfold Cache.get? at h
  split at h
  · rename_i bs hread
    obtain ⟨dir, hmem⟩ := Tree.readFile_mem hk (c.pathFor_last hk) hread
    exact ⟨dir, bs, hmem, h⟩
  · cases h

theorem Cache.mem_put (hk : PlainName (key ++ ".mp")) {e : CacheEntry} (h : c.put t cwd key e = .ok t')
    {l : Location} {bs : List UInt8} (hmem : (l, bs) ∈ t'.files) :
    (l.getLast? = some (key ++ ".mp") ∧ bs = e.encode) ∨ (l, bs) ∈ t.files := by
  unfold Cache.put at h
  simp only [bind, Except.bind, pure, Except.pure] at h
  split at h
  · cases h
  · rename_i t₁ hdirs
    split at h
    · rename_i loc hloc
      cases h
      rcases Tree.mem_withFile hmem with ⟨rfl, rfl⟩ | hold
      · exact .inl ⟨Tree.creatable_last hk (c.pathFor_last hk) hloc, rfl⟩
      · rw [Tree.mkdirAll_files hdirs] at hold
        exact .inr hold
    · cases h

end Batch

end BlockGraph
