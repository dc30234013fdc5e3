import BlockGraph.Proofs.Source.Positions
/-!
# Line endings of added files

A file set stores contents with each `\r\n` made `\n` in one pass from the left, which is what
replacing each `\r\n` by `\n` gives; the file is marked when a byte was left out.
-/

namespace BlockGraph

/-- Every occurrence of the pattern `o :: os` in a list replaced by `new`, from the left: where
the pattern starts it is replaced and the scan goes on after it, so replaced occurrences never
overlap. -/
def replaceAll {α : Type} [BEq α] (o : α) (os new : List α) : List α → List α
  | [] => []
  | b :: s =>
    if (o :: os).isPrefixOf (b :: s) then new ++ replaceAll o os new (s.drop os.length)
    else b :: replaceAll o os new s
termination_by l => l.length
decreasing_by
  all_goals simp only [List.length_cons, List.length_drop]
  all_goals omega

/-- What the one pass keeps of position `i`: the byte there, unless it is a carriage return
right before a line feed. -/
def keptAt (bs : List UInt8) (i : Nat) : Option UInt8 :=
  if bs[i]? = some 0x0D ∧ bs[i + 1]? = some 0x0A then none else bs[i]?

theorem crlf_prefix_iff (b : UInt8) (rest : List UInt8) :
    [0x0D, 0x0A] <+: b :: rest ↔ b = 0x0D ∧ rest.head? = some 0x0A := by
  rw [List.cons_prefix_cons, eq_comm]
  cases rest with
  | nil => simp
  | cons c rest => simp [List.cons_prefix_cons, eq_comm]

/-! ## One byte at a time -/

theorem dropCrBeforeLf_cons (b : UInt8) (rest : List UInt8) :
    dropCrBeforeLf (b :: rest) =
      if b = 0x0D ∧ rest.head? = some 0x0A then dropCrBeforeLf rest
      else b :: dropCrBeforeLf rest := by
  by_cases hcr : b = 0x0D ∧ rest.head? = some 0x0A
  · obtain ⟨rfl, hlf⟩ := hcr
    obtain ⟨r, rfl⟩ : ∃ r, rest = 0x0A :: r := by
      cases rest with
      | nil => simp at hlf
      | cons c r => exact ⟨r, by simpa using hlf⟩
    simp [dropCrBeforeLf]
  · rw [if_neg hcr]
    -- the first equation needs a carriage return and a line feed; otherwise the byte is kept
    rcases rest with _ | ⟨c, r⟩
    · simp [dropCrBeforeLf]
    · by_cases hb : b = 0x0D
      · subst hb
        have hc : c ≠ 0x0A := by simpa using hcr
        simp [dropCrBeforeLf, hc]
      · simp [dropCrBeforeLf, hb]

theorem replaceAll_crlf_cons (b : UInt8) (rest : List UInt8) :
    replaceAll 0x0D [0x0A] [0x0A] (b :: rest) =
      if b = 0x0D ∧ rest.head? = some 0x0A then replaceAll 0x0D [0x0A] [0x0A] rest
      else b :: replaceAll 0x0D [0x0A] [0x0A] rest := by
  have hprefix : List.isPrefixOf [0x0D, 0x0A] (b :: rest) =
      decide (b = 0x0D ∧ rest.head? = some 0x0A) := by
    rw [Bool.eq_iff_iff, List.isPrefixOf_iff_prefix, crlf_prefix_iff, decide_eq_true_iff]
  rw [replaceAll, hprefix]
  by_cases hcr : b = 0x0D ∧ rest.head? = some 0x0A
  · obtain ⟨r, rfl⟩ : ∃ r, rest = 0x0A :: r := by
      cases rest with
      | nil => simp at hcr
      | cons c r => exact ⟨r, by simpa using hcr.2⟩
    -- the line feed after the pair starts no pattern, so the rest's replacement writes it first
    have hlf : replaceAll 0x0D [0x0A] [0x0A] ((0x0A : UInt8) :: r) =
        0x0A :: replaceAll 0x0D [0x0A] [0x0A] r := by
      rw [replaceAll]
      simp
    rw [decide_eq_true hcr, if_pos rfl, if_pos hcr, hlf]
    rfl
  · rw [decide_eq_false hcr, if_neg Bool.false_ne_true, if_neg hcr]

/-! ## The whole pass -/

theorem dropCrBeforeLf_eq_replaceAll (c : List UInt8) :
    dropCrBeforeLf c = replaceAll 0x0D [0x0A] [0x0A] c := by
  induction c with
  | nil => rw [replaceAll]; rfl
  | cons b rest ih => rw [dropCrBeforeLf_cons, replaceAll_crlf_cons, ih]

example : dropCrBeforeLf [0x0D, 0x0D, 0x0A, 0x61, 0x0D] = [0x0D, 0x0A, 0x61, 0x0D] := by decide

theorem dropCrBeforeLf_eq_filterMap (c : List UInt8) :
    dropCrBeforeLf c = (List.range c.length).filterMap (keptAt c) := by
  induction c with
  | nil => rfl
  | cons b rest ih =>
    have hshift : keptAt (b :: rest) ∘ Nat.succ = keptAt rest := by
      funext i
      simp [keptAt]
    have hfirst : keptAt (b :: rest) 0 =
        if b = 0x0D ∧ rest.head? = some 0x0A then none else some b := by
      simp [keptAt, List.head?_eq_getElem?]
    rw [List.length_cons, List.range_succ_eq_map, List.filterMap_cons, hfirst,
      List.filterMap_map, hshift, ← ih, dropCrBeforeLf_cons]
    split <;> rfl

theorem length_dropCrBeforeLf_le (c : List UInt8) : (dropCrBeforeLf c).length ≤ c.length := by
  induction c with
  | nil => exact Nat.le_refl 0
  | cons b rest ih =>
    rw [dropCrBeforeLf_cons]
    split
    · exact Nat.le_succ_of_le ih
    · exact Nat.succ_le_succ ih

theorem length_dropCrBeforeLf_lt_iff (c : List UInt8) :
    (dropCrBeforeLf c).length < c.length ↔ [0x0D, 0x0A] <:+: c := by
  induction c with
  | nil => simp
  | cons b rest ih =>
    rw [dropCrBeforeLf_cons, List.infix_cons_iff, crlf_prefix_iff, List.length_cons]
    split
    · rename_i hcr
      exact iff_of_true (Nat.lt_succ_of_le (length_dropCrBeforeLf_le rest)) (Or.inl hcr)
    · rename_i hcr
      rw [List.length_cons, Nat.succ_lt_succ_iff, ih, or_iff_right hcr]

/-! ## The line index -/

theorem lineFeedOffsets_eq_filter (bs : List UInt8) :
    lineFeedOffsets 0 bs = (List.range bs.length).filter fun p => bs[p]? == some 0x0A := by
  induction bs with
  | nil => rfl
  | cons b rest ih =>
    have hshift : lineFeedOffsets 1 rest = (lineFeedOffsets 0 rest).map Nat.succ := by
      rw [← lineFeedOffsets_add 0 1 rest]
    have hpos : ((fun p => (b :: rest)[p]? == some 0x0A) ∘ Nat.succ) =
        fun p => rest[p]? == some 0x0A := by
      funext p
      simp
    rw [lineFeedOffsets_cons, hshift, ih, List.length_cons, List.range_succ_eq_map,
      List.filter_cons, List.filter_map, hpos]
    simp

/-! ## Adding a file -/

theorem FileSet.get?_add_eq (fs : FileSet) (path : String) (content : List UInt8)
    (isVirtual : Bool) :
    (fs.add path content isVirtual).1.get? (fs.add path content isVirtual).2 =
      some { id := fs.files.length, path := Path.clean path, content := dropCrBeforeLf content,
             lineFeeds := lineFeedOffsets 0 (dropCrBeforeLf content), isVirtual,
             hadCrlf := (dropCrBeforeLf content).length != content.length } := by
  simp [FileSet.add, FileSet.get?]

/-- A file that a set adds holds its contents with every `\r\n` replaced by `\n` from the left,
that is, with exactly the carriage returns that stand before a line feed left out and every
other byte kept in order; it is marked as having had `\r\n` exactly when a byte was left out,
which is exactly when the contents held a `\r\n` pair; it keeps its virtual mark; and its line
index lists the positions of the line feeds of the stored contents, in order. -/
theorem FileSet.add_normalizes_crlf (fs : FileSet) (path : String) (content : List UInt8)
    (isVirtual : Bool) :
    ∃ f, (fs.add path content isVirtual).1.get? (fs.add path content isVirtual).2 = some f ∧
      f.content = replaceAll 0x0D [0x0A] [0x0A] content ∧
      f.content = (List.range content.length).filterMap (keptAt content) ∧
      (f.hadCrlf = true ↔ f.content.length < content.length) ∧
      (f.content.length < content.length ↔ [0x0D, 0x0A] <:+: content) ∧
      f.isVirtual = isVirtual ∧
      f.lineFeeds = (List.range f.content.length).filter fun p => f.content[p]? == some 0x0A := by
  refine ⟨_, FileSet.get?_add_eq fs path content isVirtual, dropCrBeforeLf_eq_replaceAll content,
    dropCrBeforeLf_eq_filterMap content, ?_, length_dropCrBeforeLf_lt_iff content, rfl,
    lineFeedOffsets_eq_filter _⟩
  -- the mark compares the lengths, and the pass never adds a byte
  have hle := length_dropCrBeforeLf_le content
  simp only [bne_iff_ne, ne_eq]
  omega

end BlockGraph
