import BlockGraph.Source.Files
import Mathlib.Data.List.Induction

namespace BlockGraph

/-- One past the last line feed before `off`, 0 when there is none: where the line of `off`
starts. -/
def lineStartBefore (c : List UInt8) (off : Nat) : Nat :=
  ((c.take off).reverse.dropWhile (· != 0x0A)).length

/-- The position of `off` read off the contents: the line is one more than the line feeds
before it, and the column counts bytes from the start of that line, as a 32-bit number. -/
def plainLineCol (c : List UInt8) (off : Nat) : LineCol :=
  { line := (c.take off).count 0x0A + 1, col := (off + 1 - lineStartBefore c off) % Nat.pow 2 32 }

theorem lineStartBefore_le (c : List UInt8) (off : Nat) : lineStartBefore c off ≤ off := by
  unfold lineStartBefore
  calc _ ≤ (c.take off).reverse.length := (List.dropWhile_suffix _).length_le
    _ ≤ off := by rw [List.length_reverse]; exact List.length_take_le off c

/-- The column of an offset is one more than the bytes before it on its line, except for the
one offset whose column does not fit 32 bits: `2^32 - 1` with no line feed before it. -/
theorem plainLineCol_col (c : List UInt8) {off : Nat} (hoff : off < Nat.pow 2 32) :
    (plainLineCol c off).col =
      if off + 1 = Nat.pow 2 32 ∧ lineStartBefore c off = 0 then 0
      else off + 1 - lineStartBefore c off := by
  have hle := lineStartBefore_le c off
  unfold plainLineCol
  dsimp only
  split
  · rename_i h
    rw [h.2, Nat.sub_zero, h.1, Nat.mod_self]
  · rename_i h
    have hlt : off + 1 - lineStartBefore c off < Nat.pow 2 32 := by omega
    exact Nat.mod_eq_of_lt hlt

/-! ## The binary search -/

section Search

variable {L : List Nat} {off : Nat}

theorem firstFeedFrom_splits (hs : L.Pairwise (· ≤ ·)) (lo hi : Nat) (hhi : hi ≤ L.length)
    (hlo : lo ≤ hi) (hbelow : ∀ j (hj : j < L.length), j < lo → L[j] < off)
    (habove : ∀ j (hj : j < L.length), hi ≤ j → off ≤ L[j]) :
    firstFeedFrom L off lo hi hhi ≤ L.length ∧
      (∀ j (hj : j < L.length), j < firstFeedFrom L off lo hi hhi → L[j] < off) ∧
      ∀ j (hj : j < L.length), firstFeedFrom L off lo hi hhi ≤ j → off ≤ L[j] := by
  have hsorted := List.pairwise_iff_getElem.1 hs
  fun_induction firstFeedFrom L off lo hi hhi with
  | case1 lo hi hhi h hmid ih =>
    -- the middle feed is before `off`, and so is every feed up to it
    refine ih (by omega) (fun j hj hjm => ?_) habove
    rcases Nat.lt_or_ge j lo with hjlo | hjlo
    · exact hbelow j hj hjlo
    · rcases Nat.lt_or_eq_of_le (Nat.le_of_lt_succ hjm) with hlt | rfl
      · exact Nat.lt_of_le_of_lt (hsorted j _ hj (by omega) hlt) hmid
      · exact hmid
  | case2 lo hi hhi h hmid ih =>
    -- the middle feed is not before `off`, and neither is any feed after it
    refine ih (by omega) hbelow fun j hj hjm => ?_
    rcases Nat.lt_or_ge j hi with hjhi | hjhi
    · rcases Nat.lt_or_eq_of_le hjm with hlt | rfl
      · exact Nat.le_trans (Nat.le_of_not_lt hmid) (hsorted _ j (by omega) hj hlt)
      · exact Nat.le_of_not_lt hmid
    · exact habove j hj hjhi
  | case3 lo hi hhi h =>
    have hhl : hi = lo := by omega
    subst hhl
    exact ⟨hhi, hbelow, habove⟩

theorem filter_eq_take_of_splits {k : Nat} (hk : k ≤ L.length)
    (hbelow : ∀ j (hj : j < L.length), j < k → L[j] < off)
    (habove : ∀ j (hj : j < L.length), k ≤ j → off ≤ L[j]) :
    L.filter (· < off) = L.take k := by
  conv => lhs; rw [← List.take_append_drop k L]
  rw [List.filter_append]
  have htake : (L.take k).filter (· < off) = L.take k := by
    refine List.filter_eq_self.2 fun x hx => ?_
    obtain ⟨j, hj, rfl⟩ := List.getElem_of_mem hx
    rw [List.getElem_take]
    simpa using hbelow j (by simp at hj; omega) (by simp at hj; omega)
  have hdrop : (L.drop k).filter (· < off) = [] := by
    refine List.filter_eq_nil_iff.2 fun x hx => ?_
    obtain ⟨j, hj, rfl⟩ := List.getElem_of_mem hx
    rw [List.getElem_drop]
    simpa using habove (k + j) (by simp at hj; omega) (Nat.le_add_right k j)
  rw [htake, hdrop, List.append_nil]

/-- Over feeds in order, the binary search places an offset as counting the feeds does: its
line is one more than the feeds before it, and its line starts one past the last of them. -/
theorem lineColAt_eq_filter (hs : L.Pairwise (· ≤ ·)) (off : Nat) :
    lineColAt L off =
      { line := (L.filter (· < off)).length + 1,
        col := (off + 1 - (((L.filter (· < off)).getLast?.map (· + 1)).getD 0)) % Nat.pow 2 32 } := by
  obtain ⟨hk, hbelow, habove⟩ := @firstFeedFrom_splits L off hs 0 L.length (Nat.le_refl _)
    (Nat.zero_le _) (fun j _ hj => absurd hj (Nat.not_lt_zero j))
    (fun j hj hle => absurd hj (Nat.not_lt_of_le hle))
  have hfilter := filter_eq_take_of_splits hk hbelow habove
  unfold lineColAt
  dsimp only
  generalize firstFeedFrom L off 0 L.length (Nat.le_refl _) = k at hk hbelow habove hfilter ⊢
  -- the search's index is the number of feeds before `off`, the last of them at `k - 1`
  have hstart : (if k > 0 then (L[k - 1]?).getD 0 + 1 else 0) =
      (((L.filter (· < off)).getLast?.map (· + 1)).getD 0) := by
    rw [hfilter]
    rcases k with _ | k
    · simp
    · rw [List.getLast?_take, List.getElem?_eq_getElem (by omega)]
      simp
  rw [hstart, hfilter, List.length_take, Nat.min_eq_left hk]

end Search

/-! ## The line feeds of contents -/

@[simp] theorem lineFeedOffsets_nil (base : Nat) : lineFeedOffsets base [] = [] := rfl

theorem lineFeedOffsets_cons (base : Nat) (b : UInt8) (c : List UInt8) :
    lineFeedOffsets base (b :: c) =
      if b == 0x0A then base :: lineFeedOffsets (base + 1) c else lineFeedOffsets (base + 1) c := rfl

theorem lineFeedOffsets_append (base : Nat) (c d : List UInt8) :
    lineFeedOffsets base (c ++ d) = lineFeedOffsets base c ++ lineFeedOffsets (base + c.length) d := by
  induction c generalizing base with
  | nil => simp
  | cons b c ih =>
    rw [List.cons_append, lineFeedOffsets_cons, lineFeedOffsets_cons, ih, List.length_cons,
      show base + 1 + c.length = base + (c.length + 1) by omega]
    split <;> rfl

theorem lineFeedOffsets_add (base k : Nat) (c : List UInt8) :
    lineFeedOffsets (base + k) c = (lineFeedOffsets base c).map (· + k) := by
  induction c generalizing base with
  | nil => rfl
  | cons b c ih =>
    rw [lineFeedOffsets_cons, lineFeedOffsets_cons, show base + k + 1 = base + 1 + k by omega, ih]
    split
    · rw [List.map_cons]
    · rfl

theorem mem_lineFeedOffsets {base p : Nat} {c : List UInt8} (hp : p ∈ lineFeedOffsets base c) :
    base ≤ p ∧ p < base + c.length := by
  induction c generalizing base with
  | nil => simp at hp
  | cons b c ih =>
    rw [lineFeedOffsets_cons] at hp
    split at hp
    · rcases List.mem_cons.1 hp with rfl | hp
      · simp
      · have := ih hp
        simp only [List.length_cons]
        omega
    · have := ih hp
      simp only [List.length_cons]
      omega

theorem lineFeedOffsets_pairwise (base : Nat) (c : List UInt8) :
    (lineFeedOffsets base c).Pairwise (· < ·) := by
  induction c generalizing base with
  | nil => exact List.Pairwise.nil
  | cons b c ih =>
    rw [lineFeedOffsets_cons]
    split
    · exact List.Pairwise.cons (fun p hp => by have := mem_lineFeedOffsets hp; omega) (ih _)
    · exact ih _

@[simp] theorem length_lineFeedOffsets (base : Nat) (c : List UInt8) :
    (lineFeedOffsets base c).length = c.count 0x0A := by
  induction c generalizing base with
  | nil => rfl
  | cons b c ih =>
    rw [lineFeedOffsets_cons, List.count_cons]
    split <;> simp_all

theorem lineFeedOffsets_take (base off : Nat) (c : List UInt8) :
    lineFeedOffsets base (c.take off) = (lineFeedOffsets base c).filter (· < base + off) := by
  induction c generalizing base off with
  | nil => simp
  | cons b c ih =>
    rcases off with _ | off
    · -- no byte is taken, and every feed is at `base` or later
      refine (List.filter_eq_nil_iff.2 fun p hp => ?_).symm
      have := mem_lineFeedOffsets hp
      simp only [decide_eq_true_eq]
      omega
    · rw [List.take_succ_cons, lineFeedOffsets_cons, lineFeedOffsets_cons, ih,
        show base + 1 + off = base + (off + 1) by omega]
      split
      · rw [List.filter_cons_of_pos (by simp)]
      · rfl

theorem lineStart_of_feeds (d : List UInt8) :
    (((lineFeedOffsets 0 d).getLast?.map (· + 1)).getD 0) =
      (d.reverse.dropWhile (· != 0x0A)).length := by
  induction d using List.reverseRecOn with
  | nil => rfl
  | append_singleton d b ih =>
    rw [lineFeedOffsets_append, lineFeedOffsets_cons, lineFeedOffsets_nil, List.reverse_append,
      List.reverse_singleton, List.singleton_append, List.dropWhile_cons]
    split
    · rename_i hb
      simp [show (b != 0x0A) = false by simpa using hb, List.length_reverse]
    · rename_i hb
      simp only [List.append_nil, show (b != 0x0A) = true by simpa using hb, if_true]
      exact ih

theorem lineColAt_lineFeedOffsets (c : List UInt8) (off : Nat) :
    lineColAt (lineFeedOffsets 0 c) off = plainLineCol c off := by
  have hs : (lineFeedOffsets 0 c).Pairwise (· ≤ ·) :=
    (lineFeedOffsets_pairwise 0 c).imp Nat.le_of_lt
  have hprefix : (lineFeedOffsets 0 c).filter (· < off) = lineFeedOffsets 0 (c.take off) := by
    rw [lineFeedOffsets_take, Nat.zero_add]
  rw [lineColAt_eq_filter hs, hprefix, lineStart_of_feeds, length_lineFeedOffsets]
  rfl

/-! ## Lines -/

theorem exists_first_feed {c : List UInt8} (h : (0x0A : UInt8) ∈ c) :
    ∃ p rest, c = p ++ 0x0A :: rest ∧ (0x0A : UInt8) ∉ p := by
  induction c with
  | nil => simp at h
  | cons b c ih =>
    by_cases hb : b = 0x0A
    · exact ⟨[], c, by rw [hb]; rfl, List.not_mem_nil⟩
    · obtain ⟨p, rest, rfl, hp⟩ := ih ((List.mem_cons.1 h).resolve_left (Ne.symm hb))
      exact ⟨b :: p, rest, rfl, by simp [Ne.symm hb, hp]⟩

theorem lineFeedOffsets_eq_nil {base : Nat} {c : List UInt8} (h : (0x0A : UInt8) ∉ c) :
    lineFeedOffsets base c = [] :=
  List.eq_nil_of_length_eq_zero (by rw [length_lineFeedOffsets]; exact List.count_eq_zero.2 h)

theorem lineFeedOffsets_first_line {p rest : List UInt8} (hp : (0x0A : UInt8) ∉ p) :
    lineFeedOffsets 0 (p ++ 0x0A :: rest) =
      p.length :: (lineFeedOffsets 0 rest).map (· + (p.length + 1)) := by
  rw [lineFeedOffsets_append, lineFeedOffsets_eq_nil hp, List.nil_append, lineFeedOffsets_cons,
    if_pos (by decide), ← lineFeedOffsets_add, Nat.zero_add, Nat.zero_add]

namespace SourceFile

/-- A file whose line index is that of its contents, as every file a set adds is. -/
def Indexed (f : SourceFile) : Prop := f.lineFeeds = lineFeedOffsets 0 f.content

/-- The file cut after its first line: its contents past the first line feed, indexed. -/
def restLines (f : SourceFile) (rest : List UInt8) : SourceFile :=
  { f with content := rest, lineFeeds := lineFeedOffsets 0 rest }

theorem lineBytes_eq_slice (f : SourceFile) (n : Nat) :
    f.lineBytes n =
      match (if n = 0 then none else if n = 1 then some 0 else (f.lineFeeds[n - 2]?).map (· + 1)) with
      | none => []
      | some start =>
        (f.content.drop start).take
          (min f.content.length ((f.lineFeeds[n - 1]?).getD f.content.length) - start) := by
  unfold lineBytes
  dsimp only
  generalize (if n = 0 then none else if n = 1 then some 0 else (f.lineFeeds[n - 2]?).map (· + 1)) =
    start?
  cases start? with
  | none => rfl
  | some start =>
    dsimp only
    split
    · rename_i h
      rw [List.drop_eq_nil_of_le h, List.take_nil]
    · rfl

theorem restLines_indexed (f : SourceFile) (rest : List UInt8) : (f.restLines rest).Indexed := rfl

theorem lineBytes_succ_succ {f : SourceFile} {p rest : List UInt8} (hf : f.Indexed)
    (hc : f.content = p ++ 0x0A :: rest) (hp : (0x0A : UInt8) ∉ p) (n : Nat) :
    f.lineBytes (n + 2) = (f.restLines rest).lineBytes (n + 1) := by
  have hfeeds : f.lineFeeds = p.length :: (lineFeedOffsets 0 rest).map (· + (p.length + 1)) := by
    rw [hf, hc, lineFeedOffsets_first_line hp]
  have hlen : f.content.length = rest.length + (p.length + 1) := by
    rw [hc]
    simp only [List.length_append, List.length_cons]
    omega
  -- every position moves by the first line and its feed, `p.length + 1` bytes
  have hdrop : ∀ q, f.content.drop (q + (p.length + 1)) = rest.drop q := by
    intro q
    rw [hc, Nat.add_comm, ← List.drop_drop]
    simp
  have hstop : ∀ m, min f.content.length ((f.lineFeeds[m + 1]?).getD f.content.length) =
      min rest.length (((lineFeedOffsets 0 rest)[m]?).getD rest.length) + (p.length + 1) := by
    intro m
    rw [hfeeds, hlen, List.getElem?_cons_succ, List.getElem?_map]
    cases (lineFeedOffsets 0 rest)[m]? <;> simp [Nat.add_min_add_right]
  rw [lineBytes_eq_slice, lineBytes_eq_slice]
  rcases n with _ | n
  · -- line 2 starts one past the first feed, line 1 of the rest at its start
    show (match (f.lineFeeds[0]?).map (· + 1) with
        | none => []
        | some start => (f.content.drop start).take
            (min f.content.length ((f.lineFeeds[0 + 1]?).getD f.content.length) - start)) =
      (rest.drop 0).take (min rest.length (((lineFeedOffsets 0 rest)[0]?).getD rest.length) - 0)
    have hfirst : f.lineFeeds[0]? = some p.length := by
      rw [hfeeds]
      rfl
    rw [hfirst, Option.map_some, hstop 0]
    dsimp only
    rw [Nat.add_sub_cancel, Nat.sub_zero, ← hdrop 0, Nat.zero_add]
  · show (match (f.lineFeeds[n + 1]?).map (· + 1) with
        | none => []
        | some start => (f.content.drop start).take
            (min f.content.length ((f.lineFeeds[n + 1 + 1]?).getD f.content.length) - start)) =
      (match ((lineFeedOffsets 0 rest)[n]?).map (· + 1) with
        | none => []
        | some start => (rest.drop start).take
            (min rest.length (((lineFeedOffsets 0 rest)[n + 1]?).getD rest.length) - start))
    have hnext : f.lineFeeds[n + 1]? = ((lineFeedOffsets 0 rest)[n]?).map (· + (p.length + 1)) := by
      rw [hfeeds, List.getElem?_cons_succ, List.getElem?_map]
    rw [hnext, hstop (n + 1), Option.map_map]
    cases (lineFeedOffsets 0 rest)[n]? with
    | none => rfl
    | some q =>
      simp only [Option.map_some, Function.comp_apply]
      rw [show q + (p.length + 1) + 1 = q + 1 + (p.length + 1) by omega, hdrop, Nat.add_sub_add_right]

theorem lineBytes_of_no_feed {f : SourceFile} (hf : f.Indexed) (h : (0x0A : UInt8) ∉ f.content)
    (n : Nat) : f.lineBytes (n + 1) = if n = 0 then f.content else [] := by
  have hfeeds : f.lineFeeds = [] := by rw [hf, lineFeedOffsets_eq_nil h]
  rw [lineBytes_eq_slice]
  rcases n with _ | n
  · show (f.content.drop 0).take (min f.content.length ((f.lineFeeds[0]?).getD f.content.length) - 0) = _
    rw [hfeeds, List.getElem?_nil, Option.getD_none, Nat.min_self, Nat.sub_zero, List.drop_zero,
      List.take_length]
    rfl
  · show (match (f.lineFeeds[n]?).map (· + 1) with
        | none => []
        | some start => (f.content.drop start).take
            (min f.content.length ((f.lineFeeds[n + 1]?).getD f.content.length) - start)) = _
    rw [hfeeds, List.getElem?_nil]
    rfl

theorem lineBytes_one {f : SourceFile} {p rest : List UInt8} (hf : f.Indexed)
    (hc : f.content = p ++ 0x0A :: rest) (hp : (0x0A : UInt8) ∉ p) : f.lineBytes 1 = p := by
  have hfirst : f.lineFeeds[0]? = some p.length := by
    rw [hf, hc, lineFeedOffsets_first_line hp]
    rfl
  rw [lineBytes_eq_slice]
  show (f.content.drop 0).take (min f.content.length ((f.lineFeeds[0]?).getD f.content.length) - 0) = p
  rw [hfirst, Option.getD_some, hc]
  simp

theorem lineBytes_succ_eq_splitOn {f : SourceFile} (hf : f.Indexed) (n : Nat) :
    f.lineBytes (n + 1) = (f.content.splitOn 0x0A).getD n [] := by
  -- by induction on the line, cutting the first line off the file while there is a feed
  induction n generalizing f with
  | zero =>
    by_cases h : (0x0A : UInt8) ∈ f.content
    · obtain ⟨p, rest, hc, hp⟩ := exists_first_feed h
      rw [lineBytes_one hf hc hp, hc, List.splitOn_append_cons_self_of_not_mem hp]
      rfl
    · rw [lineBytes_of_no_feed hf h, List.splitOn_eq_singleton h]
      rfl
  | succ n ih =>
    by_cases h : (0x0A : UInt8) ∈ f.content
    · obtain ⟨p, rest, hc, hp⟩ := exists_first_feed h
      rw [lineBytes_succ_succ hf hc hp, ih (restLines_indexed f rest), hc,
        List.splitOn_append_cons_self_of_not_mem hp]
      rfl
    · rw [lineBytes_of_no_feed hf h, List.splitOn_eq_singleton h]
      rfl

theorem lineBytes_eq_splitOn {f : SourceFile} (hf : f.Indexed) (n : Nat) :
    f.lineBytes n =
      if 1 ≤ n ∧ n ≤ f.content.count 0x0A + 1 then (f.content.splitOn 0x0A).getD (n - 1) [] else [] := by
  split
  · rename_i hn
    obtain ⟨m, rfl⟩ : ∃ m, n = m + 1 := ⟨n - 1, by omega⟩
    exact lineBytes_succ_eq_splitOn hf m
  · rename_i hn
    rw [lineBytes_eq_slice]
    rcases Nat.lt_or_ge n 1 with h0 | hpast
    · rw [show n = 0 by omega]
      rfl
    · -- past the last line there is no feed to start from
      have hnone : f.lineFeeds[n - 2]? = none := by
        rw [List.getElem?_eq_none_iff, hf, length_lineFeedOffsets]
        omega
      rw [if_neg (by omega), if_neg (by omega), hnone]
      rfl

end SourceFile

theorem FileSet.get?_add (fs : FileSet) (path : String) (content : List UInt8) (isVirtual : Bool) :
    ∃ f, (fs.add path content isVirtual).1.get? (fs.add path content isVirtual).2 = some f ∧
      f.content = dropCrBeforeLf content ∧ f.Indexed := by
  let normal := dropCrBeforeLf content
  let added : SourceFile :=
    { id := fs.files.length, path := Path.clean path, content := normal,
      lineFeeds := lineFeedOffsets 0 normal, isVirtual, hadCrlf := normal.length != content.length }
  refine ⟨added, ?_, rfl, rfl⟩
  simp [FileSet.add, FileSet.get?, added, normal]

/-- Positions and lines of a file as a set adds it, read off its contents (`\r\n` made `\n`):
every offset of a span in the file resolves to the line one more than the line feeds before it,
at the column that counts from one past the last of them (as a 32-bit number); and line `n` is
the `n`-th piece of the contents split at line feeds, from 1 to one more than the feeds, and
empty otherwise. -/
theorem FileSet.added_file_positions (fs : FileSet) (path : String) (content : List UInt8)
    (isVirtual : Bool) :
    ∃ f, (fs.add path content isVirtual).1.get? (fs.add path content isVirtual).2 = some f ∧
      f.content = dropCrBeforeLf content ∧
      (∀ start stop, (fs.add path content isVirtual).1.resolve
          { file := (fs.add path content isVirtual).2, start, stop } =
        (plainLineCol f.content start, plainLineCol f.content stop)) ∧
      ∀ n, f.lineBytes n =
        if 1 ≤ n ∧ n ≤ f.content.count 0x0A + 1 then (f.content.splitOn 0x0A).getD (n - 1) []
        else [] := by
  obtain ⟨f, hget, hcontent, hf⟩ := FileSet.get?_add fs path content isVirtual
  refine ⟨f, hget, hcontent, fun start stop => ?_, SourceFile.lineBytes_eq_splitOn hf⟩
  unfold FileSet.resolve
  rw [hget]
  dsimp only
  rw [hf, lineColAt_lineFeedOffsets, lineColAt_lineFeedOffsets]

end BlockGraph
