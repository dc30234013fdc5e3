import BlockGraph.Graph.Buffer
/-!
# The byte slice behaves as bytes and a position within them

Every call keeps a slice's position within its length and its length within its capacity, and
does what the reference does, but that a seek to 2^63 or past it fails.
-/

namespace BlockGraph.Graph

theorem length_overwrite {xs : List UInt8} {i : Nat} (hi : i ≤ xs.length) (p : List UInt8) :
    (overwrite xs i p).length = max xs.length (i + p.length) := by
  simp only [overwrite, List.length_append, List.length_take, List.length_drop]
  omega

theorem getElem?_overwrite {xs : List UInt8} {i : Nat} (hi : i ≤ xs.length) (p : List UInt8)
    (j : Nat) :
    (overwrite xs i p)[j]? = if i ≤ j ∧ j < i + p.length then p[j - i]? else xs[j]? := by
  have htake : (xs.take i).length = i := by simp; omega
  simp only [overwrite, List.append_assoc]
  by_cases hlow : j < i
  · rw [List.getElem?_append_left (by omega), List.getElem?_take_of_lt hlow, if_neg (by omega)]
  · rw [List.getElem?_append_right (by omega), htake]
    by_cases hp : j - i < p.length
    · rw [List.getElem?_append_left hp, if_pos (by omega)]
    · rw [List.getElem?_append_right (by omega), List.getElem?_drop, if_neg (by omega)]
      congr 1
      omega

theorem Storage.le_growLarge {needed : Nat} :
    ∀ (fuel cap : Nat), 256 ≤ cap → needed ≤ cap + 192 * fuel →
      needed ≤ Storage.growLarge needed fuel cap
  | 0, cap, _, h => by simpa [Storage.growLarge] using h
  | fuel + 1, cap, hcap, h => by
    rw [Storage.growLarge]
    split
    · assumption
    · exact Storage.le_growLarge fuel _ (by omega) (by omega)

theorem le_appendCap (c n : Nat) : n ≤ appendCap c n := by
  have htarget : n ≤ if 2 * c < n then n else if c < 256 then 2 * c else Storage.growLarge n n c := by
    split
    · exact Nat.le_refl n
    · split
      · omega
      · exact Storage.le_growLarge n c (by omega) (by omega)
  simp only [appendCap]
  generalize (if 2 * c < n then n else if c < 256 then 2 * c else Storage.growLarge n n c) = t at *
  split
  · cases hfind : Storage.blockSizes.find? (t ≤ ·) with
    | none => exact htarget
    | some size =>
      have : t ≤ size := by simpa using List.find?_some hfind
      simp only [Option.getD_some]
      omega
  · omega

namespace Buffer

variable {b : Buffer}

/-- A slice whose position is within its length and whose length is within its capacity. -/
structure Valid (b : Buffer) : Prop where
  pos_le : b.pos ≤ b.len
  len_le : b.len ≤ b.cap

theorem valid_empty : ({} : Buffer).Valid := ⟨Nat.le_refl 0, Nat.le_refl 0⟩

theorem length_bytes (h : b.len ≤ b.cap) : b.bytes.length = b.len := by
  simp only [bytes, List.length_take, cap] at *
  omega

theorem getElem?_bytes (b : Buffer) (j : Nat) :
    b.bytes[j]? = if j < b.len then b.backing[j]? else none := by
  simp only [bytes, List.getElem?_take]

theorem length_regrow (h : b.len ≤ b.cap) (c : Nat) : (b.regrow c).length = max b.len c := by
  simp only [regrow, List.length_append, List.length_replicate, length_bytes h]
  omega

theorem getElem?_regrow (h : b.len ≤ b.cap) (c j : Nat) :
    (b.regrow c)[j]? = if j < b.len then b.backing[j]? else if j < c then some 0 else none := by
  rw [regrow]
  by_cases hj : j < b.len
  · rw [List.getElem?_append_left (by rw [length_bytes h]; exact hj), getElem?_bytes, if_pos hj,
      if_pos hj]
  · rw [List.getElem?_append_right (by rw [length_bytes h]; omega), List.getElem?_replicate,
      length_bytes h, if_neg hj]
    by_cases hc : j < c
    · rw [if_pos (by omega), if_pos hc]
    · rw [if_neg (by omega), if_neg hc]

/-! ## Writing -/

theorem arrayFor_agrees (h : b.len ≤ b.cap) (finish : Nat) :
    b.len ≤ (b.arrayFor finish).length ∧ ∀ j < b.len, (b.arrayFor finish)[j]? = b.backing[j]? := by
  unfold arrayFor
  split
  · refine ⟨by rw [length_regrow h]; omega, fun j hj => ?_⟩
    rw [getElem?_regrow h, if_pos hj]
  · exact ⟨h, fun _ _ => rfl⟩

theorem write_pos (b : Buffer) (x : List UInt8) : (b.write x).pos = b.pos + x.length := rfl

theorem write_len (b : Buffer) (x : List UInt8) :
    (b.write x).len = max b.len (b.pos + x.length) := rfl

theorem write_valid (h : b.Valid) (x : List UInt8) : (b.write x).Valid := by
  have hroom := (arrayFor_agrees h.len_le (b.pos + x.length)).1
  constructor
  · rw [write_pos, write_len]
    omega
  · show max b.len (b.pos + x.length) ≤ (overwrite _ b.pos x).length
    rw [length_overwrite (by have := h.pos_le; omega)]
    omega

theorem getElem?_bytes_write (h : b.Valid) (x : List UInt8) (j : Nat) :
    (b.write x).bytes[j]? =
      if b.pos ≤ j ∧ j < b.pos + x.length then x[j - b.pos]? else b.bytes[j]? := by
  obtain ⟨hroom, hkeep⟩ := arrayFor_agrees h.len_le (b.pos + x.length)
  have hpos := h.pos_le
  rw [getElem?_bytes, write_len, getElem?_bytes]
  show (if j < max b.len (b.pos + x.length) then (overwrite _ b.pos x)[j]? else none) = _
  rw [getElem?_overwrite (by omega)]
  by_cases hx : b.pos ≤ j ∧ j < b.pos + x.length
  · rw [if_pos (by omega), if_pos hx, if_pos hx]
  · rw [if_neg hx, if_neg hx]
    by_cases hj : j < b.len
    · rw [if_pos (by omega), if_pos hj, hkeep j hj]
    · -- past the old length and outside `x`: past the new length too
      rw [if_neg (by omega), if_neg hj]

theorem bytes_write (h : b.Valid) (x : List UInt8) :
    (b.write x).bytes = b.bytes.take b.pos ++ x ++ b.bytes.drop (b.pos + x.length) := by
  have hpos : b.pos ≤ b.bytes.length := by rw [length_bytes h.len_le]; exact h.pos_le
  apply List.ext_getElem?
  intro j
  rw [getElem?_bytes_write h, ← getElem?_overwrite hpos]
  rfl

/-! ## Seeking -/

/-- Where a seek counts from, as the reference has it: the start for `whence` 0, the position
for 1, the end for 2, and nowhere for any other number. -/
def seekBase? (b : Buffer) (whence : Int) : Option Nat :=
  if whence = 0 then some 0
  else if whence = 1 then some b.pos
  else if whence = 2 then some b.len
  else none

theorem toInt_ofNat_add {base : Nat} (hbase : base < Nat.pow 2 63) {offset : Int64}
    (hsum : (base : Int) + offset.toInt ≤ Int64.maxValue.toInt) :
    (Int64.ofNat base + offset).toInt = base + offset.toInt := by
  have hlo := offset.le_toInt
  have hb : base < 9223372036854775808 := hbase
  rw [Int64.toInt_maxValue] at hsum
  rw [Int64.toInt_add, Int64.toInt_ofNat_of_lt hbase]
  exact Int.bmod_eq_of_le (by omega) (by omega)

/-- Past the largest 64-bit integer the sum wraps below zero: it is negative exactly when the
integer sum is negative or passes the largest 64-bit integer. -/
theorem ofNat_add_neg_iff {base : Nat} (hbase : base < Nat.pow 2 63) (offset : Int64) :
    Int64.ofNat base + offset < 0 ↔
      (base : Int) + offset.toInt < 0 ∨ Int64.maxValue.toInt < (base : Int) + offset.toInt := by
  have hlo := offset.le_toInt
  have hhi := offset.toInt_lt
  have hb : base < 9223372036854775808 := hbase
  rw [Int64.lt_iff_toInt_lt, Int64.toInt_add, Int64.toInt_ofNat_of_lt hbase, Int64.toInt_zero,
    Int64.toInt_maxValue, Int.bmod_def]
  split <;> omega

theorem seek_of_base_none {offset : Int64} {whence : Int} (h : seekBase? b whence = none) :
    b.seek offset whence = .error .invalidWhence := by
  have h0 : whence ≠ 0 := by rintro rfl; simp [seekBase?] at h
  have h1 : whence ≠ 1 := by rintro rfl; simp [seekBase?] at h
  have h2 : whence ≠ 2 := by rintro rfl; simp [seekBase?] at h
  unfold seek SeekOrigin.ofWhence?
  split <;> simp_all

theorem seek_of_base {offset : Int64} {whence : Int} {base : Nat}
    (h : seekBase? b whence = some base) :
    b.seek offset whence =
      if Int64.ofNat base + offset < 0 then .error .negativePosition
      else .ok ({ b.fill (Int64.ofNat base + offset).toInt.toNat with
        pos := (Int64.ofNat base + offset).toInt.toNat }, Int64.ofNat base + offset) := by
  simp only [seekBase?] at h
  repeat' split at h
  all_goals cases h
  all_goals subst whence; rfl

theorem appendZeros_len (b : Buffer) (k : Nat) : (b.appendZeros k).len = b.len + k := by
  unfold appendZeros
  split <;> rfl

theorem appendZeros_valid (h : b.len ≤ b.cap) (k : Nat) :
    (b.appendZeros k).len ≤ (b.appendZeros k).cap := by
  rw [appendZeros_len]
  unfold appendZeros
  split
  · show b.len + k ≤ (overwrite b.backing b.len _).length
    rw [length_overwrite h, List.length_replicate]
    omega
  · show b.len + k ≤ (b.regrow _).length
    rw [length_regrow h]
    have := le_appendCap b.cap (b.len + k)
    omega

theorem getElem?_bytes_appendZeros (h : b.len ≤ b.cap) (k j : Nat) :
    (b.appendZeros k).bytes[j]? =
      if j < b.len then b.backing[j]? else if j < b.len + k then some 0 else none := by
  unfold appendZeros
  split
  · rw [getElem?_bytes]
    show (if j < b.len + k then (overwrite b.backing b.len _)[j]? else none) = _
    rw [getElem?_overwrite h, List.length_replicate, List.getElem?_replicate]
    by_cases hj : j < b.len
    · rw [if_pos (by omega), if_neg (by omega), if_pos hj]
    · by_cases hk : j < b.len + k
      · rw [if_pos hk, if_pos (by omega), if_pos (by omega), if_neg hj, if_pos hk]
      · rw [if_neg hk, if_neg hj, if_neg hk]
  · rw [getElem?_bytes]
    show (if j < b.len + k then (b.regrow _)[j]? else none) = _
    have := le_appendCap b.cap (b.len + k)
    rw [getElem?_regrow h]
    by_cases hj : j < b.len
    · rw [if_pos (by omega), if_pos hj, if_pos hj]
    · by_cases hk : j < b.len + k
      · rw [if_pos hk, if_neg hj, if_pos (by omega), if_neg hj, if_pos hk]
      · rw [if_neg hk, if_neg hj, if_neg hk]

theorem getElem?_bytes_fill (h : b.len ≤ b.cap) (n j : Nat) :
    (b.fill n).bytes[j]? =
      if j < b.bytes.length then b.bytes[j]? else if j < n then some 0 else none := by
  rw [length_bytes h]
  unfold fill
  split
  · rw [getElem?_bytes_appendZeros h, getElem?_bytes]
    by_cases hj : j < b.len
    · rw [if_pos hj, if_pos hj, if_pos hj]
    · rw [if_neg hj, if_neg hj, show b.len + (n - b.len) = n by omega]
  · rw [getElem?_bytes]
    by_cases hj : j < b.len
    · rw [if_pos hj, if_pos hj]
    · rw [if_neg hj, if_neg hj, if_neg (by omega)]

theorem fill_valid (h : b.len ≤ b.cap) (n : Nat) :
    n ≤ (b.fill n).len ∧ (b.fill n).len ≤ (b.fill n).cap := by
  unfold fill
  split
  · refine ⟨by rw [appendZeros_len]; omega, appendZeros_valid h _⟩
  · exact ⟨by omega, h⟩

/-! ## Calls -/

/-- One call on a buffer: a write of bytes, or a seek by a 64-bit offset from the origin a
`whence` number names. -/
inductive Call where
  | write (bytes : List UInt8)
  | seek (offset : Int64) (whence : Int)

/-- The buffer after a call; a seek that fails leaves it as it was. -/
def perform (b : Buffer) : Call → Buffer
  | .write x => b.write x
  | .seek offset whence => (((b.seek offset whence).map Prod.fst).toOption).getD b

def performAll (b : Buffer) (cs : List Call) : Buffer := cs.foldl perform b

theorem perform_seek_of_error {offset : Int64} {whence : Int} {e : SeekError}
    (h : b.seek offset whence = .error e) : b.perform (.seek offset whence) = b := by
  simp [perform, h, Except.map, Except.toOption]

theorem seek_valid (h : b.Valid) {offset : Int64} {whence : Int} {b' : Buffer} {n : Int64}
    (hseek : b.seek offset whence = .ok (b', n)) : b'.Valid := by
  cases hbase : seekBase? b whence with
  | none =>
    rw [seek_of_base_none hbase] at hseek
    cases hseek
  | some base =>
    rw [seek_of_base hbase] at hseek
    split at hseek
    · cases hseek
    · cases hseek
      exact ⟨(fill_valid h.len_le _).1, (fill_valid h.len_le _).2⟩

theorem perform_valid (h : b.Valid) : ∀ c : Call, (b.perform c).Valid
  | .write x => write_valid h x
  | .seek offset whence => by
    cases hseek : b.seek offset whence with
    | error e => rw [perform_seek_of_error hseek]; exact h
    | ok r =>
      obtain ⟨b', n⟩ := r
      have hperform : b.perform (.seek offset whence) = b' := by
        simp [perform, hseek, Except.map, Except.toOption]
      rw [hperform]
      exact seek_valid h hseek

theorem performAll_valid (h : b.Valid) (cs : List Call) : (b.performAll cs).Valid := by
  induction cs generalizing b with
  | nil => exact h
  | cons c cs ih => exact ih (perform_valid h c)

/-! ## The reference -/

theorem write_follows_reference (h : b.Valid) (x : List UInt8) :
    (b.write x).pos = b.pos + x.length ∧
      (b.write x).bytes.length = max b.bytes.length (b.pos + x.length) ∧
      ∀ i, (b.write x).bytes[i]? =
        if b.pos ≤ i ∧ i < b.pos + x.length then x[i - b.pos]? else b.bytes[i]? := by
  refine ⟨write_pos b x, ?_, getElem?_bytes_write h x⟩
  rw [length_bytes (write_valid h x).len_le, write_len, length_bytes h.len_le]

theorem seekBase?_lt (h : b.Valid) (hfits : b.len < Nat.pow 2 63) {whence : Int} {base : Nat}
    (hbase : seekBase? b whence = some base) : base < Nat.pow 2 63 := by
  have hpos := h.pos_le
  simp only [seekBase?] at hbase
  repeat' split at hbase
  all_goals cases hbase
  all_goals omega

/-- A seek from a valid slice shorter than 2^63 bytes: from an unknown origin it fails; from a
known one it fails as a negative position when the sum is below zero or passes the largest
64-bit integer, and otherwise moves the position to the sum, zeros filling the gap past the
end. A failed seek leaves the slice as it was. -/
theorem seek_follows_reference (h : b.Valid) (hfits : b.len < Nat.pow 2 63) (offset : Int64)
    (whence : Int) :
    (seekBase? b whence = none →
      b.seek offset whence = .error .invalidWhence ∧ b.perform (.seek offset whence) = b) ∧
    ∀ base, seekBase? b whence = some base →
      ((base : Int) + offset.toInt < 0 ∨ Int64.maxValue.toInt < (base : Int) + offset.toInt →
        b.seek offset whence = .error .negativePosition ∧ b.perform (.seek offset whence) = b) ∧
      (0 ≤ (base : Int) + offset.toInt ∧ (base : Int) + offset.toInt ≤ Int64.maxValue.toInt →
        ∃ b', b.seek offset whence = .ok (b', Int64.ofInt (base + offset.toInt)) ∧
          b'.pos = (base + offset.toInt).toNat ∧
          ∀ i, b'.bytes[i]? = if i < b.bytes.length then b.bytes[i]?
            else if i < (base + offset.toInt).toNat then some 0 else none) := by
  refine ⟨fun hnone => ?_, fun base hbase => ⟨fun hout => ?_, fun hin => ?_⟩⟩
  · have hseek : b.seek offset whence = .error .invalidWhence := seek_of_base_none hnone
    exact ⟨hseek, perform_seek_of_error hseek⟩
  all_goals have hb : base < Nat.pow 2 63 := seekBase?_lt h hfits hbase
  · have hseek : b.seek offset whence = .error .negativePosition := by
      rw [seek_of_base hbase, if_pos ((ofNat_add_neg_iff hb offset).2 hout)]
    exact ⟨hseek, perform_seek_of_error hseek⟩
  · have hsum : (Int64.ofNat base + offset).toInt = base + offset.toInt := toInt_ofNat_add hb hin.2
    have hnext : Int64.ofNat base + offset = Int64.ofInt (base + offset.toInt) := by
      rw [← hsum, Int64.ofInt_toInt]
    rw [seek_of_base hbase, if_neg (fun hneg => by
      rcases (ofNat_add_neg_iff hb offset).1 hneg with hlt | hge <;> omega), hsum, hnext]
    exact ⟨_, rfl, rfl, getElem?_bytes_fill h.len_le _⟩

example : (({} : Buffer).performAll [.seek 2 0, .write [120]]).bytes = [0, 0, 120] ∧
    (({} : Buffer).performAll [.seek 2 0, .write [120], .seek (-5) 2]).bytes = [0, 0, 120] := by
  decide

end Buffer

end BlockGraph.Graph
