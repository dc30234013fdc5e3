
namespace BlockGraph.Unicode

/-- The value of one hexadecimal digit (upper or lower case); other characters count 0. -/
def hexDigitValue (c : Char) : Nat :=
  if '0' ≤ c ∧ c ≤ '9' then c.toNat - 48
  else if 'A' ≤ c ∧ c ≤ 'F' then c.toNat - 55
  else if 'a' ≤ c ∧ c ≤ 'f' then c.toNat - 87
  else 0

def parseHex (s : String) : Nat := s.toList.foldl (fun acc c => acc * 16 + hexDigitValue c) 0

def parseDec (s : String) : Nat := s.toList.foldl (fun acc c => acc * 10 + (c.toNat - 48)) 0

abbrev RangeTable := Array (Nat × Nat × Nat)

/-- A range table from text `lo-hi:value;…` (bounds in hexadecimal, the value in decimal); a
single point may be written `c:value`, and a missing `:value` means 1. -/
def RangeTable.ofText (s : String) : RangeTable :=
  (s.splitOn ";").toArray.filterMap fun item =>
    if item = "" then none
    else
      let (bounds, value) := match item.splitOn ":" with
        | [b, v] => (b, parseDec v)
        | b :: _ => (b, 1)
        | [] => ("", 0)
      match bounds.splitOn "-" with
      | [lo, hi] => some (parseHex lo, parseHex hi, value)
      | [c] => some (parseHex c, parseHex c, value)
      | _ => none

/-- The value of the range holding `c`, searching entries `lo … hi - 1`. -/
def RangeTable.findIn (t : RangeTable) (c : Nat) (lo hi : Nat) : Option Nat :=
  if lo < hi then
    let mid := (lo + hi) / 2
    match t[mid]? with
    | none => none
    | some (a, b, v) =>
      if c < a then t.findIn c lo mid
      else if b < c then t.findIn c (mid + 1) hi
      else some v
  else none
termination_by hi - lo

def RangeTable.find? (t : RangeTable) (c : Nat) : Option Nat := t.findIn c 0 t.size

def RangeTable.contains (t : RangeTable) (c : Nat) : Bool := (t.find? c).isSome

abbrev PointTable (α : Type) := Array (Nat × α)

def PointTable.findIn {α : Type} (t : PointTable α) (k : Nat) (lo hi : Nat) : Option α :=
  if lo < hi then
    let mid := (lo + hi) / 2
    match t[mid]? with
    | none => none
    | some (a, v) =>
      if k < a then t.findIn k lo mid
      else if a < k then t.findIn k (mid + 1) hi
      else some v
  else none
termination_by hi - lo

def PointTable.find? {α : Type} (t : PointTable α) (k : Nat) : Option α := t.findIn k 0 t.size

end BlockGraph.Unicode
