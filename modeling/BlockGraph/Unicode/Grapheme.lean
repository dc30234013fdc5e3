import BlockGraph.Unicode.Table
import BlockGraph.Unicode.WidthData
import BlockGraph.Text.Utf8

namespace BlockGraph.Unicode

inductive BreakClass where
  | other | cr | lf | control | extend | zwj | regionalIndicator | prepend | spacingMark
  | l | v | t | lv | lvt
  deriving BEq, DecidableEq, Inhabited, Repr

def BreakClass.ofNumber : Nat → BreakClass
  | 1 => .cr | 2 => .lf | 3 => .control | 4 => .extend | 5 => .zwj | 6 => .regionalIndicator
  | 7 => .prepend | 8 => .spacingMark | 9 => .l | 10 => .v | 11 => .t | 12 => .lv | 13 => .lvt
  | _ => .other

def graphemeBreaks : RangeTable := RangeTable.ofText graphemeBreakText

def pictographics : RangeTable := RangeTable.ofText pictographicText

structure UnitClass where
  brk : BreakClass := .other
  pictographic : Bool := false
  deriving BEq, Inhabited, Repr

def UnitClass.ofCode (c : Nat) : UnitClass :=
  let brk :=
    if 0xAC00 ≤ c ∧ c ≤ 0xD7A3 then (if (c - 0xAC00) % 28 = 0 then .lv else .lvt)
    else BreakClass.ofNumber ((graphemeBreaks.find? c).getD 0)
  { brk, pictographic := pictographics.contains c }

def unitSize (b0 : UInt8) : Nat :=
  if b0 < 0xC2 then 1 else if b0 < 0xE0 then 2 else if b0 < 0xF0 then 3 else if b0 < 0xF8 then 4 else 1

/-- The first unit of the bytes: `some (n, c)` when it takes `n + 1` bytes and has class `c`,
`none` when there are no bytes or a lead byte wants more bytes than are left. A stray byte, or a
lead byte followed by fewer continuation bytes than it wants, is a unit of itself and those
continuation bytes. -/
def firstUnit : List UInt8 → Option (Nat × UnitClass)
  | [] => none
  | b0 :: rest =>
    if b0 < 0x80 then some (0, UnitClass.ofCode b0.toNat)
    else
      let size := unitSize b0
      if size = 1 then some (0, {})
      else if rest.length + 1 < size then none
      else
        let tails := ((rest.take (size - 1)).takeWhile Utf8.isTail).length
        if tails + 1 < size then some (tails, {})
        else
          let (c, n) := Utf8.lead b0 rest
          if n + 1 = size then some (size - 1, UnitClass.ofCode c.toNat) else some (size - 1, {})

/-- The state of the cluster being built: the class of the last unit, of the last unit that
was not `Extend` and of the one such unit before it, and the regional indicators paired. -/
structure ClusterState where
  last : UnitClass
  lastSolid : UnitClass := {}
  beforeSolid : UnitClass := {}
  indicators : Nat := 0

def ClusterState.joins (s : ClusterState) (u : UnitClass) : Bool × ClusterState :=
  let last := s.last
  let (beforeSolid, lastSolid) :=
    if last.brk = .extend then (s.beforeSolid, s.lastSolid) else (s.lastSolid, last)
  let s := { s with last := u, lastSolid, beforeSolid }
  let isBreakChar (b : BreakClass) := b = .control ∨ b = .cr ∨ b = .lf
  if u.brk = .lf ∧ last.brk = .cr then (true, s)
  else if isBreakChar u.brk ∨ isBreakChar last.brk then (false, s)
  else if last.brk = .l ∧ (u.brk = .l ∨ u.brk = .v ∨ u.brk = .lv ∨ u.brk = .lvt) then (true, s)
  else if (last.brk = .lv ∨ last.brk = .v) ∧ (u.brk = .v ∨ u.brk = .t) then (true, s)
  else if (last.brk = .lvt ∨ last.brk = .t) ∧ u.brk = .t then (true, s)
  else if u.brk = .extend ∨ u.brk = .zwj ∨ u.brk = .spacingMark then (true, s)
  else if last.brk = .prepend then (true, s)
  else if u.pictographic ∧ last.brk = .zwj ∧ beforeSolid.pictographic then (true, s)
  else if u.brk = .regionalIndicator ∧ last.brk = .regionalIndicator then
    let s := { s with indicators := s.indicators + 1 }
    (s.indicators % 2 = 1, s)
  else (false, s)

/-- The number of bytes that the units at the head of `rest` add to the cluster whose state is
`s`; a sequence cut short by the end adds everything left. -/
def clusterRest (s : ClusterState) : List UInt8 → Nat
  | [] => 0
  | b :: bs =>
    match firstUnit (b :: bs) with
    | none => bs.length + 1
    | some (n, u) =>
      let (joined, s) := s.joins u
      if joined then n + 1 + clusterRest s ((b :: bs).drop (n + 1)) else 0
termination_by rest => rest.length
decreasing_by simp only [List.length_drop, List.length_cons]; omega

def firstCluster (bs : List UInt8) : Nat :=
  match firstUnit bs with
  | none => bs.length
  | some (n, u) => n + 1 + clusterRest { last := u } (bs.drop (n + 1))

theorem firstCluster_pos (b : UInt8) (bs : List UInt8) : 0 < firstCluster (b :: bs) := by
  unfold firstCluster
  split
  · simp only [List.length_cons]; omega
  · omega

def clusters (bs : List UInt8) : List (List UInt8) :=
  match bs with
  | [] => []
  | b :: rest =>
    let n := firstCluster (b :: rest)
    (b :: rest).take n :: clusters ((b :: rest).drop n)
termination_by bs.length
decreasing_by
  have := firstCluster_pos b rest
  simp only [List.length_drop, List.length_cons]
  omega

end BlockGraph.Unicode
