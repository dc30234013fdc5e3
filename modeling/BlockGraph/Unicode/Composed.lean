import BlockGraph.Unicode.Table
import BlockGraph.Unicode.CanonicalData
/-!
# Canonical composition (NFC)

Text is normalized one segment at a time, as a streaming normalizer does, down to its corner
cases: pairs looked up by sixteen bits, Hangul-only composition after a jamo, stream-safe runs.
-/

namespace BlockGraph.Unicode

def decompositions : PointTable (List Nat) :=
  ((decompositionText.splitOn ";").toArray.filterMap fun item =>
    match item.splitOn ":" with
    | [c, ds] => some (parseHex c, (ds.splitOn " ").map parseHex)
    | _ => none)

def pairKey (a b : Nat) : Nat := a % 65536 * 65536 + b % 65536

def compositions : PointTable Nat :=
  let raw := (compositionText.splitOn ";").toArray.filterMap fun item =>
    match item.splitOn ":" with
    | [pair, c] =>
      match pair.splitOn " " with
      | [a, b] => some (pairKey (parseHex a) (parseHex b), parseHex c)
      | _ => none
    | _ => none
  raw.qsort (fun x y => x.1 < y.1)

def compositeParts : PointTable Unit × PointTable Unit :=
  let pairs := (compositionText.splitOn ";").toArray.filterMap fun item =>
    match item.splitOn ":" with
    | [pair, c] =>
      match pair.splitOn " " with
      | [_, b] => some (parseHex b, parseHex c)
      | _ => none
    | _ => none
  ((pairs.map fun (_, c) => (c, ())).qsort (fun x y => x.1 < y.1),
    (pairs.map fun (b, _) => (b, ())).qsort (fun x y => x.1 < y.1))

def isComposite (c : Nat) : Bool := (compositeParts.1.find? c).isSome

def combiningClasses : RangeTable := RangeTable.ofText combiningClassText

def combiningClass (c : Nat) : Nat :=
  if c < 0x300 then 0 else (combiningClasses.find? c).getD 0

def hangulBase : Nat := 0xAC00

def decompose (c : Nat) : List Nat :=
  if hangulBase ≤ c ∧ c < hangulBase + 11172 then
    let s := c - hangulBase
    let l := 0x1100 + s / 588
    let v := 0x1161 + (s % 588) / 28
    let t := s % 28
    if t = 0 then [l, v] else [l, v, 0x11A7 + t]
  else if c < 0xC0 then [c]
  else (decompositions.find? c).getD [c]

def isHangulSyllable (c : Nat) : Bool := hangulBase ≤ c && c < hangulBase + 11172

def composesBackward (c : Nat) : Bool :=
  (0x1161 ≤ c && c ≤ 0x1175) || (0x11A8 ≤ c && c ≤ 0x11C2) || (compositeParts.2.find? c).isSome

def countsAsMark (c : Nat) : Bool := combiningClass c != 0 || composesBackward c

def markCounts : RangeTable := RangeTable.ofText markCountText

def markEnds (c : Nat) : Nat × Nat :=
  match markCounts.find? c with
  | some v => (v / 4, v % 4)
  | none =>
    let d := decompose c
    ((d.takeWhile countsAsMark).length, (d.reverse.takeWhile countsAsMark).length)

structure Traits where
  order : Nat
  settled : Bool
  joinsBack : Bool
  splits : Bool
  leading : Nat
  trailing : Nat
  deriving Inhabited

def traits (c : Nat) : Traits :=
  let (lead, trail) := markEnds c
  if isHangulSyllable c then
    { order := 0, settled := true, joinsBack := false, splits := true, leading := 0,
      trailing := trail }
  else
    match decompositions.find? c with
    | some d =>
      let first := combiningClass (d.headD 0)
      { order := first, settled := isComposite c, joinsBack := false, splits := true,
        leading := if first != 0 || lead != 0 then trail else 0, trailing := trail }
    | none =>
      let cls := combiningClass c
      let back := composesBackward c
      { order := cls, settled := !back, joinsBack := back, splits := false,
        leading := if cls != 0 || back then trail else if lead != 0 then 1 else 0,
        trailing := trail }

inductive RunStep where
  | starter
  | mark
  | overflow
  deriving DecidableEq, Inhabited

def RunStep.next (run : Nat) (t : Traits) : RunStep × Nat :=
  if 30 < run + t.leading then (.overflow, 0)
  else if t.leading = 0 then (.starter, t.trailing)
  else (.mark, run + t.leading)

/-- How many characters at the front of a text may be kept as they are, and whether all of it
may. `i` is the position of the head, `seg` the start of the last segment, `last` the order of
the last character and `run` the marks counted. The prefix stops at the start of the segment
that holds a character that is not settled or a mark ordered below the one before it, or a
run of more than 30 marks; an ASCII character always starts a segment. -/
def settledPrefix (i seg last run : Nat) : List Nat → Nat × Bool
  | [] => (i, true)
  | c :: cs =>
    if c < 0x80 then settledPrefix (i + 1) i 0 0 cs
    else
      let t := traits c
      match RunStep.next run t with
      | (.overflow, _) => (seg, false)
      | (.starter, run') =>
        if t.settled then settledPrefix (i + 1) i t.order run' cs else (i, false)
      | (.mark, run') =>
        if t.order < last || !t.settled then (seg, false)
        else settledPrefix (i + 1) seg t.order run' cs

/-- A character in the composition buffer, with the class it is ordered by and whether it
composes backwards. Characters formed by composition, jamo of a syllable and the joiner carry
neither. -/
structure Slot where
  point : Nat
  order : Nat
  joinsBack : Bool
  deriving Inhabited

def slotOf (c : Nat) : Slot :=
  let t := traits c
  { point := c, order := t.order, joinsBack := t.joinsBack }

def plainSlot (c : Nat) : Slot := { point := c, order := 0, joinsBack := false }

def placeSlot (buf : List Slot) (s : Slot) : List Slot :=
  if s.order = 0 then buf ++ [s]
  else
    let above := (buf.reverse.takeWhile fun b => s.order < b.order).reverse
    buf.take (buf.length - above.length) ++ s :: above

def hangulPair (l v : Nat) : Option Nat :=
  if 0x1100 ≤ l ∧ l < 0x1113 ∧ 0x1161 ≤ v ∧ v < 0x1176 then
    some (hangulBase + ((l - 0x1100) * 21 + (v - 0x1161)) * 28)
  else if hangulBase ≤ l ∧ l < hangulBase + 11172 ∧ (l - hangulBase) % 28 = 0 ∧
      0x11A7 < v ∧ v < 0x11C3 then
    some (l + v - 0x11A7)
  else none

def lastOrder (kept : List Slot) : Nat := (kept.getLast?.map (·.order)).getD 0

/-- Composition once a jamo has been met, candidate at `s` of the `kept` slots. The candidate
moves to the last kept slot whenever that has class 0; a slot not blocked by the one before
it forms a Hangul syllable with the candidate when it can. -/
def composeJamo (s : Nat) (kept : List Slot) : List Slot → List Slot
  | [] => kept
  | e :: es =>
    let k := kept.length
    let before := lastOrder kept
    let s := if before = 0 then k - 1 else s
    if s ≠ k - 1 ∧ e.order ≤ before then composeJamo s (kept ++ [e]) es
    else
      match hangulPair (kept.getD s default).point e.point with
      | some p => composeJamo s (kept.set s (plainSlot p)) es
      | none => composeJamo s (kept ++ [e]) es

/-- Composition of the slots after the `kept` ones, candidate at `s`. A slot that composes
backwards makes the last kept slot the candidate when that has class 0, and otherwise is
blocked when that slot is not the candidate and has a class not below its own; unblocked, it
joins the candidate when the pair has a composite. -/
def composeSlots (s : Nat) (kept : List Slot) : List Slot → List Slot
  | [] => kept
  | e :: es =>
    if 0x1100 ≤ e.point ∧ e.point < 0x1200 then composeJamo s kept (e :: es)
    else if e.joinsBack then
      let k := kept.length
      let before := lastOrder kept
      let s := if before = 0 then k - 1 else s
      if s ≠ k - 1 ∧ e.order ≤ before then composeSlots s (kept ++ [e]) es
      else
        match compositions.find? (pairKey (kept.getD s default).point e.point) with
        | some p => composeSlots s (kept.set s (plainSlot p)) es
        | none => composeSlots s (kept ++ [e]) es
    else composeSlots s (kept ++ [e]) es

def composeBuffer : List Slot → List Nat
  | [] => []
  | b :: bs => (composeSlots 0 [b] bs).map (·.point)

/-- The output so far and the buffer after a character enters it: a Hangul syllable as its
jamo, a character with a decomposition as the characters of it, each placed by class. A
character of a decomposition that starts a segment first composes and flushes a buffer that is
not empty. -/
def enter (out : List Nat) (buf : List Slot) (c : Nat) (t : Traits) : List Nat × List Slot :=
  if isHangulSyllable c then (out, buf ++ (decompose c).map plainSlot)
  else if t.splits then
    (decompose c).foldl (fun (out, buf) d =>
      let s := slotOf d
      if s.order = 0 ∧ !s.joinsBack ∧ !buf.isEmpty then (out ++ composeBuffer buf, [s])
      else (out, placeSlot buf s)) (out, buf)
  else (out, placeSlot buf (slotOf c))

def graphemeJoiner : Nat := 0x34F

/-- The rest of a segment entering the buffer, `taken` characters taken and `run` marks
counted. It ends before a starter, or with the joiner before a character that overflows the
count. Returns the output flushed, the buffer, the characters taken and the count. -/
def gatherSegment (run taken : Nat) (out : List Nat) (buf : List Slot) :
    List Nat → List Nat × List Slot × Nat × Nat
  | [] => (out, buf, taken, run)
  | c :: cs =>
    let t := traits c
    match RunStep.next run t with
    | (.starter, run') => (out, buf, taken, run')
    | (.overflow, run') => (out, buf ++ [plainSlot graphemeJoiner], taken, run')
    | (.mark, run') =>
      let (out, buf) := enter out buf c t
      gatherSegment run' (taken + 1) out buf cs

def normalizeSegment (run : Nat) : List Nat → List Nat × Nat × Nat
  | [] => ([], 0, run)
  | c :: cs =>
    let t := traits c
    match RunStep.next run t with
    | (.overflow, run') => ([graphemeJoiner], 0, run')
    | (_, run') =>
      let (out, buf) := enter [] [] c t
      let (out, buf, taken, run'') := gatherSegment run' 1 out buf cs
      (out ++ composeBuffer buf, taken, run'')

/-- The rest of a text normalized from a segment start, `run` marks counted: a segment, then
the settled stretch after it, and so on. A round takes a character unless its first one
overflows the count, and then the count is 0 and the next round takes one; so twice the
length and one more rounds (`fuel`) reach the end. -/
def normalizeRest (fuel run : Nat) (xs : List Nat) : List Nat :=
  match fuel with
  | 0 => xs
  | fuel + 1 =>
    if xs.isEmpty then []
    else
      let (out, taken, run) := normalizeSegment run xs
      let rest := xs.drop taken
      if rest.isEmpty then out
      else
        let kept := (settledPrefix 0 0 0 0 rest).1
        out ++ rest.take kept ++ normalizeRest fuel run (rest.drop kept)

def composeAll (cs : List Nat) : List Nat :=
  match settledPrefix 0 0 0 0 cs with
  | (_, true) => cs
  | (n, false) => cs.take n ++ normalizeRest (2 * cs.length + 2) 0 (cs.drop n)

def nfc (s : String) : String :=
  if s.toList.all (fun c => c.toNat < 0x300) then s
  else String.ofList ((composeAll (s.toList.map Char.toNat)).map Char.ofNat)

end BlockGraph.Unicode
