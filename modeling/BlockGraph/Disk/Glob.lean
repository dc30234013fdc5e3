import BlockGraph.Disk.Tree
import BlockGraph.Text.Utf8

namespace BlockGraph.Disk

def slash : UInt8 := 47

def scanChunk (p : List UInt8) : Bool × List UInt8 × List UInt8 :=
  let star := p.head? == some 42
  let rec go : Bool → List UInt8 → List UInt8 → List UInt8 × List UInt8
    | _, [], acc => (acc.reverse, [])
    | inClass, c :: rest, acc =>
      if c == 92 then
        match rest with
        | d :: more => go inClass more (d :: c :: acc)
        | [] => ((c :: acc).reverse, [])
      else if c == 91 then go true rest (c :: acc)
      else if c == 93 then go false rest (c :: acc)
      else if c == 42 && !inClass then (acc.reverse, c :: rest)
      else go inClass rest (c :: acc)
  let (chunk, rest) := go false (p.dropWhile (· == 42)) []
  (star, chunk, rest)

/-- One character of a class, a backslash making the next one plain, and what follows it;
none when the class is malformed there: at its end, at `-` or `]`, at a byte that starts no
character, or when nothing follows. -/
def classChar (chunk : List UInt8) : Option (Char × List UInt8) :=
  match chunk with
  | [] => none
  | b :: rest =>
    if b == 45 || b == 93 then none
    else
      match (if b == 92 then rest else chunk) with
      | [] => none
      | c :: tl =>
        let (r, n) := Utf8.lead c tl
        if n = 0 && 0x80 ≤ c then none
        else
          let next := tl.drop n
          if next.isEmpty then none else some (r, next)

/-- The ranges of a class up to its closing bracket, and the text after it; none when the
class is malformed. A closing bracket ends the class only after at least one range. -/
def classRanges : Nat → Bool → List UInt8 → List (Char × Char) → Option (List (Char × Char) × List UInt8)
  | 0, _, _, _ => none
  | fuel + 1, started, chunk, acc =>
    match chunk with
    | b :: rest =>
      if b == 93 && started then some (acc, rest)
      else do
        let (lo, rest) ← classChar chunk
        match rest with
        | d :: more =>
          if d == 45 then do
            let (hi, rest) ← classChar more
            classRanges fuel true rest ((lo, hi) :: acc)
          else classRanges fuel true rest ((lo, lo) :: acc)
        | [] => classRanges fuel true rest ((lo, lo) :: acc)
    | [] => none

def firstChar (s : List UInt8) : Option (Char × List UInt8) :=
  match s with
  | [] => none
  | b :: tl => let (c, n) := Utf8.lead b tl; some (c, tl.drop n)

/-- Matches one chunk against the start of a name: none for a malformed chunk, otherwise the
rest of the name after a match, or none when it does not match. Once the match has failed the
chunk is still read to its end for faults. -/
def matchChunk : Nat → List UInt8 → List UInt8 → Bool → Option (Option (List UInt8))
  | _, [], s, failed => some (if failed then none else some s)
  | 0, _ :: _, _, _ => none
  | fuel + 1, c :: cs, s, failed =>
    let failed := failed || s.isEmpty
    let plain (d : UInt8) (ds : List UInt8) : Option (Option (List UInt8)) :=
      if failed then matchChunk fuel ds s true else matchChunk fuel ds s.tail (s.head? != some d)
    if c == 91 then
      let (r, s) := if failed then (none, s) else
        match firstChar s with
        | some (ch, rest) => (some ch, rest)
        | none => (none, s)
      let (negated, cs) := match cs with
        | b :: more => if b == 94 then (true, more) else (false, cs)
        | [] => (false, cs)
      match classRanges (cs.length + 1) false cs [] with
      | none => none
      | some (ranges, cs) =>
        let inside := match r with
          | some r => ranges.any fun (lo, hi) => lo ≤ r && r ≤ hi
          | none => false
        matchChunk fuel cs s (failed || inside == negated)
    else if c == 63 then
      if failed then matchChunk fuel cs s failed
      else
        match firstChar s with
        | some (_, rest) => matchChunk fuel cs rest (s.head? == some slash)
        | none => matchChunk fuel cs s true
    else if c == 92 then
      match cs with
      | [] => none
      | d :: ds => plain d ds
    else plain c cs

def Chunk.matchStart (chunk s : List UInt8) : Option (Option (List UInt8)) :=
  matchChunk (chunk.length + 1) chunk s false

/-- A star before a chunk: the chunk tried after each byte of the name up to the first
separator, the first place where it matches winning; the last chunk must match to the end. -/
def skipStar (chunk : List UInt8) (last : Bool) : List UInt8 → Option (Option (List UInt8))
  | [] => some none
  | c :: cs =>
    if c == slash then some none
    else
      match Chunk.matchStart chunk cs with
      | none => none
      | some (some t) => if last && !t.isEmpty then skipStar chunk last cs else some (some t)
      | some none => skipStar chunk last cs

def matchFrom : Nat → List UInt8 → List UInt8 → Option Bool
  | 0, _, _ => some false
  | _, [], name => some name.isEmpty
  | fuel + 1, p, name =>
    let (star, chunk, rest) := scanChunk p
    let retry : Option Bool :=
      if !star then some false
      else
        match skipStar chunk rest.isEmpty name with
        | none => none
        | some (some t) => matchFrom fuel rest t
        | some none => some false
    if star && chunk.isEmpty then some (!name.contains slash)
    else
      match Chunk.matchStart chunk name with
      | none => none
      | some (some t) => if t.isEmpty || !rest.isEmpty then matchFrom fuel rest t else retry
      | some none => retry

def patternMatches (pattern name : String) : Option Bool :=
  matchFrom (pattern.utf8ByteSize + 2) (Utf8.encode pattern) (Utf8.encode name)

def hasMeta (p : String) : Bool := p.toList.any fun c => c = '*' || c = '?' || c = '[' || c = '\\'

def splitLast (p : String) : String × String :=
  let cs := p.toList
  let file := cs.reverse.takeWhile (· ≠ '/')
  (String.ofList (cs.take (cs.length - file.length)), String.ofList file.reverse)

def globDir (dir : String) : String :=
  if dir = "" then "." else if dir = "/" then dir else String.ofList dir.toList.dropLast

namespace Tree

def globIn (t : Tree) (cwd : Location) (dir pattern : String) (found : List String) : Option (List String) :=
  match t.locate cwd dir with
  | .error _ => .some found
  | .ok l =>
    if !t.isDir l then .some found
    else (t.entries l).foldlM (fun acc (name, _) => do
      let m ← patternMatches pattern name
      return if m then acc ++ [Path.join dir name] else acc) found

def globFrom (t : Tree) (cwd : Location) : Nat → String → Option (List String)
  | 0, _ => none
  | fuel + 1, pattern => do
    let _ ← patternMatches pattern ""
    if !hasMeta pattern then
      return match t.locate cwd pattern with
        | .ok _ => [pattern]
        | .error _ => []
    let (dir, file) := splitLast pattern
    let dir := globDir dir
    if !hasMeta dir then t.globIn cwd dir file []
    else if dir = pattern then none
    else
      let dirs ← t.globFrom cwd fuel dir
      dirs.foldlM (fun acc d => t.globIn cwd d file acc) []

def glob (t : Tree) (cwd : Location) (pattern : String) : Option (List String) :=
  t.globFrom cwd (pattern.length + 2) pattern

end Tree

end BlockGraph.Disk
