import BlockGraph.Markdown.Chars
import BlockGraph.Text.Fold

namespace BlockGraph.Markdown

/-- A text with every run of blank characters made one space; `inBlank` when a blank was just
written. -/
def collapseBlanks : List Char → Bool → List Char
  | [], _ => []
  | c :: rest, inBlank =>
    if isSpace c then (if inBlank then collapseBlanks rest true else ' ' :: collapseBlanks rest true)
    else c :: collapseBlanks rest false

def labelKey (label : List Char) : String :=
  Text.fold (String.ofList (collapseBlanks (trim label) false))

def skipBlanks (s : Array Char) (i : Nat) : Nat :=
  if h : i < s.size then (if isSpace s[i] then skipBlanks s (i + 1) else i) else i
termination_by s.size - i

/-- The position after the line that position `i` stands on: after its line feed, or the end. -/
def lineEnd (s : Array Char) (i : Nat) : Nat :=
  if h : i < s.size then (if s[i] = '\n' then i + 1 else lineEnd s (i + 1)) else s.size
termination_by s.size - i

def restOfLine (s : Array Char) (i : Nat) : List Char :=
  (s.toList.drop i).take (lineEnd s i - i)

def between (s : Array Char) (i j : Nat) : List Char := (s.toList.drop i).take (j - i)

def charAt (s : Array Char) (i : Nat) : Option Char := s[i]?

def escapesNext (s : Array Char) (i : Nat) : Bool :=
  charAt s i = some '\\' && (match charAt s (i + 1) with | some c => isPunct c | none => false)

/-- The position of the closing mark from position `i`, skipping escaped characters; an
opening mark first spoils the search. -/
def closingMark (s : Array Char) (opener closer : Char) (i : Nat) : Option Nat :=
  if h : i < s.size then
    if escapesNext s i then closingMark s opener closer (i + 2)
    else if s[i] = closer then some i
    else if s[i] = opener then none
    else closingMark s opener closer (i + 1)
  else none
termination_by s.size - i

def bracketedEnd : List Char → Nat → Option Nat
  | '\\' :: c :: rest, k => if isPunct c then bracketedEnd rest (k + 2) else bracketedEnd (c :: rest) (k + 1)
  | '>' :: _, k => some (k + 1)
  | _ :: rest, k => bracketedEnd rest (k + 1)
  | [], _ => none

def bareLength : List Char → Int → Nat → Nat
  | '\\' :: c :: rest, depth, k =>
    if isPunct c then bareLength rest depth (k + 2) else bareLength (c :: rest) depth (k + 1)
  | c :: rest, depth, k =>
    if c = '(' then bareLength rest (depth + 1) (k + 1)
    else if c = ')' then (if depth - 1 < 0 then k else bareLength rest (depth - 1) (k + 1))
    else if isSpace c then k
    else bareLength rest depth (k + 1)
  | [], _, k => k

def destinationEnd (s : Array Char) (i : Nat) : Option Nat :=
  let i := skipBlanks s i
  match restOfLine s i with
  | '<' :: rest => (bracketedEnd rest 1).map (i + ·)
  | line =>
    let k := bareLength line 0 0
    if k = 0 then none else some (i + k)

def titleCloser (c : Char) : Option Char :=
  if c = '"' then some '"' else if c.toNat = 39 then some c else if c = '(' then some ')' else none

def titleEnd (s : Array Char) (i : Nat) : Option Nat :=
  let i := skipBlanks s i
  match charAt s i with
  | some c =>
    match titleCloser c with
    | some closer => (closingMark s c closer (i + 1)).map (· + 1)
    | none => none
  | none => none

def lineIndex (s : Array Char) (i : Nat) : Nat := ((s.toList.take i).filter (· = '\n')).length

/-- One reference definition read at position `i`: its label, the lines it takes (the first,
and one past the last) and where reading goes on. -/
structure Definition where
  label : List Char
  firstLine : Nat
  endLine : Nat
  next : Nat

def readDefinition (s : Array Char) (i : Nat) : Option Definition := do
  let i := skipBlanks s i
  guard (i < s.size)
  let startLine := lineIndex s i
  guard (charAt s i = some '[')
  let close ← closingMark s '[' ']' (i + 1)
  let label := between s (i + 1) close
  guard (!isBlank label)
  guard (charAt s (close + 1) = some ':')
  let dEnd ← destinationEnd s (close + 2)
  let newLine := isBlank (restOfLine s dEnd)
  let endLine := lineIndex s dEnd
  let k := skipBlanks s dEnd
  let opener := charAt s k
  match opener.bind titleCloser with
  | none =>
    guard newLine
    return { label, firstLine := startLine, endLine := endLine + 1, next := k }
  | some closer =>
    guard (dEnd < k)
    match closingMark s (opener.getD ' ') closer (k + 1) with
    | none =>
      guard newLine
      return { label, firstLine := startLine, endLine := endLine + 1, next := lineEnd s (k + 1) }
    | some c =>
      let after := c + 1
      if !isBlank (restOfLine s after) then
        guard newLine
        return { label, firstLine := startLine, endLine, next := after }
      else return { label, firstLine := startLine, endLine := lineIndex s after + 1, next := after }

def readDefinitions (s : Array Char) : Nat → Nat → List Definition
  | 0, _ => []
  | fuel + 1, i =>
    match readDefinition s i with
    | some d => d :: (if d.next ≤ i then [] else readDefinitions s fuel d.next)
    | none => []

def withoutDefinitions {α : Type} (lines : List α) (defs : List Definition) : List α :=
  let step (acc : List α × Nat) (d : Definition) : List α × Nat :=
    let (ls, offset) := acc
    if ls.isEmpty then acc
    else
      let stop := if d.firstLine = d.endLine then d.endLine + 1 else d.endLine
      (ls.take (d.firstLine - offset) ++ ls.drop (stop - offset), stop)
  (defs.foldl step (lines, 0)).1

example : collapseBlanks " a \n  b".toList false = " a b".toList := by decide

end BlockGraph.Markdown
