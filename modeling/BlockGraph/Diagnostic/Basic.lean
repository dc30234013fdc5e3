import BlockGraph.Source.Span

namespace BlockGraph

/-- How serious a finding is; levels past `error` have no name. -/
structure Severity where
  level : Nat
  deriving BEq, DecidableEq, Inhabited, Repr

namespace Severity
def info : Severity := ⟨0⟩
def warning : Severity := ⟨1⟩
def error : Severity := ⟨2⟩

def name (s : Severity) : String :=
  if s.level = 0 then "INFO" else if s.level = 1 then "WARNING" else if s.level = 2 then "ERROR"
  else "UNKNOWN"
end Severity

/-- A diagnostic code. -/
structure Code where
  value : Nat
  deriving BEq, DecidableEq, Inhabited, Repr

namespace Code
def unknown : Code := ⟨0⟩
def semaInfo : Code := ⟨3000⟩
def unrecognizedArgument : Code := ⟨3001⟩
def unresolvedName : Code := ⟨3002⟩
def unresolvedAccessor : Code := ⟨3003⟩
def unresolvedProc : Code := ⟨3004⟩
def argCountMismatch : Code := ⟨3005⟩
def unknownMenuOption : Code := ⟨3006⟩
def unusedArgument : Code := ⟨3007⟩
def unknownBlock : Code := ⟨3008⟩
def loadFile : Code := ⟨4001⟩
def writeFile : Code := ⟨4002⟩
def internalError : Code := ⟨5001⟩
def observation : Code := ⟨6000⟩
def timings : Code := ⟨6001⟩

def titles : List (Nat × String) := [
  (0, "Unknown error"), (3000, "Semantic information"), (3001, "unrecognized argument"),
  (3002, "unresolved variable or list"), (3003, "unresolved enum variant or struct field"),
  (3004, "unresolved procedure"), (3005, "argument count mismatch"),
  (3006, "unknown menu option"), (3007, "unused procedure argument"), (3008, "unknown block"),
  (4001, "I/O load file error"), (4002, "I/O write file error"),
  (5001, "internal compiler error"), (6000, "Observability information"),
  (6001, "Pipeline timings")]

def title (c : Code) : String :=
  ((titles.lookup c.value).orElse fun _ => titles.lookup 0).getD ""

def digits4 (n : Nat) : String :=
  let s := toString n
  String.ofList (List.replicate (4 - s.length) '0') ++ s

/-- The identifier of a code: its group's prefix and its number, or `E0000` outside the
groups. -/
def id (c : Code) : String :=
  let n := c.value
  if 3000 ≤ n ∧ n < 4000 then "SEM" ++ digits4 n
  else if 4000 ≤ n ∧ n < 5000 then "IO" ++ digits4 n
  else if 5000 ≤ n ∧ n < 6000 then "GEN" ++ digits4 n
  else if 6000 ≤ n ∧ n < 7000 then "OBS" ++ digits4 n
  else "E0000"

def render (c : Code) : String := "[" ++ c.id ++ "]: " ++ c.title
end Code

/-- A note pointing at another place. -/
structure Note where
  span : Span
  message : String
  deriving BEq, Inhabited

structure Diagnostic where
  severity : Severity
  code : Code
  message : String
  primary : Span
  notes : List Note := []
  deriving BEq, Inhabited

def Diagnostic.error (code : Code) (span : Span) (message : String) : Diagnostic :=
  { severity := .error, code, message, primary := span }

def Diagnostic.warning (code : Code) (span : Span) (message : String) : Diagnostic :=
  { severity := .warning, code, message, primary := span }

def Diagnostic.withNote (d : Diagnostic) (span : Span) (message : String) : Diagnostic :=
  { d with notes := d.notes ++ [{ span, message }] }

/-- Whether two findings repeat each other for the reporter: same code, severity, span and
message. -/
def Diagnostic.repeats (d e : Diagnostic) : Bool :=
  d.code == e.code && d.severity == e.severity && d.primary == e.primary && d.message == e.message

/-- A bounded collection of findings. -/
structure Bag where
  items : List Diagnostic := []
  limit : Nat := 100
  deriving Inhabited

namespace Bag

def empty (limit : Int) : Bag := { items := [], limit := if limit ≤ 0 then 100 else limit.toNat }

def add (b : Bag) (d : Diagnostic) : Bag × Bool :=
  if b.items.length ≥ b.limit then (b, false) else ({ b with items := b.items ++ [d] }, true)

def push (b : Bag) (d : Diagnostic) : Bag := (b.add d).1

def countAtLeast (b : Bag) (level : Nat) : Nat := (b.items.filter (·.severity.level ≥ level)).length

def errorCount (b : Bag) : Nat := b.countAtLeast 2
def hasErrors (b : Bag) : Bool := b.countAtLeast 2 > 0
def hasWarnings (b : Bag) : Bool := b.countAtLeast 1 > 0

/-- The findings of `other` after those of `b`; the limit grows to hold them all. -/
def merge (b other : Bag) : Bag :=
  let total := b.items.length + other.items.length
  { items := b.items ++ other.items, limit := max b.limit total }

def before (d e : Diagnostic) : Bool :=
  if d.primary.file != e.primary.file then d.primary.file < e.primary.file
  else if d.primary.start != e.primary.start then d.primary.start < e.primary.start
  else if d.primary.stop != e.primary.stop then d.primary.stop < e.primary.stop
  else if d.severity.level != e.severity.level then d.severity.level > e.severity.level
  else d.code.value < e.code.value

def sort (b : Bag) : Bag := { b with items := b.items.mergeSort (fun d e => !before e d) }

/-- The key under which the bag drops repeats: code identifier, span and message. -/
def dedupKey (d : Diagnostic) : String := d.code.id ++ ":" ++ d.primary.render ++ ":" ++ d.message

def dedupItems : List String → List Diagnostic → List Diagnostic
  | _, [] => []
  | seen, d :: ds =>
    if seen.contains (dedupKey d) then dedupItems seen ds
    else d :: dedupItems (dedupKey d :: seen) ds

def dedup (b : Bag) : Bag := { b with items := dedupItems [] b.items }

end Bag

/-- The reporter that drops repeats before the bag: `seen` holds what it has passed on or
dropped. -/
structure Reporter where
  bag : Bag
  seen : List Diagnostic := []
  deriving Inhabited

/-- The reporter after one finding: a repeat is dropped, anything else goes to the bag. -/
def Reporter.report (r : Reporter) (d : Diagnostic) : Reporter :=
  if r.seen.any (·.repeats d) then r else { bag := r.bag.push d, seen := d :: r.seen }

def Reporter.reportAll (r : Reporter) (ds : List Diagnostic) : Reporter := ds.foldl Reporter.report r

/-- A failure of code generation that aborts it: the construct it could not write, where, and
why. -/
structure InternalError where
  construct : String
  span : Span
  message : String
  deriving Inhabited

def InternalError.render (e : InternalError) : String :=
  "internal compiler error at " ++ e.span.render ++ ": " ++ e.construct ++ ": " ++ e.message

def InternalError.toDiagnostic (e : InternalError) : Diagnostic :=
  .error .internalError e.span (e.construct ++ ": " ++ e.message)

end BlockGraph
