import BlockGraph.Markdown.Blocks
import BlockGraph.Text.Quoted

namespace BlockGraph.Golden

open Markdown

/-- What an expectation fence expects. -/
inductive AssertionKind where
  | opcodes
  | diagnostics
  | refs
  deriving DecidableEq, Inhabited

def AssertionKind.name : AssertionKind → String
  | .opcodes => "opcodes"
  | .diagnostics => "diagnostics"
  | .refs => "refs"

def AssertionKind.ofName? : String → Option AssertionKind
  | "opcodes" => some .opcodes
  | "diagnostics" => some .diagnostics
  | "refs" => some .refs
  | _ => none

structure Assertion where
  kind : AssertionKind
  content : String
  line : Nat
  deriving Inhabited

structure Case where
  name : String
  input : String := ""
  assertions : Array Assertion := #[]
  deriving Inhabited

/-- Why a document holds no list of cases. -/
inductive CaseError where
  | noInput (name : String)
  | noExpectations (name : String)
  | outside (line : Nat) (lang : String)
  | unknownFence (line : Nat) (lang name : String)
  | secondInput (line : Nat) (name : String)
  deriving Inhabited

def CaseError.message : CaseError → String
  | .noInput n => "test " ++ Text.quote n ++ " has no json fence"
  | .noExpectations n => "test " ++ Text.quote n ++ " has no expectation fences"
  | .outside l lang => "line " ++ toString l ++ ": " ++ lang ++ " fence outside of a test"
  | .unknownFence l lang n =>
    "line " ++ toString l ++ ": unknown fence " ++ Text.quote lang ++ " in test " ++ Text.quote n
  | .secondInput l n => "line " ++ toString l ++ ": second json fence in test " ++ Text.quote n

/-- Cases found so far and the case being read. -/
structure Extraction where
  cases : Array Case := #[]
  current : Option Case := none

def Extraction.flush (x : Extraction) : Except CaseError Extraction :=
  match x.current with
  | none => .ok x
  | some c =>
    if c.input = "" then .error (.noInput c.name)
    else if c.assertions.isEmpty then .error (.noExpectations c.name)
    else .ok { cases := x.cases.push c, current := none }

def dropFinalNewlines (s : String) : String :=
  String.ofList (s.toList.reverse.dropWhile (· = '\n')).reverse

def Extraction.step (x : Extraction) : Block → Except CaseError Extraction
  | .heading _ title =>
    if title.startsWith "Test: " then do
      let x ← x.flush
      return { x with current := some { name := (title.drop 6).toString } }
    else .ok x
  | .fence info first body =>
    let lang := language info
    let line := first.getD 1
    match x.current with
    | none => if lang = "" then .ok x else .error (.outside line lang)
    | some c =>
      let content := dropFinalNewlines body
      match AssertionKind.ofName? lang with
      | some kind => .ok { x with current := some { c with assertions := c.assertions.push { kind, content, line } } }
      | none =>
        if lang ≠ "json" then .error (.unknownFence line lang c.name)
        else if c.input ≠ "" then .error (.secondInput line c.name)
        else .ok { x with current := some { c with input := content } }

def extractCases (doc : String) : Except CaseError (List Case) := do
  let x ← (blocks doc).foldlM Extraction.step {}
  let x ← x.flush
  return x.cases.toList

end BlockGraph.Golden
