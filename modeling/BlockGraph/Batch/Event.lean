
namespace BlockGraph.Batch

inductive Stage where
  | load
  | scope
  | resolve
  | lint
  | codegen
  | other (word : String)
  deriving DecidableEq, Inhabited

def Stage.name : Stage → String
  | .load => "load"
  | .scope => "scope"
  | .resolve => "resolve"
  | .lint => "lint"
  | .codegen => "codegen"
  | .other w => w

def Stage.ofName (w : String) : Stage :=
  match w with
  | "load" => .load
  | "scope" => .scope
  | "resolve" => .resolve
  | "lint" => .lint
  | "codegen" => .codegen
  | w => .other w

def Stage.all : List Stage := [.load, .scope, .resolve, .lint, .codegen]

/-- Where a dump stands within a stage. -/
inductive Status where
  | queued
  | working
  | done
  | cached
  | error
  | other (word : String)
  deriving DecidableEq, Inhabited

def Status.name : Status → String
  | .queued => "queued"
  | .working => "working"
  | .done => "done"
  | .cached => "cached"
  | .error => "error"
  | .other w => w

def Status.ofName (w : String) : Status :=
  match w with
  | "queued" => .queued
  | "working" => .working
  | "done" => .done
  | "cached" => .cached
  | "error" => .error
  | w => .other w

/-- One progress event of one dump. -/
structure Event where
  file : String
  stage : Stage
  status : Status
  error : Option String := none
  deriving Inhabited

end BlockGraph.Batch
