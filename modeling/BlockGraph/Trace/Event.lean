import BlockGraph.Json.Value
import BlockGraph.Text.Case
import BlockGraph.Text.Quoted

namespace BlockGraph.Trace

inductive Level where
  | off
  | error
  | phase
  | detail
  | debug
  deriving DecidableEq, Inhabited

def Level.code : Level → Nat
  | .off => 0
  | .error => 1
  | .phase => 2
  | .detail => 3
  | .debug => 4

def Level.ofCode? : Nat → Option Level
  | 0 => some .off
  | 1 => some .error
  | 2 => some .phase
  | 3 => some .detail
  | 4 => some .debug
  | _ => none

def Level.name : Level → String
  | .off => "off"
  | .error => "error"
  | .phase => "phase"
  | .detail => "detail"
  | .debug => "debug"

def Level.codeName (n : Nat) : String := ((Level.ofCode? n).map Level.name).getD "unknown"

def Level.parse (s : String) : Except String Level :=
  match Text.lower s with
  | "off" => .ok .off
  | "error" => .ok .error
  | "phase" => .ok .phase
  | "detail" => .ok .detail
  | "debug" => .ok .debug
  | _ => .error ("invalid trace level: " ++ Text.quote s ++ " (expected: off|error|phase|detail|debug)")

/-- How wide the work is that an event stands for: `1` a whole compile, `2` a pass, `3` one
target, `4` a single node; other numbers name no scope. -/
structure Scope where
  code : UInt8
  deriving DecidableEq, Inhabited

def Scope.driver : Scope := ⟨1⟩

def Scope.pass : Scope := ⟨2⟩

def Scope.target : Scope := ⟨3⟩

def Scope.node : Scope := ⟨4⟩

def Scope.codeName (n : Nat) : String :=
  match n with
  | 1 => "driver"
  | 2 => "pass"
  | 3 => "target"
  | 4 => "node"
  | _ => "unknown"

def Scope.name (s : Scope) : String := Scope.codeName s.code.toNat

/-- Whether a level records events of a scope: `phase` the scopes up to a pass, `error` and
`detail` those up to a target, `debug` all, `off` none. -/
def Level.admits : Level → Scope → Bool
  | .off, _ => false
  | .phase, s => s.code ≤ 2
  | .error, s => s.code ≤ 3
  | .detail, s => s.code ≤ 3
  | .debug, _ => true

/-- Whether the level with number `n` records events of a scope; a number that names no level
records nothing. -/
def Level.codeAdmits (n : Nat) (s : Scope) : Bool :=
  match Level.ofCode? n with
  | some l => l.admits s
  | none => false

inductive Kind where
  | spanBegin
  | spanEnd
  | point
  deriving DecidableEq, Inhabited

def Kind.codeName (n : Nat) : String :=
  match n with
  | 1 => "begin"
  | 2 => "end"
  | 3 => "point"
  | _ => "unknown"

def Kind.name : Kind → String
  | .spanBegin => "begin"
  | .spanEnd => "end"
  | .point => "point"

def Kind.mark : Kind → String
  | .spanBegin => "> "
  | .spanEnd => "< "
  | .point => "* "

/-- Where a tracer keeps its events: written out at once, held in a ring of the latest ones,
or both. -/
inductive Mode where
  | stream
  | ring
  | both
  deriving DecidableEq, Inhabited

def Mode.codeName (n : Nat) : String :=
  match n with
  | 1 => "stream"
  | 2 => "ring"
  | 3 => "both"
  | _ => "unknown"

def Mode.parse (s : String) : Except String Mode :=
  match Text.lower s with
  | "stream" => .ok .stream
  | "ring" => .ok .ring
  | "both" => .ok .both
  | _ => .error ("invalid storage mode: " ++ Text.quote s ++ " (expected: stream|ring|both)")

/-- How events are written: chosen by the output's name (`auto`), as text lines or as JSON
objects one per line. -/
inductive Format where
  | auto
  | text
  | ndjson
  deriving DecidableEq, Inhabited

def Format.parse (s : String) : Except String Format :=
  match Text.lower s with
  | "" => .ok .auto
  | "auto" => .ok .auto
  | "text" => .ok .text
  | "ndjson" => .ok .ndjson
  | _ => .error ("invalid trace format: " ++ Text.quote s ++ " (expected: auto|text|ndjson)")

def Format.forPath (f : Format) (path : String) : Format :=
  match f with
  | .auto => if path.endsWith ".ndjson" then .ndjson else .text
  | f => f

/-- When and where an event arises: the time of day as written in a text line, the full
instant as written in a JSON line, and the thread that raised it. -/
structure Origin where
  clock : String
  instant : String
  thread : Nat
  deriving Inhabited

/-- One recorded event. The span is `0` for a point and the parent `0` for a root span. -/
structure Event where
  seq : Nat
  kind : Kind
  scope : Scope
  span : Nat
  parent : Nat
  origin : Origin
  name : String
  detail : String
  extra : List (String × String)
  deriving Inhabited

def setExtra (k v : String) : List (String × String) → List (String × String)
  | [] => [(k, v)]
  | (k', v') :: rest =>
    if k = k' then (k, v) :: rest
    else if k < k' then (k, v) :: (k', v') :: rest
    else (k', v') :: setExtra k v rest

def padNumber (width n : Nat) : String :=
  let s := toString n
  s ++ String.ofList (List.replicate (width - s.length) ' ')

def extraText : List (String × String) → String
  | [] => ""
  | pairs => " \x7b" ++ ", ".intercalate (pairs.map fun (k, v) => k ++ "=" ++ v) ++ "\x7d"

def Event.textLine (e : Event) : String :=
  e.origin.clock ++ " #" ++ padNumber 5 e.seq ++ " " ++ (if e.parent > 0 then "  " else "")
    ++ e.kind.mark ++ e.name ++ (if e.detail = "" then "" else " (" ++ e.detail ++ ")")
    ++ extraText e.extra ++ "\n"

def Event.jsonLine (e : Event) : String :=
  let num (k : String) (n : Nat) : List (String × Json.Value) :=
    if n = 0 then [] else [(k, .ofNat n)]
  let members : List (String × Json.Value) :=
    [("time", .string e.origin.instant), ("seq", .ofNat e.seq), ("kind", .string e.kind.name),
      ("scope", .string e.scope.name)]
    ++ num "span_id" e.span ++ num "parent_id" e.parent ++ num "gid" e.origin.thread
    ++ [("name", .string e.name)]
    ++ (if e.detail = "" then [] else [("detail", .string e.detail)])
    ++ (if e.extra.isEmpty then [] else [("extra", .object (e.extra.map fun (k, v) => (k, .string v)))])
  Utf8.keepText (Json.Value.object members).renderKept ++ "\n"

def Event.line (e : Event) : Format → String
  | .ndjson => e.jsonLine
  | _ => e.textLine

end BlockGraph.Trace
