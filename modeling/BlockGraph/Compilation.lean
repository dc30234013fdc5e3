import BlockGraph.Program.Build
import BlockGraph.Dump.FromJson
import BlockGraph.Dump.FromMsgpack
import BlockGraph.Dump.Encode
import BlockGraph.Dump.Format
import BlockGraph.Analysis.Scope
import BlockGraph.Analysis.Resolve
import BlockGraph.Graph.Generate
import BlockGraph.Diagnostic.Render

namespace BlockGraph

inductive LoadError where
  | unknownExtension (path : String)
  | undecodable (path : String) (format : Dump.Format)
  | invalid (path : String) (e : BuildError)
  deriving Inhabited

/-- The text of a load error, led by the path, as a kept text: the path is plain, the reasons
of an invalid document are kept texts. -/
def LoadError.message : LoadError → String
  | .unknownExtension p => Utf8.keepText p ++ ": unknown dump extension " ++ Text.quote (Path.ext p)
  | .undecodable p f => Utf8.keepText p ++ ": decode " ++ f.name ++ ": malformed document"
  | .invalid p e => Utf8.keepText p ++ ": " ++ e.message

def Dump.Document.ofBytes? (format : Dump.Format) (bs : List UInt8) : Option Dump.Document :=
  match format with
  | .json => (Dump.Document.ofJsonBytes bs).toOption
  | .msgpack => Dump.Document.ofMsgpackBytes bs

def decodeDump (bs : List UInt8) (path : String) : Except LoadError Dump.Document := do
  let some format := Dump.Format.ofPath? path | throw (.unknownExtension path)
  let some doc := Dump.Document.ofBytes? format bs | throw (.undecodable path format)
  pure doc

/-- Loads a dump read from `path` (a plain text): the project it describes and its source
files, whose paths are shown against the dump's directory. -/
def load (bs : List UInt8) (path : String) : Except LoadError (Project × FileSet) := do
  let doc ← decodeDump bs path
  match Project.build doc path with
  | .error e => throw (.invalid path e)
  | .ok (p, fs) => pure (p, { fs with baseDir := Utf8.keepText (Path.dir path) })

structure Compilation where
  project : Project
  files : FileSet
  generation : Graph.Generation
  bag : Bag
  deriving Inhabited

namespace Compilation

def run (p : Project) (fs : FileSet) (limit : Int) : Compilation :=
  let p := p.declareAssigned
  let (p, resolved) := p.resolve
  let unused := p.unusedArguments
  let g := Graph.generate p
  let r := ({ bag := Bag.empty limit } : Reporter).reportAll (resolved ++ unused ++ g.reports)
  let bag := match g.failure? with
    | some (_, .internal e) => r.bag.push e.toDiagnostic
    | some (_, .layout _) => r.bag
    | none => r.bag.sort
  { project := p, files := fs, generation := g, bag }

def output? (c : Compilation) : Option String :=
  if c.generation.finished then some c.generation.text else none

def targets (c : Compilation) : Nat := c.generation.targetsDone

def nodes (c : Compilation) : UInt32 := if c.generation.finished then Graph.nodeId c.generation.lastId else 0

end Compilation

/-- The references of one body of a target, each kind sorted and without repeats; struct
fields and enum variants as `Type.member`. -/
structure BodyReferences where
  target : String
  body : String
  vars : List String
  lists : List String
  procs : List String
  messages : List String
  fields : List String
  variants : List String
  deriving Inhabited

namespace BodyReferences

def of (target body : String) (r : References) : BodyReferences :=
  { target, body, vars := sortedUnique r.vars, lists := sortedUnique r.lists,
    procs := sortedUnique r.procs, messages := sortedUnique r.messages,
    fields := sortedUnique (r.fields.map fun (s, f) => s ++ "." ++ f),
    variants := sortedUnique (r.variants.map fun (e, v) => e ++ "." ++ v) }

def kinds (b : BodyReferences) : List (String × List String) :=
  [("vars", b.vars), ("lists", b.lists), ("procs", b.procs), ("messages", b.messages),
    ("fields", b.fields), ("variants", b.variants)]

def lines (b : BodyReferences) : List String :=
  b.kinds.filterMap fun (k, items) =>
    if items.isEmpty then none else some (b.target ++ " " ++ b.body ++ " " ++ k ++ ": " ++ ", ".intercalate items)

def toJson (b : BodyReferences) : Json.Value :=
  .object <| [("target", .string b.target), ("body", .string b.body)] ++
    b.kinds.filterMap fun (k, items) => if items.isEmpty then none else some (k, Json.Value.strings items)

end BodyReferences

/-- The references of every body of a project: targets stage first, in each its events in
order, its handlers by message and its procedures by name. -/
def Project.bodyReferences (p : Project) : List BodyReferences :=
  p.targets.flatMap fun t =>
    t.events.zipIdx.map (fun (ev, i) => BodyReferences.of t.name ("event#" ++ toString i) ev.refs) ++
      t.sortedHandlers.map (fun h => BodyReferences.of t.name ("on:" ++ h.message) h.refs) ++
      t.sortedProcs.map (fun pr => BodyReferences.of t.name ("proc:" ++ pr.name) pr.refs)

end BlockGraph
