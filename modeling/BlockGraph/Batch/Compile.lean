import BlockGraph.Compilation
import BlockGraph.Batch.Event
import BlockGraph.Batch.Cache
import BlockGraph.Trace.Tracer
import BlockGraph.Timing.Timer

namespace BlockGraph.Batch

structure Request where
  path : String
  name : String := ""
  maxDiagnostics : Int := 0
  timings : Bool := false
  progress : Bool := false
  cache : Option Cache := none
  deriving Inhabited

/-- Where builds run: the working directory, whether the work was cancelled before it began,
and what trace events are stamped with. -/
structure Setting where
  cwd : Disk.Location
  cancelled : Bool := false
  origin : Trace.Origin

/-- What builds leave besides their results: the files, the trace journal and the progress
events reported, in order. -/
structure Workspace where
  tree : Disk.Tree
  journal : Trace.Journal := {}
  events : Array Event := #[]

inductive LoadFailure where
  | cancelled
  | unreadable (text : String)
  | invalid (e : LoadError)
  deriving Inhabited

def LoadFailure.message : LoadFailure → String
  | .cancelled => "context canceled"
  | .unreadable t => Utf8.keepText t
  | .invalid e => e.message

inductive BuildError where
  | cancelled
  | load (path : String) (cause : LoadFailure)
  | internal (name text : String)
  | diagnostics (name : String) (errors : Nat)
  deriving Inhabited

def BuildError.message : BuildError → String
  | .cancelled => "context canceled"
  | .load p c => "load " ++ Utf8.keepText p ++ ": " ++ c.message
  | .internal n t => Utf8.keepText n ++ ": " ++ t
  | .diagnostics n k => Utf8.keepText n ++ ": " ++ toString k ++ " error(s): build has errors"

def BuildError.isDiagnostics : BuildError → Bool
  | .diagnostics .. => true
  | _ => false

def joinErrors (es : List BuildError) : Option String :=
  if es.isEmpty then none else some ("\n".intercalate (es.map (·.message)))

structure Outcome where
  name : String
  path : String
  compiled : Option Compilation := none
  output : Option (List UInt8) := none
  stats : Stats := {}
  bag : Bag
  stages : List Stage := []
  timer : Timing.Timer := {}
  cached : Bool := false
  deriving Inhabited

def Outcome.files (o : Outcome) : FileSet := (o.compiled.map (·.files)).getD {}

/-- The finding with the phase report: its message gives the total with two places and the
dump's path, its note the report as JSON. -/
def Outcome.timingFinding (o : Outcome) : Diagnostic :=
  let path := if o.path = "" then [] else [("path", Json.Value.string o.path)]
  let note := Json.Value.object ([("kind", .string "compile")] ++ path ++ o.timer.jsonMembers)
  { severity := .info, code := .timings, primary := Span.none,
    message := "timings (compile): total " ++ Timing.millisFixed o.timer.total ++ " ms" ++
      (if o.path = "" then "" else ", " ++ Utf8.keepText o.path),
    notes := [{ span := Span.none, message := Utf8.keepText note.render }] }

def Outcome.withTimings (o : Outcome) : Outcome :=
  let d := o.timingFinding
  match o.bag.add d with
  | (bag, true) => { o with bag }
  | (_, false) => { o with bag := o.bag.merge { items := [d], limit := 1 } }

structure Build where
  setting : Setting
  ctx : Trace.Context
  req : Request
  span : Trace.Span
  outcome : Outcome
  ws : Workspace
  toStore : Option (List UInt8) := none

namespace Build

def report (b : Build) (stage : Stage) (status : Status) (error : Option String := none) : Build :=
  if b.req.progress then { b with ws.events := b.ws.events.push { file := b.req.path, stage, status, error } }
  else b

def enter (b : Build) (st : Stage) : Build × Trace.Span × Nat :=
  let b := b.report st .working
  let (span, journal) := b.ctx.tracer.begin .pass st.name b.span.id b.setting.origin b.ws.journal
  let (idx, timer) := b.outcome.timer.begin st.name 0
  ({ b with ws.journal := journal, outcome.timer := timer }, span, idx)

def leave (b : Build) (st : Stage) (span : Trace.Span) (idx : Nat) (err : Option String) : Build :=
  let journal := span.finish (err.getD "") b.setting.origin b.ws.journal
  let b := { b with ws.journal := journal, outcome.timer := b.outcome.timer.finish idx "" 0,
                    outcome.stages := b.outcome.stages ++ [st] }
  match err with
  | none => b.report st .done
  | some e => b.report st .error (some e)

def quietStage (b : Build) (st : Stage) : Build :=
  let (b, span, idx) := b.enter st
  b.leave st span idx none

/-- Records generation in the trace: a span per target under the build's span, with a point
per script, ended with the count of its blocks or with the error that stopped it. -/
def traceGeneration (b : Build) (g : Graph.Generation) : Build :=
  let o := b.setting.origin
  let t := b.ctx.tracer
  let journal := g.runs.foldl (fun j r =>
    let (span, j) := t.begin .target r.name b.span.id o j
    let j := r.emitted.foldl (fun j e =>
      match e with
      | .scriptStart opcode detail => t.point .node opcode detail o j
      | _ => j) j
    match r.failure with
    | some e => span.finish e.render o j
    | none => span.finish "" o (span.withExtra "nodes" (toString r.nodes) j)) b.ws.journal
  { b with ws.journal := journal }

def loadFailed (b : Build) (span : Trace.Span) (idx : Nat) (cause : LoadFailure) :
    Build × Option BuildError :=
  let b := b.leave .load span idx (some cause.message)
  let d := Diagnostic.error .loadFile Span.none ("failed to load dump: " ++ cause.message)
  ({ b with outcome.bag := b.outcome.bag.push d }, some (.load b.req.path cause))

/-- Stores a build without findings in the cache, if there is one; a failure to store is
traced and otherwise ignored. -/
def store (b : Build) (dump : List UInt8) : Build :=
  match b.req.cache with
  | none => b
  | some c =>
    let entry : CacheEntry := { name := b.outcome.name, stats := b.outcome.stats, output := b.outcome.output }
    match c.put b.ws.tree b.setting.cwd (cacheKey dump) entry with
    | .ok tree => { b with ws.tree := tree }
    | .error e =>
      { b with ws.journal := b.ctx.tracer.point .pass "cache_put" (Utf8.keepText e) b.setting.origin b.ws.journal }

def generate (b : Build) (dump : List UInt8) (p : Project) (fs : FileSet) : Build × Option BuildError :=
  let c := Compilation.run p fs b.req.maxDiagnostics
  let b := { b with outcome.compiled := some c }
  let b := ((b.quietStage .scope).quietStage .resolve).quietStage .lint
  let (b, span, idx) := b.enter .codegen
  let b := b.traceGeneration c.generation
  let b := { b with outcome.bag := c.bag }
  match c.generation.errorText? with
  | some text => (b.leave .codegen span idx (some text), some (.internal b.outcome.name text))
  | none =>
    let b := b.leave .codegen span idx none
    let b := { b with outcome.output := c.output?.map Utf8.encode,
                      outcome.stats := { targets := c.targets, nodes := c.nodes.toNat } }
    if c.bag.hasErrors then (b, some (.diagnostics b.outcome.name c.bag.errorCount))
    else if c.bag.hasWarnings then (b, none)
    else ({ b with toStore := some dump }, none)

def run (b : Build) : Build × Option BuildError :=
  if b.setting.cancelled then
    let d := Diagnostic.error .loadFile Span.none ("failed to load dump: " ++ LoadFailure.cancelled.message)
    ({ b with outcome.bag := b.outcome.bag.push d }, some (.load b.req.path .cancelled))
  else
    let (b, span, idx) := b.enter .load
    match b.ws.tree.readFile b.setting.cwd b.req.path with
    | .error text => b.loadFailed span idx (.unreadable text)
    | .ok dump =>
      let hit := b.req.cache.bind fun c => c.get? b.ws.tree b.setting.cwd (cacheKey dump)
      match hit with
      | some entry =>
        let b := { b with outcome.output := entry.output, outcome.stats := entry.stats,
                          outcome.cached := true }
        ((b.leave .load span idx none).report .codegen .cached, none)
      | none =>
        match load dump b.req.path with
        | .error e => b.loadFailed span idx (.invalid e)
        | .ok (p, fs) => (b.leave .load span idx none).generate dump p fs

end Build

def Build.new (s : Setting) (ctx : Trace.Context) (req : Request) (ws : Workspace) : Build :=
  let name := if req.name = "" then Dump.outputName req.path else req.name
  let (span, journal) := ctx.tracer.begin .driver "compile" ctx.parent s.origin ws.journal
  let journal := span.withExtra "path" (Utf8.keepText req.path) journal
  { setting := s, ctx, req, span, ws := { ws with journal },
    outcome := { name, path := req.path, bag := Bag.empty req.maxDiagnostics } }

def start (s : Setting) (ctx : Trace.Context) (req : Request) (ws : Workspace) : Build × Option BuildError :=
  (Build.new s ctx req ws).run

/-- Ends a begun build in the workspace as it is then: stores the entry the build left to store,
adds the phase report if asked, and ends the build's span. -/
def Build.finish (b : Build) (err : Option BuildError) (ws : Workspace) :
    Outcome × Option BuildError × Workspace :=
  let b := { b with ws }
  let b := match b.toStore with
    | some dump => b.store dump
    | none => b
  let outcome := if b.req.timings then b.outcome.withTimings else b.outcome
  let journal := b.span.finish ((err.map (·.message)).getD "") b.setting.origin b.ws.journal
  (outcome, err, { b.ws with journal })

def compile (s : Setting) (ctx : Trace.Context) (req : Request) (ws : Workspace) :
    Outcome × Option BuildError × Workspace :=
  let (b, err) := start s ctx req ws
  b.finish err b.ws

def compileNext (s : Setting) (ctx : Trace.Context)
    (acc : Array Outcome × Array BuildError × Workspace) (req : Request) :
    Array Outcome × Array BuildError × Workspace :=
  let (outs, errs, ws) := acc
  let (o, e, ws) := compile s ctx req ws
  (outs.push o, errs ++ e.toList.toArray, ws)

def compileEach (s : Setting) (ctx : Trace.Context) (reqs : List Request) (ws : Workspace) :
    List Outcome × List BuildError × Workspace :=
  let (outs, errs, ws) := reqs.foldl (compileNext s ctx) (#[], #[], ws)
  (outs.toList, errs.toList, ws)

def reportQueued (ws : Workspace) (req : Request) : Workspace :=
  if req.progress then { ws with events := ws.events.push { file := req.path, stage := .load, status := .queued } }
  else ws

/-- Builds a batch of dumps: each is reported queued first; a cancelled batch builds none, and
its outcomes are all missing. -/
def compileAll (s : Setting) (ctx : Trace.Context) (reqs : List Request) (ws : Workspace) :
    List (Option Outcome) × List BuildError × Workspace :=
  if reqs.isEmpty then ([], [], ws)
  else
    let ws := reqs.foldl reportQueued ws
    if s.cancelled then (reqs.map fun _ => none, [.cancelled], ws)
    else
      let (outs, errs, ws) := compileEach s ctx reqs ws
      (outs.map some, errs, ws)

end BlockGraph.Batch
