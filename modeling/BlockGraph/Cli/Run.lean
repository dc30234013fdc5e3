import BlockGraph.Cli.Help
import BlockGraph.Batch.Inputs
import BlockGraph.Batch.Compile
import BlockGraph.Diagnostic.Render
import BlockGraph.Version

namespace BlockGraph.Cli

open Batch

/-- What a run sees around it: its working directory, the two variables that locate the
cache, and the stamp trace events carry. -/
structure Surroundings where
  cwd : Disk.Location
  xdgCache : Option String
  home : Option String
  origin : Trace.Origin

/-- What a run has written so far, and the commands registered so far. -/
structure Console where
  out : String := ""
  err : String := ""
  tree : Disk.Tree
  journal : Trace.Journal := {}
  registered : List Verb := []

abbrev Session := ExceptT String (StateM Console)

def say (s : String) : Session Unit := modify fun c => { c with out := c.out ++ s }

def warn (s : String) : Session Unit := modify fun c => { c with err := c.err ++ s }

def orFail {α : Type} : Except String α → Session α
  | .ok a => pure a
  | .error e => throw e

/-- A command being run: where, which, with what flags, and whether output is colored. -/
structure Invocation where
  env : Surroundings
  verb : Verb
  reading : Reading
  color : Bool

namespace Invocation

def text (i : Invocation) (name : String) : String := i.reading.text i.verb.flags name

def truth (i : Invocation) (name : String) : Bool := i.reading.truth i.verb.flags name

def integer (i : Invocation) (name : String) : Int := i.reading.integer i.verb.flags name

end Invocation

/-- Whether output is colored, by the value of `--color`; output here is never a terminal, so
`auto` means no color. -/
def colorEnabled (mode : String) : Except String Bool :=
  if mode = "" || mode = "auto" || mode = "off" then .ok false
  else if mode = "on" then .ok true
  else .error ("invalid --color value " ++ Text.quote mode ++ " (expected auto|on|off)")

/-! ## version -/

def coloredVersion (color : Bool) : String :=
  let (core, suffix) := match Version.version.splitOn "-" with
    | c :: rest => (c, "-".intercalate rest)
    | [] => (Version.version, "")
  match core.splitOn "." with
  | [major, minor, patch] =>
    Style.paint ⟨[33, 1]⟩ color major ++ "." ++ Style.paint ⟨[32, 1]⟩ color minor ++ "." ++
      Style.paint ⟨[34, 1]⟩ color patch ++ (if suffix = "" then "" else "-" ++ suffix)
  | _ => Version.version

def orUnknown (s : String) : String := if Manifest.trimSpace s = "" then "unknown" else s

def versionJson (full : Bool) : Json.Value :=
  .object <| [("tool", .string Version.tool), ("version", .string Version.version),
    ("fingerprint", .string Version.fingerprint)] ++
    (if full then [("git_commit", .string (orUnknown Version.commit)),
      ("build_date", .string (orUnknown Version.buildDate))] else [])

def runVersion (i : Invocation) : Session Unit := do
  let format := i.text "format"
  let full := i.truth "full"
  match Text.lower format with
  | "pretty" =>
    say ("blockc " ++ coloredVersion i.color ++ "\n")
    if full then say ("commit: " ++ orUnknown Version.commit ++ "\nbuilt:  " ++ orUnknown Version.buildDate ++ "\n")
  | "json" => say ((versionJson full).pretty ++ "\n")
  | _ => throw ("unsupported format " ++ Text.quote format ++ " (must be pretty or json)")

/-! ## clean and refs -/

def runClean (i : Invocation) : Session Unit := do
  let c ← get
  match Cache.open "blockc" i.env.xdgCache i.env.home c.tree i.env.cwd with
  | .error e => throw ("failed to open cache: " ++ e)
  | .ok (cache, tree) =>
    set { c with tree := cache.dropAll tree i.env.cwd }
    if !i.truth "quiet" then say "cache cleared\n"

def runRefs (i : Invocation) (path : String) : Session Unit := do
  let format := i.text "format"
  if format ≠ "text" && format ≠ "json" then
    throw ("unsupported format " ++ Text.quote format ++ " (must be text or json)")
  let bytes ← orFail ((← get).tree.readFile i.env.cwd path)
  match load bytes path with
  | .error e => throw (Utf8.shownKept e.message)
  | .ok (p, fs) =>
    let refs := (Compilation.run p fs 0).project.bodyReferences
    if format = "json" then
      say ((if refs.isEmpty then "null" else (Json.Value.array (refs.map (·.toJson))).prettyKept) ++ "\n")
    else say (String.join ((refs.flatMap (·.lines)).map (Utf8.shownKept · ++ "\n")))

/-! ## Tracing -/

structure Tracing where
  tracer : Trace.Tracer
  format : Trace.Format

/-- Sets up the tracer the flags ask for: `--trace` without a level traces phases, and in ring
mode keeps a ring besides the stream. -/
def setupTracing (i : Invocation) : Session Tracing := do
  let output := i.text "trace"
  let format ← orFail (Trace.Format.parse (i.text "trace-format"))
  let level ← orFail (Trace.Level.parse (i.text "trace-level"))
  let level := if level = .off && output ≠ "" then .phase else level
  let mode ← orFail (Trace.Mode.parse (i.text "trace-mode"))
  let mode := if output ≠ "" && mode = .ring then .both else mode
  let config : Trace.Config :=
    { level, mode, format, output := some output, ringSize := i.integer "trace-ring-size" }
  let c ← get
  match Trace.Tracer.new config c.tree i.env.cwd with
  | .error e => throw ("failed to create tracer: " ++ e)
  | .ok (tracer, tree) =>
    set { c with tree }
    return { tracer, format }

def dumpRing (t : Tracing) : Session Unit := do
  if t.tracer.hasRing then
    let format := if t.format = .auto then .text else t.format
    warn ("--- trace (last events) ---\n" ++ Utf8.shownKept ((← get).journal.dump format))

def closeTracing (t : Tracing) : Session Unit :=
  match t.tracer.sink? with
  | some (.file _ place) => modify fun c => { c with tree := c.tree.withFile place (Utf8.encodeKept c.journal.written) }
  | _ => pure ()

/-! ## build and check -/

structure CompileOptions where
  maxDiagnostics : Int
  timings : Bool
  quiet : Bool
  jobs : Int
  format : String

def readInterface (value : String) : Except String Unit :=
  let v := Manifest.trimSpace (Text.lower value)
  if v = "" || v = "auto" || v = "on" || v = "off" then .ok ()
  else .error ("invalid --ui value " ++ Text.quote value ++ " (expected auto|on|off)")

def readCompileOptions (i : Invocation) (manifest : Option Manifest.Manifest) : Session CompileOptions := do
  let format := i.text "format"
  if format ≠ "pretty" && format ≠ "short" && format ≠ "json" then
    throw ("unsupported format " ++ Text.quote format ++ " (must be pretty, short or json)")
  orFail (readInterface (i.text "ui"))
  let fromManifest (flag : String) (own : Int) (given : Int) : Int :=
    if !i.reading.changed flag && 0 < given then given else own
  let (maxDiagnostics, jobs) := match manifest with
    | some m =>
      (fromManifest "max-diagnostics" (i.integer "max-diagnostics") m.config.maxDiagnostics,
        fromManifest "jobs" (i.integer "jobs") m.config.jobs)
    | none => (i.integer "max-diagnostics", i.integer "jobs")
  return { maxDiagnostics, timings := i.truth "timings", quiet := i.truth "quiet", jobs, format }

def reportDiagnostics (i : Invocation) (o : CompileOptions) (results : List (Option Outcome)) :
    Session Unit := do
  if o.format = "json" then
    let opts : JsonOptions := { positions := true, pathMode := .auto, notes := true }
    let items := results.filterMap id |>.map fun r =>
      let ds := r.bag.toJsonItems r.files opts
      Json.Value.object <| [("path", .string (Utf8.keepText r.path)), ("name", .string (Utf8.keepText r.name))] ++
        (if r.cached then [("cached", .bool true)] else []) ++
        [("diagnostics", .array ds), ("count", .ofNat ds.length)]
    warn ((Json.Value.array items).prettyKept ++ "\n")
  else
    for r in results.filterMap id do
      if !r.bag.items.isEmpty then
        if o.format = "short" then warn (Utf8.shownKept (r.bag.short r.files .auto))
        else
          match r.bag.pretty r.files { color := i.color, context := 1, pathMode := .auto, showNotes := true } with
          | .ok text => warn (Utf8.shownKept text)
          | .error e => throw e.message

/-- The error of a batch: the failed projects by name when findings failed any, else the
errors themselves. -/
def summarize (results : List (Option Outcome)) (errs : List Batch.BuildError) : Option String :=
  if errs.isEmpty then none
  else if errs.any (·.isDiagnostics) then
    let failed := results.filterMap fun r => r.bind fun r => if r.bag.hasErrors then some r.name else none
    some (toString failed.length ++ " project(s) failed: " ++ ", ".intercalate failed)
  else (joinErrors errs).map Utf8.shownKept

def joinTexts : Option String → Option String → Option String
  | some a, some b => some (a ++ "\n" ++ b)
  | some a, none => some a
  | none, b => b

/-- Writes the graph of every result without errors into `dir`: the results written, and the
error, if any. Failing to make the directory stops the writing at once. -/
def writeOutputs (cwd : Disk.Location) (dir : String) (results : List (Option Outcome)) :
    Session (List Outcome × Option String) := do
  let c ← get
  let step (acc : Disk.Tree × List Outcome × List String × Option String) (r : Option Outcome) :
      Disk.Tree × List Outcome × List String × Option String :=
    let (tree, written, errs, stop) := acc
    match stop, r with
    | some _, _ => acc
    | none, some r =>
      match r.output with
      | some bytes =>
        if r.bag.hasErrors then acc
        else
          match tree.mkdirAll cwd dir.toList with
          | .error e => (tree, written, errs, some ("failed to create " ++ Text.quote dir ++ ": " ++ e))
          | .ok tree =>
            let path := Path.join dir (r.name ++ outputSuffix)
            match tree.writeFile cwd path bytes with
            | .error e => (tree, written, errs ++ ["failed to write " ++ Text.quote path ++ ": " ++ e], none)
            | .ok tree => (tree, written ++ [r], errs, none)
      | none => acc
    | none, none => acc
  let (tree, written, errs, stop) := results.foldl step (c.tree, [], [], none)
  set { c with tree }
  let err := match stop with
    | some e => some e
    | none => if errs.isEmpty then none else some ("\n".intercalate errs)
  return (written, err)

def stageMillis (r : Outcome) (stages : List Stage) : String :=
  Timing.millisOnePlace <| r.timer.phases.foldl (fun n p =>
    if stages.any (·.name == p.name) then n + p.duration else n) 0

def stageTimings (r : Outcome) : String :=
  if !r.stages.contains .load then ""
  else
    r.name ++ ": loaded " ++ stageMillis r [.load] ++ " ms" ++
      (if r.stages.contains .codegen then
        ", analyzed " ++ stageMillis r [.scope, .resolve, .lint] ++ " ms, generated " ++
          stageMillis r [.codegen] ++ " ms"
      else "") ++ "\n"

def compileDumps (i : Invocation) (building : Bool) (t : Tracing) : Session Unit := do
  let strict := i.truth "warnings-as-errors"
  let (files, manifest) ← orFail (resolveInputs (← get).tree i.env.cwd i.reading.args)
  let o ← readCompileOptions i manifest
  let cache ← if building && !i.truth "no-cache" then do
      let c ← get
      match Cache.open "blockc" i.env.xdgCache i.env.home c.tree i.env.cwd with
      | .error e => do warn ("cache disabled: " ++ e ++ "\n"); pure none
      | .ok (cache, tree) => do set { c with tree }; pure (some cache)
    else pure none
  let outDir := match i.text "output", manifest with
    | "", some m => m.outputDir
    | "", none => "build"
    | d, _ => d
  let name := match manifest with
    | some m => if files.length = 1 then m.config.name else ""
    | none => ""
  let reqs : List Request := files.map fun path =>
    { path, name, maxDiagnostics := o.maxDiagnostics, timings := o.timings, cache }
  let c ← get
  let setting : Setting := { cwd := i.env.cwd, origin := i.env.origin }
  let ctx := Trace.Context.empty.withTracer (some t.tracer)
  let (results, errs, ws) := compileAll setting ctx reqs { tree := c.tree, journal := c.journal }
  set { c with tree := ws.tree, journal := ws.journal }
  if let some .stderr := t.tracer.sink? then warn (Utf8.shownKept ws.journal.written)
  reportDiagnostics i o results
  if building then
    let (written, writeErr) ← writeOutputs i.env.cwd outDir results
    if !o.quiet && o.format ≠ "json" then
      for r in written do
        if o.timings then say (stageTimings r)
        say ("built " ++ displayPath "." (Path.join outDir (r.name ++ outputSuffix)) ++ " (" ++
          toString r.stats.nodes ++ " nodes" ++ (if r.cached then ", cached" else "") ++ ")\n")
    if let some e := joinTexts (summarize results errs) writeErr then throw e
  else
    if let some e := summarize results errs then throw e
    if strict then
      let warned := (results.filterMap id).filter (·.bag.hasWarnings) |>.length
      if 0 < warned then throw (toString warned ++ " project(s) have warnings")
    if !o.quiet && o.format ≠ "json" then say ("checked " ++ toString results.length ++ " project(s)\n")

def runCompile (i : Invocation) (building : Bool) : Session Unit := do
  let t ← setupTracing i
  let failure ← tryCatch (do compileDumps i building t; pure none) (fun e => pure (some e))
  match failure with
  | some e => do dumpRing t; closeTracing t; throw e
  | none => closeTracing t

/-! ## The command line -/

def checkArguments (v : Verb) (args : List String) : Except String Unit :=
  match v, args with
  | .clean, a :: _ => .error ("unknown command " ++ Text.quote a ++ " for " ++ Text.quote v.path)
  | .completion, a :: _ => .error ("unknown command " ++ Text.quote a ++ " for " ++ Text.quote v.path)
  | .completionFor _, a :: _ => .error ("unknown command " ++ Text.quote a ++ " for " ++ Text.quote v.path)
  | .refs, _ =>
    if args.length = 1 then .ok ()
    else .error ("accepts 1 arg(s), received " ++ toString args.length)
  | _, _ => .ok ()

def register (v : Verb) : Session Unit :=
  modify fun c => { c with registered := if c.registered.contains v then c.registered else c.registered ++ [v] }

def runHelp (args : List String) : Session Unit := do
  match findVerb (← get).registered args with
  | .error _ => warn (unknownTopic (← get).registered args)
  | .ok (v, _) => register v; say (helpText v)

def execute (env : Surroundings) (v : Verb) (words : List String) : Session Unit := do
  register v
  let reading ← orFail (readFlags v.flags words)
  if reading.truth v.flags "help" then say (helpText v)
  else if v = .top && reading.truth v.flags "version" then
    say (toolName ++ " version " ++ Version.version ++ "\n")
  else if !v.runnable then say (helpText v)
  else
    orFail (checkArguments v reading.args)
    let color ← orFail (colorEnabled (reading.text v.flags "color"))
    let i : Invocation := { env, verb := v, reading, color }
    match v with
    | .build => runCompile i true
    | .check => runCompile i false
    | .refs => runRefs i (reading.args.headD "")
    | .clean => runClean i
    | .version => runVersion i
    | .help => runHelp reading.args
    | _ => pure ()

/-- What a run leaves: the two streams, the files, the error it failed with, and the commands
registered for the runs after it. -/
structure Transcript where
  out : String
  err : String
  tree : Disk.Tree
  error : Option String
  registered : List Verb

def run (env : Surroundings) (words : List String) (tree : Disk.Tree) (registered : List Verb) :
    Transcript :=
  match findVerb registered words with
  | .error e =>
    { out := "", err := "Error: " ++ e ++ "\nRun '" ++ toolName ++ " --help' for usage.\n", tree,
      error := some e, registered }
  | .ok (v, rest) =>
    let (result, c) := ((execute env v rest).run { tree, registered }).run
    match result with
    | .ok () => { out := c.out, err := c.err, tree := c.tree, error := none, registered := c.registered }
    | .error e =>
      { out := c.out, err := c.err ++ "Error: " ++ e ++ "\n", tree := c.tree, error := some e,
        registered := c.registered }

end BlockGraph.Cli
