import BlockGraph.Graph.Emit

namespace BlockGraph

def Project.messages (p : Project) : List String :=
  sortedUnique <| p.targets.flatMap fun t =>
    t.events.flatMap (·.refs.messages) ++
      t.handlers.flatMap (fun h => h.message :: h.refs.messages) ++
      t.procs.flatMap (·.refs.messages)

end BlockGraph

namespace BlockGraph.Graph

def Writer.declareVar (s : EmitScope) (proc : String) (w : Writer) (v : Var) : Writer :=
  match s.structFields v with
  | [] =>
    let q := Json.quoteKept (Names.qualify proc v.name "")
    w.str (q ++ ":[" ++ q ++ ",0],")
  | fields => fields.foldl (fun w f =>
      let q := Json.quoteKept (Names.qualify proc v.name f.name)
      w.str (q ++ ":[" ++ q ++ ",0],")) w

def Writer.declareList (w : Writer) (l : ListDecl) : Writer :=
  let q := Json.quoteKept l.name
  let w := l.data.foldl (fun w item => w.str (Json.quoteKept item ++ ",")) (w.str (q ++ ":[" ++ q ++ ",["))
  (w.close "]").close "]"

def Writer.targetHeader (w : Writer) (s : EmitScope) (messages : List String) : Writer :=
  let sprite := s.sprite
  let w := w.str ("\x7b\"isStage\":" ++ flagText sprite.isStage ++ ",\"name\":" ++
    Json.quoteKept sprite.name ++ ",")
  let w := w.str "\"variables\":\x7b"
  let w := (sprite.vars.mergeSort (fun a b => Utf8.keptLE a.name b.name)).foldl (declareVar s "") w
  let w := sprite.sortedProcs.foldl (fun w p =>
    (p.locals.mergeSort (fun a b => Utf8.keptLE a.name b.name)).foldl (declareVar s p.name) w) w
  let w := w.close "\x7d"
  let w := w.str "\"lists\":\x7b"
  let w := (sprite.lists.mergeSort (fun a b => Utf8.keptLE a.name b.name)).foldl declareList w
  let w := w.close "\x7d"
  let w := w.str "\"broadcasts\":\x7b"
  let w := if sprite.isStage then
      messages.foldl (fun w m => let q := Json.quoteKept m; w.str (q ++ ":" ++ q ++ ",")) w
    else w
  let w := w.close "\x7d"
  w.str "\"blocks\":\x7b"

structure TargetRun where
  name : String
  emitted : List Emitted
  pieces : List Piece
  failure : Option EmitError
  nodes : UInt32
  deriving Inhabited

/-- Emits one target, starting after id `last` with a writer whose last piece ended with a
comma when `comma` holds. Returns the run, the last id handed out and the writer's comma. -/
def TargetRun.emit (project : Project) (messages : List String) (sprite : Sprite) (last : Nat)
    (comma : Bool) : TargetRun × Nat × Bool :=
  let scope : EmitScope := { sprite, stage := if sprite.isStage then none else some project.stage }
  let (result, st) := ((emitScripts sprite).run scope).run.run { last }
  let emitted := st.out.reverse
  let w := ({ comma } : Writer).targetHeader scope messages
  let w := emitted.foldl (fun w e => match e with | .block b => w.block b | _ => w) w
  let (w, failure) := match result with
    | .ok () => ((w.close "\x7d").close "\x7d", none)
    | .error e => (w, some e)
  ({ name := sprite.name, emitted, pieces := w.written, failure, nodes := nodeId st.last - nodeId last },
    st.last, w.comma)

def emitTargets (project : Project) (messages : List String) :
    List Sprite → Nat → Bool → List TargetRun × Nat × Bool
  | [], last, comma => ([], last, comma)
  | t :: ts, last, comma =>
    let (run, last, comma) := TargetRun.emit project messages t last comma
    if run.failure.isSome then ([run], last, comma)
    else
      let (runs, last, comma) := emitTargets project messages ts last comma
      (run :: runs, last, comma)

structure Generation where
  runs : List TargetRun
  lastId : Nat
  finished : Bool
  deriving Inhabited

def generate (project : Project) : Generation :=
  let (runs, lastId, _) := emitTargets project project.messages project.targets 0 false
  { runs, lastId, finished := runs.all (·.failure.isNone) }

namespace Generation

def opening : List Piece := [.text "\x7b\"targets\":["]

def closing (g : Generation) : List Piece :=
  let comma := ((g.runs.getLast?.map (·.pieces)).getD opening).getLast?.map (fun
    | .text s => s.back == ','
    | .stepBack => false) |>.getD false
  ((({ comma } : Writer).close "]").closeLast "\x7d").written

/-- Every piece written, with the index of the target that wrote it (none for the frame). -/
def pieces (g : Generation) : List (Option Nat × Piece) :=
  opening.map (none, ·) ++
    (g.runs.zipIdx.flatMap fun (r, i) => r.pieces.map (some i, ·)) ++
    (if g.finished then g.closing.map (none, ·) else [])

def text (g : Generation) : String := textOf (g.pieces.map (·.2))

def failure? (g : Generation) : Option (String × EmitError) :=
  g.runs.findSome? fun r => r.failure.map (r.name, ·)

def errorText? (g : Generation) : Option String :=
  g.failure?.map fun (n, e) => "target " ++ n ++ ": " ++ e.render

def targetsDone (g : Generation) : Nat := (g.runs.filter (·.failure.isNone)).length

def reports (g : Generation) : List Diagnostic :=
  g.runs.flatMap fun r => r.emitted.filterMap fun | .report d => some d | _ => none

def size (g : Generation) : Nat := g.text.utf8ByteSize

def written (g : Generation) : Nat := bytesWritten (g.pieces.map (·.2))

def stepsBack (g : Generation) : Nat := (g.pieces.filter fun p => p.2 == .stepBack).length

/-- Where a run stops when the piece of target `t` (none for the frame) is refused: the name
of the target then being written, and how many targets were complete. -/
def stopIn (g : Generation) (t : Option Nat) : Option String × Nat :=
  match t with
  | some i => ((g.runs[i]?.map (·.name)), i)
  | none => (none, 0)

/-- The stops of a refused piece of the frame: before the targets none is complete, after them
all are. -/
def frameStop (g : Generation) (afterTargets : Bool) : Option String × Nat :=
  (none, if afterTargets then g.runs.length else 0)

def stops (g : Generation) : List (Piece × Option String × Nat) :=
  let rec go : List (Option Nat × Piece) → Bool → List (Piece × Option String × Nat)
    | [], _ => []
    | (t, p) :: rest, seen =>
      let seen := seen || t.isSome
      let stop := match t with
        | some i => g.stopIn (some i)
        | none => g.frameStop seen
      (p, stop) :: go rest seen
  go g.pieces false

/-- Ranges of write limits `[from, to]` with where a run stops when its sink takes at most that
many bytes in all: a write that would pass the limit is refused whole. Limits from the bytes
written on are not listed: the run completes. -/
def writeStops (g : Generation) : List (Nat × Nat × Option String × Nat) :=
  let rec go : List (Piece × Option String × Nat) → Nat → List (Nat × Nat × Option String × Nat)
    | [], _ => []
    | (.stepBack, _) :: rest, c => go rest c
    | (.text t, stop) :: rest, c =>
      let n := t.utf8ByteSize
      (c, c + n - 1, stop) :: go rest (c + n)
  go g.stops 0

def seekStops (g : Generation) : List (Option String × Nat) :=
  g.stops.filterMap fun (p, stop) => if p == .stepBack then some stop else none

/-- The text of the error a run ends with when a piece is refused for `reason`: wrapped with
the target being written, if any. -/
def stopMessage (stop : Option String × Nat) (reason : String) : String :=
  match stop.1 with
  | some t => "target " ++ t ++ ": " ++ reason
  | none => reason

end Generation

end BlockGraph.Graph
