import BlockGraph.Trace.Event
import BlockGraph.Disk.Tree

namespace BlockGraph.Trace

/-- Where a stream's lines go: a buffer of the caller, the error stream, or a file. -/
inductive Sink where
  | memory
  | stderr
  | file (path : String) (place : Disk.Location)
  deriving Inhabited

structure Config where
  level : Level
  mode : Mode
  format : Format
  output : Option String
  ringSize : Int

inductive Tracer where
  | silent
  | stream (level : Level) (format : Format) (sink : Sink)
  | ring (level : Level) (capacity : Nat)
  | both (level : Level) (format : Format) (sink : Sink) (capacity : Nat)
  deriving Inhabited

def Tracer.level : Tracer → Level
  | .silent => .off
  | .stream l _ _ => l
  | .ring l _ => l
  | .both l _ _ _ => l

def Tracer.enabled (t : Tracer) : Bool := t.level != .off

def Tracer.kindName : Tracer → String
  | .silent => "nop"
  | .stream .. => "stream"
  | .ring .. => "ring"
  | .both .. => "multi"

def Tracer.hasRing : Tracer → Bool
  | .ring .. => true
  | .both .. => true
  | _ => false

def Tracer.sink? : Tracer → Option Sink
  | .stream _ _ s => some s
  | .both _ _ s _ => some s
  | _ => none

def Config.openSink (c : Config) (tree : Disk.Tree) (cwd : Disk.Location) :
    Except String (Sink × Disk.Tree) :=
  match c.output with
  | none => .ok (.memory, tree)
  | some "" => .ok (.stderr, tree)
  | some "-" => .ok (.stderr, tree)
  | some p =>
    match tree.creatable cwd p with
    | .ok l => .ok (.file p l, tree.withFile l [])
    | .error f => .error ("failed to open trace output: " ++ f.describe "open" p)

/-- The tracer a configuration asks for, with the tree after its output is opened; level `off`
gives the silent tracer whatever else is asked, and only a stream opens its output. -/
def Tracer.new (c : Config) (tree : Disk.Tree) (cwd : Disk.Location) :
    Except String (Tracer × Disk.Tree) :=
  if c.level = .off then .ok (.silent, tree)
  else
    let capacity := if c.ringSize ≤ 0 then 4096 else c.ringSize.toNat
    let format := c.format.forPath (c.output.getD "")
    match c.mode with
    | .stream => do
      let (sink, tree) ← c.openSink tree cwd
      return (.stream c.level format sink, tree)
    | .ring => .ok (.ring c.level capacity, tree)
    | .both => do
      let (sink, tree) ← c.openSink tree cwd
      return (.both c.level format sink capacity, tree)

/-- A ring of `capacity` slots: the slots written so far, the slot the next entry goes to, and
whether the ring has wrapped around. Until it wraps, the slots written are exactly those before
the next one, and no slot past them is ever read. -/
structure RingBuffer (α : Type) where
  slots : List α := []
  head : Nat := 0
  full : Bool := false
  deriving Inhabited

/-- The ring after an entry goes to its next slot, overwriting the oldest once the ring has
wrapped; the next slot moves on modulo the capacity, and the ring has wrapped once the next slot
comes back to the first. -/
def RingBuffer.push {α : Type} (r : RingBuffer α) (capacity : Nat) (x : α) : RingBuffer α :=
  let head := (r.head + 1) % capacity
  { slots := if r.head < r.slots.length then r.slots.set r.head x else r.slots ++ [x],
    head, full := r.full || head == 0 }

/-- The entries of a ring, oldest first: once it has wrapped, the slots from the next one on and
then those before it; until then, the slots before the next one. -/
def RingBuffer.toList {α : Type} (r : RingBuffer α) : List α :=
  if r.full then r.slots.drop r.head ++ r.slots.take r.head else r.slots.take r.head

structure Record where
  event : Event
  shared : Option Nat
  deriving Inhabited

structure Journal where
  seq : Nat := 0
  spans : Nat := 0
  written : String := ""
  sinkClosed : Bool := false
  ring : RingBuffer Record := {}
  notes : List (Nat × List (String × String)) := []
  deriving Inhabited

def Journal.notesOf (j : Journal) (span : Nat) : Option (List (String × String)) :=
  (j.notes.find? (·.1 == span)).map (·.2)

def setNote (span : Nat) (k v : String) :
    List (Nat × List (String × String)) → List (Nat × List (String × String))
  | [] => [(span, [(k, v)])]
  | (s, pairs) :: rest =>
    if s = span then (s, setExtra k v pairs) :: rest else (s, pairs) :: setNote span k v rest

def Journal.write (j : Journal) (level : Level) (format : Format) (e : Event) : Journal :=
  if level.admits e.scope then
    let seq := j.seq + 1
    let line := { e with seq }.line format
    { j with seq, written := if j.sinkClosed then j.written else j.written ++ line }
  else j

def Journal.keep (j : Journal) (level : Level) (capacity : Nat) (e : Event) (shared : Option Nat) :
    Journal :=
  if level.admits e.scope then
    let seq := j.seq + 1
    { j with seq, ring := j.ring.push capacity { event := { e with seq }, shared } }
  else j

def Tracer.emit (t : Tracer) (e : Event) (shared : Option Nat) (j : Journal) : Journal :=
  match t with
  | .silent => j
  | .stream l f _ => j.write l f e
  | .ring l c => j.keep l c e shared
  | .both l f _ c => (j.write l f e).keep l c e shared

/-- A span: idle, or begun under a tracer with an id, a parent, a scope, a name and the thread
that began it. -/
inductive Span where
  | idle
  | live (tracer : Tracer) (id parent : Nat) (scope : Scope) (name : String) (thread : Nat)
  deriving Inhabited

def Span.id : Span → Nat
  | .idle => 0
  | .live _ id .. => id

def Tracer.begin (t : Tracer) (scope : Scope) (name : String) (parent : Nat) (o : Origin)
    (j : Journal) : Span × Journal :=
  if t.level.admits scope then
    let id := j.spans + 1
    let e : Event :=
      { seq := 0, kind := .spanBegin, scope, span := id, parent, origin := o, name, detail := "",
        extra := [] }
    (.live t id parent scope name o.thread, t.emit e none { j with spans := id })
  else (.idle, j)

def Span.finish (s : Span) (detail : String) (o : Origin) (j : Journal) : Journal :=
  match s with
  | .idle => j
  | .live t id parent scope name thread =>
    let notes := j.notesOf id
    let e : Event :=
      { seq := 0, kind := .spanEnd, scope, span := id, parent, origin := { o with thread }, name,
        detail, extra := notes.getD [] }
    t.emit e (notes.map fun _ => id) j

def Span.withExtra (s : Span) (k v : String) (j : Journal) : Journal :=
  match s with
  | .idle => j
  | .live _ id .. => { j with notes := setNote id k v j.notes }

def Tracer.point (t : Tracer) (scope : Scope) (name detail : String) (o : Origin) (j : Journal) :
    Journal :=
  if t.level.admits scope then
    t.emit
      { seq := 0, kind := .point, scope, span := 0, parent := 0, origin := o, name, detail,
        extra := [] } none j
  else j

def Journal.shown (j : Journal) (r : Record) : Event :=
  match r.shared with
  | some id => { r.event with extra := (j.notesOf id).getD [] }
  | none => r.event

def Journal.snapshot (j : Journal) : List Event := j.ring.toList.map j.shown

def Journal.dump (j : Journal) (f : Format) : String :=
  String.join (j.snapshot.map (·.line f))

def Tracer.close (t : Tracer) (j : Journal) : Except String Unit × Journal :=
  let closeSink : Sink → Except String Unit × Journal
    | .file p _ =>
      if j.sinkClosed then (.error ("close " ++ p ++ ": file already closed"), j)
      else (.ok (), { j with sinkClosed := true })
    | _ => (.ok (), j)
  match t with
  | .stream _ _ s => closeSink s
  | .both _ _ s _ => closeSink s
  | _ => (.ok (), j)

/-- What a piece of work passes on: the tracer to record with and the span that new spans hang
under. -/
structure Context where
  tracer : Tracer
  parent : Nat
  deriving Inhabited

def Context.empty : Context := ⟨.silent, 0⟩

def Context.withTracer (c : Context) (t : Option Tracer) : Context :=
  { c with tracer := t.getD .silent }

def Context.withParent (c : Context) (s : Span) : Context := { c with parent := s.id }

end BlockGraph.Trace
