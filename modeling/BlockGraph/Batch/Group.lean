import BlockGraph.Batch.Compile
/-!
# Building a batch concurrently

The builds of a batch share one workspace, and so the cache; a group runs at most a given number
of them at a time, and other builds may take steps between a build's start and its end.
-/

namespace BlockGraph.Batch

/-- A step of a batch built concurrently: the batch queues build `i` and hands it to the group;
the build begins, and later ends. -/
inductive Step where
  | queue (i : Nat)
  | spawn (i : Nat)
  | start (i : Nat)
  | finish (i : Nat)
  deriving DecidableEq, Repr

namespace Step

def index : Step → Nat
  | .queue i | .spawn i | .start i | .finish i => i

def isMain : Step → Bool
  | .queue _ | .spawn _ => true
  | .start _ | .finish _ => false

def isSpawn : Step → Bool
  | .spawn _ => true
  | _ => false

def isFinish : Step → Bool
  | .finish _ => true
  | _ => false

end Step

/-- Where a build of a batch stands: not begun; begun, with its error so far; or ended, with its
outcome and error. -/
inductive Slot where
  | idle
  | running (b : Build) (err : Option BuildError)
  | done (o : Outcome) (err : Option BuildError)

def Slot.outcome? : Slot → Option Outcome
  | .done o _ => some o
  | _ => none

def Slot.error? : Slot → Option BuildError
  | .done _ err => err
  | _ => none

structure Group where
  ws : Workspace
  slots : List Slot

def Group.step (s : Setting) (ctx : Trace.Context) (reqs : List Request) (g : Group) : Step → Group
  | .queue i =>
    match reqs[i]? with
    | some req => { g with ws := reportQueued g.ws req }
    | none => g
  | .spawn _ => g
  | .start i =>
    match reqs[i]?, g.slots[i]? with
    | some req, some .idle =>
      if s.cancelled then g
      else
        let (b, err) := start s ctx req g.ws
        { ws := b.ws, slots := g.slots.set i (.running b err) }
    | _, _ => g
  | .finish i =>
    match g.slots[i]? with
    | some (.running b err) =>
      let (o, err, ws) := b.finish err g.ws
      { ws, slots := g.slots.set i (.done o err) }
    | _ => g

/-- Builds a batch concurrently, taking the steps of a schedule: the outcome of each build, missing
for one that did not end; the errors in the order of the builds, or the batch's cancellation; and
the workspace after them. -/
def compileConcurrently (s : Setting) (ctx : Trace.Context) (reqs : List Request) (ws : Workspace)
    (sched : List Step) : List (Option Outcome) × List BuildError × Workspace :=
  if reqs.isEmpty then ([], [], ws)
  else
    let g := sched.foldl (Group.step s ctx reqs) { ws, slots := reqs.map fun _ => .idle }
    (g.slots.map Slot.outcome?, if s.cancelled then [.cancelled] else g.slots.filterMap Slot.error?, g.ws)

def mainSteps (n : Nat) : List Step := (List.range n).flatMap fun i => [.queue i, .spawn i]

def sequential (n : Nat) : List Step := mainSteps n ++ (List.range n).flatMap fun i => [.start i, .finish i]

structure Allows (limit n : Nat) (sched : List Step) : Prop where
  main : sched.filter Step.isMain = mainSteps n
  own : ∀ i < n, sched.filter (fun st => !st.isMain && st.index == i) = [.start i, .finish i]
  indices : ∀ st ∈ sched, st.index < n
  handed : ∀ i < n, .spawn i ∈ sched.takeWhile (· != .start i)
  bounded : ∀ k ≤ sched.length,
    ((sched.take k).filter Step.isSpawn).length ≤ limit + ((sched.take k).filter Step.isFinish).length

instance (limit n : Nat) (sched : List Step) : Decidable (Allows limit n sched) :=
  decidable_of_iff (sched.filter Step.isMain = mainSteps n ∧
      (∀ i < n, sched.filter (fun st => !st.isMain && st.index == i) = [.start i, .finish i]) ∧
      (∀ st ∈ sched, st.index < n) ∧ (∀ i < n, .spawn i ∈ sched.takeWhile (· != .start i)) ∧
      ∀ k ≤ sched.length,
        ((sched.take k).filter Step.isSpawn).length ≤ limit + ((sched.take k).filter Step.isFinish).length)
    ⟨fun h => ⟨h.1, h.2.1, h.2.2.1, h.2.2.2.1, h.2.2.2.2⟩,
      fun h => ⟨h.main, h.own, h.indices, h.handed, h.bounded⟩⟩

example : Allows 1 2 [.queue 0, .spawn 0, .queue 1, .start 0, .finish 0, .spawn 1, .start 1, .finish 1] := by
  decide

example : ¬ Allows 1 2 (sequential 2) := by decide

end BlockGraph.Batch
