import Mathlib.Data.List.Forall2
import BlockGraph.Proofs.Batch.Failures

namespace BlockGraph.Batch

/-- The events of a stage that ran to its end: working, then done. -/
def stageEvents (path : String) (st : Stage) : List Event :=
  [{ file := path, stage := st, status := .working }, { file := path, stage := st, status := .done }]

/-- The progress events of a build of `path`: each stage of the pipeline in order, working and
then done; a stage that fails, working and then failed with the error's text, and nothing after
it; a build served from the cache, loading working and done, then code generation cached. -/
inductive Reported (path : String) : List Event → Prop
  | finished : Reported path (Stage.all.flatMap (stageEvents path))
  | failed (done rest : List Stage) (st : Stage) (text : String)
      (h : Stage.all = done ++ st :: rest) :
      Reported path (done.flatMap (stageEvents path) ++
        [{ file := path, stage := st, status := .working },
          { file := path, stage := st, status := .error, error := some text }])
  | cached : Reported path
      [{ file := path, stage := .load, status := .working },
        { file := path, stage := .load, status := .done },
        { file := path, stage := .codegen, status := .cached }]

theorem Reported.ends_finishing {path : String} {evs : List Event} (h : Reported path evs) :
    ∃ xs e, evs = xs ++ [e] ∧
      (e.status = .error ∨ e.status = .cached ∨ e.status = .done ∧ e.stage = .codegen) := by
  cases h with
  | finished =>
    exact ⟨[Stage.load, .scope, .resolve, .lint].flatMap (stageEvents path) ++
      [{ file := path, stage := .codegen, status := .working }],
      { file := path, stage := .codegen, status := .done }, rfl, .inr (.inr ⟨rfl, rfl⟩)⟩
  | failed done rest st text hsplit =>
    exact ⟨done.flatMap (stageEvents path) ++ [{ file := path, stage := st, status := .working }],
      { file := path, stage := st, status := .error, error := some text }, by simp, .inl rfl⟩
  | cached =>
    exact ⟨[{ file := path, stage := .load, status := .working },
      { file := path, stage := .load, status := .done }],
      { file := path, stage := .codegen, status := .cached }, rfl, .inr (.inl rfl)⟩

theorem Reported.file_eq {path : String} {evs : List Event} (h : Reported path evs) :
    ∀ e ∈ evs, e.file = path := by
  cases h with
  | finished =>
    intro e he
    obtain ⟨st, -, he⟩ := List.mem_flatMap.1 he
    simp only [stageEvents, List.mem_cons, List.not_mem_nil, or_false] at he
    rcases he with rfl | rfl <;> rfl
  | failed done rest st text hsplit =>
    intro e he
    simp only [List.mem_append, List.mem_flatMap, stageEvents, List.mem_cons, List.not_mem_nil,
      or_false] at he
    rcases he with ⟨_, -, rfl | rfl⟩ | rfl | rfl <;> rfl
  | cached =>
    intro e he
    simp only [List.mem_cons, List.not_mem_nil, or_false] at he
    rcases he with rfl | rfl | rfl <;> rfl

namespace Build

variable {b : Build}

theorem report_events (b : Build) (h : b.req.progress = true) (st : Stage) (status : Status)
    (e : Option String) : (b.report st status e).ws.events.toList =
      b.ws.events.toList ++ [{ file := b.req.path, stage := st, status, error := e }] := by
  simp [report, h]

theorem enter_events (h : b.req.progress = true) (st : Stage) :
    (b.enter st).1.ws.events.toList =
      b.ws.events.toList ++ [{ file := b.req.path, stage := st, status := .working }] := by
  simp only [enter]
  exact report_events _ h st .working none

theorem leave_done_events (h : b.req.progress = true) (st : Stage) (span : Trace.Span)
    (idx : Nat) : (b.leave st span idx none).ws.events.toList =
      b.ws.events.toList ++ [{ file := b.req.path, stage := st, status := .done }] := by
  simp [leave, report, h]

theorem leave_error_events (h : b.req.progress = true) (st : Stage) (span : Trace.Span)
    (idx : Nat) (text : String) : (b.leave st span idx (some text)).ws.events.toList =
      b.ws.events.toList ++
        [{ file := b.req.path, stage := st, status := .error, error := some text }] := by
  simp [leave, report, h]

theorem quietStage_events (h : b.req.progress = true) (st : Stage) :
    (b.quietStage st).ws.events.toList = b.ws.events.toList ++ stageEvents b.req.path st := by
  simp only [quietStage]
  rw [leave_done_events (by rw [enter_req]; exact h), enter_events h, enter_req, List.append_assoc]
  rfl

@[simp] theorem store_events (b : Build) (dump : List UInt8) :
    (b.store dump).ws.events = b.ws.events := by
  unfold store
  split
  · rfl
  · dsimp only
    split <;> rfl

@[simp] theorem traceGeneration_events (b : Build) (g : Graph.Generation) :
    (b.traceGeneration g).ws.events = b.ws.events := rfl

theorem generate_events (h : b.req.progress = true) (dump : List UInt8) (p : Project)
    (fs : FileSet) :
    ∃ last, (b.generate dump p fs).1.ws.events.toList = b.ws.events.toList ++
        [Stage.scope, .resolve, .lint].flatMap (stageEvents b.req.path) ++
        [{ file := b.req.path, stage := .codegen, status := .working }, last] ∧
      (last = { file := b.req.path, stage := .codegen, status := .done } ∨
        ∃ text, last =
          { file := b.req.path, stage := .codegen, status := .error, error := some text }) := by
  unfold generate
  dsimp only
  split
  · rename_i text _
    refine ⟨_, ?_, .inr ⟨text, rfl⟩⟩
    simp [leave_error_events, enter_events, quietStage_events, h, stageEvents]
  · refine ⟨_, ?_, .inl rfl⟩
    split
    · simp [leave_done_events, enter_events, quietStage_events, h, stageEvents]
    · split <;> simp [leave_done_events, enter_events, quietStage_events, h, stageEvents]

theorem loadFailed_events (h : b.req.progress = true) (span : Trace.Span) (idx : Nat)
    (cause : LoadFailure) : (b.loadFailed span idx cause).1.ws.events.toList =
      b.ws.events.toList ++
        [{ file := b.req.path, stage := .load, status := .error, error := some cause.message }] := by
  simp [loadFailed, leave_error_events, h]

/-- A build that was not cancelled reports, after what was reported before it, the events of one
build of its dump: a failed load, a hit of the cache, or the stages of its compilation. -/
theorem run_events (hc : b.setting.cancelled = false) (h : b.req.progress = true) :
    ∃ evs, b.run.1.ws.events.toList = b.ws.events.toList ++ evs ∧ Reported b.req.path evs := by
  -- a failed load reports loading working, then failed
  have hfailed : ∀ cause, ∃ evs, ((b.enter .load).1.loadFailed (b.enter .load).2.1
      (b.enter .load).2.2 cause).1.ws.events.toList = b.ws.events.toList ++ evs ∧
      Reported b.req.path evs := fun cause =>
    ⟨_, by simp [loadFailed_events, enter_events, h],
      Reported.failed [] [.scope, .resolve, .lint, .codegen] .load cause.message rfl⟩
  unfold run
  rw [if_neg (by simp [hc])]
  dsimp only
  split
  · exact hfailed _
  · split
    · -- served from the cache
      refine ⟨_, ?_, Reported.cached⟩
      simp [report_events, leave_done_events, enter_events, h]
    · split
      · exact hfailed _
      · -- the stages of the compilation, the last one done or failed
        have hleft : ((b.enter .load).1.leave .load (b.enter .load).2.1 (b.enter .load).2.2
            none).req.progress = true := by simp [h]
        obtain ⟨last, hevents, hlast⟩ := generate_events hleft _ _ _
        rw [hevents, leave_done_events (by simp [h]), enter_events h]
        simp only [leave_req, enter_req, List.append_assoc]
        rcases hlast with rfl | ⟨text, rfl⟩
        · refine ⟨_, ?_, Reported.finished⟩
          simp [Stage.all, stageEvents]
        · refine ⟨_, ?_, Reported.failed [.load, .scope, .resolve, .lint] [] .codegen text rfl⟩
          simp [stageEvents]

@[simp] theorem finish_events (b : Build) (err : Option BuildError) (ws : Workspace) :
    (b.finish err ws).2.2.events = ws.events := by
  unfold finish
  cases b.toStore <;> simp

end Build

theorem compile_reported {s : Setting} (hs : s.cancelled = false) (ctx : Trace.Context)
    {req : Request} (hp : req.progress = true) (ws : Workspace) :
    ∃ evs, (compile s ctx req ws).2.2.events.toList = ws.events.toList ++ evs ∧
      Reported req.path evs := by
  rw [compile_eq, Build.finish_events]
  exact Build.run_events (b := Build.new s ctx req ws) hs hp

/-- The event a batch reports for a dump before it builds it: queued, in the load stage. -/
def queuedEvent (path : String) : Event := { file := path, stage := .load, status := .queued }

/-- The events for one dump, in the order they came. -/
def eventsOf (es : List Event) (path : String) : List Event := es.filter (·.file == path)

theorem eventsOf_append (es es' : List Event) (path : String) :
    eventsOf (es ++ es') path = eventsOf es path ++ eventsOf es' path :=
  List.filter_append ..

/-- The events of the builds of several dumps, as far as they have come and mixed in any order:
the events for each listed dump are a beginning of its queued event and one build's events. -/
def Interleaved (paths : List String) (es : List Event) : Prop :=
  ∀ path ∈ paths, ∃ evs, Reported path evs ∧ eventsOf es path <+: queuedEvent path :: evs

def Complete (es : List Event) (path : String) : Prop :=
  ∃ evs, Reported path evs ∧ eventsOf es path = queuedEvent path :: evs

theorem interleaved_of_complete {paths : List String} {es : List Event}
    (h : ∀ path ∈ paths, Complete es path) : Interleaved paths es := by
  intro path hpath
  obtain ⟨evs, hrep, hevs⟩ := h path hpath
  exact ⟨evs, hrep, hevs ▸ List.prefix_refl _⟩

theorem eventsOf_eq_nil {es : List Event} {path : String} (h : ∀ e ∈ es, e.file ≠ path) :
    eventsOf es path = [] :=
  List.filter_eq_nil_iff.2 fun e he => by simpa using h e he

theorem eventsOf_eq_self {es : List Event} {path : String} (h : ∀ e ∈ es, e.file = path) :
    eventsOf es path = es :=
  List.filter_eq_self.2 fun e he => by simpa using h e he

theorem reportQueued_events {ws : Workspace} {req : Request} (hp : req.progress = true) :
    (reportQueued ws req).events.toList = ws.events.toList ++ [queuedEvent req.path] := by
  simp [reportQueued, hp, queuedEvent]

@[simp] theorem compileNext_workspace (s : Setting) (ctx : Trace.Context)
    (acc : Array Outcome × Array BuildError × Workspace) (req : Request) :
    (compileNext s ctx acc req).2.2 = (compile s ctx req acc.2.2).2.2 := by
  obtain ⟨outs, errs, ws⟩ := acc
  rfl

theorem foldl_reportQueued_events {reqs : List Request} (hp : ∀ req ∈ reqs, req.progress = true)
    (ws : Workspace) : (reqs.foldl reportQueued ws).events.toList =
      ws.events.toList ++ reqs.map fun req => queuedEvent req.path := by
  induction reqs generalizing ws with
  | nil => simp
  | cons req reqs ih =>
    rw [List.foldl_cons, ih (fun r hr => hp r (List.mem_cons_of_mem _ hr)),
      reportQueued_events (hp req List.mem_cons_self)]
    simp

theorem foldl_compileNext_reported {s : Setting} (hs : s.cancelled = false) (ctx : Trace.Context)
    {reqs : List Request} (hp : ∀ req ∈ reqs, req.progress = true)
    (acc : Array Outcome × Array BuildError × Workspace) :
    ∃ evss, (reqs.foldl (compileNext s ctx) acc).2.2.events.toList =
        acc.2.2.events.toList ++ evss.flatten ∧
      List.Forall₂ (fun req evs => Reported req.path evs) reqs evss := by
  induction reqs generalizing acc with
  | nil => exact ⟨[], by simp, .nil⟩
  | cons req reqs ih =>
    obtain ⟨evs, hevs, hrep⟩ := compile_reported hs ctx (hp req List.mem_cons_self) acc.2.2
    obtain ⟨evss, hevss, hreps⟩ :=
      ih (fun r hr => hp r (List.mem_cons_of_mem _ hr)) (compileNext s ctx acc req)
    refine ⟨evs :: evss, ?_, .cons hrep hreps⟩
    rw [List.foldl_cons, hevss, compileNext_workspace, hevs, List.flatten_cons, List.append_assoc]

theorem compileAll_reported {s : Setting} (hs : s.cancelled = false) (ctx : Trace.Context)
    {reqs : List Request} (hp : ∀ req ∈ reqs, req.progress = true) (ws : Workspace) :
    ∃ evss, (compileAll s ctx reqs ws).2.2.events.toList =
        ws.events.toList ++ (reqs.map fun req => queuedEvent req.path) ++ evss.flatten ∧
      List.Forall₂ (fun req evs => Reported req.path evs) reqs evss := by
  unfold compileAll
  cases reqs with
  | nil => exact ⟨[], by simp, .nil⟩
  | cons req reqs =>
    simp only [List.isEmpty_cons, Bool.false_eq_true, if_false, hs, compileEach]
    obtain ⟨evss, hevss, hreps⟩ := foldl_compileNext_reported hs ctx hp
      (#[], #[], (req :: reqs).foldl reportQueued ws)
    refine ⟨evss, ?_, hreps⟩
    rw [← foldl_reportQueued_events hp, ← hevss]

theorem batch_files {reqs : List Request} {evss : List (List Event)}
    (hreps : List.Forall₂ (fun req evs => Reported req.path evs) reqs evss) :
    ∀ e ∈ evss.flatten, e.file ∈ reqs.map (·.path) := by
  induction hreps with
  | nil => simp
  | cons hrep _ ih =>
    intro e he
    rw [List.flatten_cons, List.mem_append] at he
    rcases he with he | he
    · rw [hrep.file_eq e he]
      exact List.mem_cons_self
    · exact List.mem_cons_of_mem _ (ih e he)

theorem batch_eventsOf {reqs : List Request} {evss : List (List Event)}
    (hreps : List.Forall₂ (fun req evs => Reported req.path evs) reqs evss)
    (hpaths : (reqs.map (·.path)).Nodup) {req : Request} (hreq : req ∈ reqs) :
    ∃ evs, Reported req.path evs ∧
      eventsOf (reqs.map fun r => queuedEvent r.path) req.path = [queuedEvent req.path] ∧
      eventsOf evss.flatten req.path = evs := by
  induction hreps with
  | nil => exact absurd hreq List.not_mem_nil
  | @cons r evs rest evss hrep hrest ih =>
    rw [List.map_cons, List.nodup_cons] at hpaths
    obtain ⟨hfresh, hpaths⟩ := hpaths
    rcases List.mem_cons.1 hreq with heq | hreq
    · -- the dump's own build; no later event is for its path
      subst heq
      have hqueued : ∀ e ∈ rest.map fun r => queuedEvent r.path, e.file ≠ req.path := by
        intro e he hfile
        obtain ⟨r', hr', rfl⟩ := List.mem_map.1 he
        exact hfresh (hfile ▸ List.mem_map_of_mem hr')
      refine ⟨evs, hrep, ?_, ?_⟩
      · rw [List.map_cons, eventsOf, List.filter_cons_of_pos (by simp [queuedEvent])]
        exact congrArg _ (eventsOf_eq_nil hqueued)
      · rw [List.flatten_cons, eventsOf_append, eventsOf_eq_self hrep.file_eq,
          eventsOf_eq_nil fun e he hfile => hfresh (hfile ▸ batch_files hrest e he :),
          List.append_nil]
    · -- another dump's build: its events are not for this path
      have hne : r.path ≠ req.path := fun h => hfresh (h ▸ List.mem_map_of_mem hreq)
      obtain ⟨evs', hrep', hq, hf⟩ := ih hpaths hreq
      refine ⟨evs', hrep', ?_, ?_⟩
      · rw [List.map_cons, eventsOf, List.filter_cons_of_neg (by simp [queuedEvent, hne])]
        exact hq
      · rw [List.flatten_cons, eventsOf_append,
          eventsOf_eq_nil fun e he hfile => hne ((hrep.file_eq e he).symm.trans hfile),
          List.nil_append, hf]

/-- A batch of distinct dumps not cancelled, asked to report progress and started with no events,
reports all the events of each dump's build: its queued event, then those of one build. -/
theorem compileAll_complete {s : Setting} (hs : s.cancelled = false) (ctx : Trace.Context)
    {reqs : List Request} (hp : ∀ req ∈ reqs, req.progress = true)
    (hpaths : (reqs.map (·.path)).Nodup) {ws : Workspace} (hws : ws.events = #[]) :
    ∀ req ∈ reqs, Complete (compileAll s ctx reqs ws).2.2.events.toList req.path := by
  intro req hreq
  obtain ⟨evss, hevents, hreps⟩ := compileAll_reported hs ctx hp ws
  obtain ⟨evs, hrep, hqueued, hown⟩ := batch_eventsOf hreps hpaths hreq
  refine ⟨evs, hrep, ?_⟩
  rw [hevents, hws, eventsOf_append, eventsOf_append, hqueued, hown]
  rfl

end BlockGraph.Batch
