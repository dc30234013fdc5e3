import BlockGraph.Batch.Compile
/-!
# What decides a build, and when its errors show

A build fails when its dump does not load, generation stops, or its bag holds an error; while the
findings fit in the bag, that is when some finding reported is an error.
-/

namespace BlockGraph

/-- A finding the bag counts among its errors: of error severity or above. -/
def Diagnostic.IsError (d : Diagnostic) : Prop := Severity.error.level ≤ d.severity.level

theorem Severity.level_eq_of_beq {a b : Severity} (h : (a == b) = true) : a.level = b.level := by
  obtain ⟨a⟩ := a
  obtain ⟨b⟩ := b
  have h' : (a == b) = true := h
  exact beq_iff_eq.1 h'

theorem Diagnostic.isError_of_repeats {d e : Diagnostic} (h : d.repeats e = true) :
    d.IsError ↔ e.IsError := by
  simp only [Diagnostic.repeats, Bool.and_eq_true] at h
  simp only [Diagnostic.IsError, Severity.level_eq_of_beq h.1.1.2]

theorem Diagnostic.error_isError (code : Code) (span : Span) (message : String) :
    (Diagnostic.error code span message).IsError :=
  Nat.le_refl _

namespace Bag

theorem hasErrors_iff {b : Bag} : b.hasErrors = true ↔ ∃ d ∈ b.items, d.IsError := by
  simp [hasErrors, countAtLeast, List.length_filter_pos_iff, Diagnostic.IsError, Severity.error]

theorem push_of_room {b : Bag} (d : Diagnostic) (h : b.items.length < b.limit) :
    (b.push d).items = b.items ++ [d] := by
  simp [push, add, Nat.not_le.2 h]

@[simp] theorem push_limit (b : Bag) (d : Diagnostic) : (b.push d).limit = b.limit := by
  unfold push add
  split <;> rfl

theorem mem_push {b : Bag} {d e : Diagnostic} (h : e ∈ (b.push d).items) : e ∈ b.items ∨ e = d := by
  unfold push add at h
  split at h
  · exact .inl h
  · simpa using h

theorem length_push_le (b : Bag) (d : Diagnostic) : (b.push d).items.length ≤ b.items.length + 1 := by
  unfold push add
  split
  · exact Nat.le_succ _
  · simp

@[simp] theorem sort_limit (b : Bag) : b.sort.limit = b.limit := rfl

@[simp] theorem sort_hasErrors (b : Bag) : b.sort.hasErrors = b.hasErrors := by
  have hperm := ((List.mergeSort_perm b.items (fun d e => !before e d)).filter
    (fun d => decide (d.severity.level ≥ 2))).length_eq
  simp only [hasErrors, countAtLeast, sort, hperm]
  congr 1

@[simp] theorem empty_items (limit : Int) : (Bag.empty limit).items = [] := rfl

theorem empty_room (limit : Int) : (Bag.empty limit).items.length < (Bag.empty limit).limit := by
  simp only [Bag.empty, List.length_nil]
  split <;> omega

end Bag

namespace Reporter

@[simp] theorem report_limit (r : Reporter) (d : Diagnostic) :
    (r.report d).bag.limit = r.bag.limit := by
  unfold report
  split <;> simp

theorem mem_report {r : Reporter} {d e : Diagnostic} (h : e ∈ (r.report d).bag.items) :
    e ∈ r.bag.items ∨ e = d := by
  unfold report at h
  split at h
  · exact .inl h
  · exact Bag.mem_push h

theorem length_report_le (r : Reporter) (d : Diagnostic) :
    (r.report d).bag.items.length ≤ r.bag.items.length + 1 := by
  unfold report
  split
  · exact Nat.le_succ _
  · exact Bag.length_push_le _ _

theorem seen_report {r : Reporter} {d e : Diagnostic} (h : e ∈ r.seen) : e ∈ (r.report d).seen := by
  unfold report
  split
  · exact h
  · exact List.mem_cons_of_mem _ h

/-- With room in the bag, what the reporter has passed on stays in the bag, and a finding is
passed on unless it repeats one passed on before. -/
theorem report_keeps {r : Reporter} (d : Diagnostic) (hroom : r.bag.items.length < r.bag.limit)
    (hkept : ∀ e ∈ r.seen, e ∈ r.bag.items) :
    (∀ e ∈ (r.report d).seen, e ∈ (r.report d).bag.items) ∧
      (d ∈ (r.report d).seen ∨ ∃ e ∈ (r.report d).seen, e.repeats d = true) := by
  unfold report
  split
  · rename_i hrep
    obtain ⟨e, he, hr⟩ := List.any_eq_true.1 hrep
    exact ⟨hkept, .inr ⟨e, he, hr⟩⟩
  · refine ⟨fun e he => ?_, .inl List.mem_cons_self⟩
    rw [Bag.push_of_room d hroom]
    rcases List.mem_cons.1 he with rfl | he
    · exact List.mem_append_right _ (List.mem_singleton_self e)
    · exact List.mem_append_left _ (hkept e he)

@[simp] theorem reportAll_nil (r : Reporter) : r.reportAll [] = r := rfl

theorem reportAll_cons (r : Reporter) (d : Diagnostic) (ds : List Diagnostic) :
    r.reportAll (d :: ds) = (r.report d).reportAll ds := rfl

@[simp] theorem reportAll_limit (r : Reporter) (ds : List Diagnostic) :
    (r.reportAll ds).bag.limit = r.bag.limit := by
  induction ds generalizing r with
  | nil => rfl
  | cons d ds ih => rw [reportAll_cons, ih, report_limit]

theorem length_reportAll_le (r : Reporter) (ds : List Diagnostic) :
    (r.reportAll ds).bag.items.length ≤ r.bag.items.length + ds.length := by
  induction ds generalizing r with
  | nil => exact Nat.le_add_right _ _
  | cons d ds ih =>
    have := length_report_le r d
    have := ih (r.report d)
    rw [reportAll_cons, List.length_cons]
    omega

theorem mem_reportAll {r : Reporter} {ds : List Diagnostic} {e : Diagnostic}
    (h : e ∈ (r.reportAll ds).bag.items) : e ∈ r.bag.items ∨ e ∈ ds := by
  induction ds generalizing r with
  | nil => exact .inl h
  | cons d ds ih =>
    rw [reportAll_cons] at h
    rcases ih h with h | h
    · rcases mem_report h with h | rfl
      · exact .inl h
      · exact .inr List.mem_cons_self
    · exact .inr (List.mem_cons_of_mem _ h)

/-- The reporter's run with room in the bag for every finding reported: what it passed on stays
in the bag and in its memory, and each finding reported was passed on or repeats one that
was. -/
theorem reportAll_run {ds : List Diagnostic} : ∀ {r : Reporter},
    r.bag.items.length + ds.length ≤ r.bag.limit → (∀ e ∈ r.seen, e ∈ r.bag.items) →
      (∀ e ∈ (r.reportAll ds).seen, e ∈ (r.reportAll ds).bag.items) ∧
      (∀ e ∈ r.seen, e ∈ (r.reportAll ds).seen) ∧
      ∀ d ∈ ds, d ∈ (r.reportAll ds).seen ∨ ∃ e ∈ (r.reportAll ds).seen, e.repeats d = true := by
  induction ds with
  | nil => exact fun hkept _ => ⟨‹_›, fun _ he => he, fun _ hd => absurd hd List.not_mem_nil⟩
  | cons d ds ih =>
    intro r hroom hkept
    have hlen := length_report_le r d
    simp only [List.length_cons] at hroom
    have hstep := report_keeps d (by omega) hkept
    obtain ⟨hk, hs, hds⟩ := ih (r := r.report d) (by rw [report_limit]; omega) hstep.1
    rw [reportAll_cons]
    refine ⟨hk, fun e he => hs e (seen_report he), fun d' hd' => ?_⟩
    rcases List.mem_cons.1 hd' with rfl | hd'
    · rcases hstep.2 with hd | ⟨e, he, hr⟩
      · exact .inl (hs _ hd)
      · exact .inr ⟨e, hs e he, hr⟩
    · exact hds d' hd'

/-- With room in the bag for every finding reported, each finding reported is kept, or a
repeat of it is. -/
theorem reportAll_keeps {ds : List Diagnostic} {r : Reporter}
    (hroom : r.bag.items.length + ds.length ≤ r.bag.limit) (hkept : ∀ e ∈ r.seen, e ∈ r.bag.items) :
    ∀ d ∈ ds, ∃ e ∈ (r.reportAll ds).bag.items, e.repeats d = true ∨ e = d := by
  obtain ⟨hk, -, hds⟩ := reportAll_run hroom hkept
  intro d hd
  rcases hds d hd with hd | ⟨e, he, hr⟩
  · exact ⟨d, hk d hd, .inr rfl⟩
  · exact ⟨e, hk e he, .inl hr⟩

end Reporter

namespace Compilation

/-- The findings the analyses and generation of a loaded project report, in order: those of
resolving its names, those of its unused arguments, and those of generation. -/
def reports (p : Project) : List Diagnostic :=
  let p := p.declareAssigned
  let (p, resolved) := p.resolve
  resolved ++ p.unusedArguments ++ (Graph.generate p).reports

/-- The reporter after the findings of a loaded project, over a bag of `limit` findings. -/
def reporter (p : Project) (limit : Int) : Reporter :=
  ({ bag := Bag.empty limit } : Reporter).reportAll (reports p)

variable {p : Project} {fs : FileSet} {limit : Int}

theorem bag_run_of_none (h : (run p fs limit).generation.failure? = none) :
    (run p fs limit).bag = (reporter p limit).bag.sort := by
  change (Graph.generate p.declareAssigned.resolve.1).failure? = none at h
  unfold run reporter reports
  simp only [h]

theorem bag_run_of_internal {n : String} {e : InternalError}
    (h : (run p fs limit).generation.failure? = some (n, .internal e)) :
    (run p fs limit).bag = (reporter p limit).bag.push e.toDiagnostic := by
  change (Graph.generate p.declareAssigned.resolve.1).failure? = _ at h
  unfold run reporter reports
  simp only [h]

theorem bag_run_of_layout {n : String} {y : Nat}
    (h : (run p fs limit).generation.failure? = some (n, .layout y)) :
    (run p fs limit).bag = (reporter p limit).bag := by
  change (Graph.generate p.declareAssigned.resolve.1).failure? = _ at h
  unfold run reporter reports
  simp only [h]

@[simp] theorem bag_run_limit : (run p fs limit).bag.limit = (Bag.empty limit).limit := by
  rcases h : (run p fs limit).generation.failure? with _ | ⟨n, e | y⟩
  · rw [bag_run_of_none h, Bag.sort_limit, reporter, Reporter.reportAll_limit]
  · rw [bag_run_of_internal h, Bag.push_limit, reporter, Reporter.reportAll_limit]
  · rw [bag_run_of_layout h, reporter, Reporter.reportAll_limit]

theorem reporter_hasErrors {p : Project} {limit : Int}
    (h : (reporter p limit).bag.hasErrors = true) : ∃ d ∈ reports p, d.IsError := by
  obtain ⟨d, hd, herr⟩ := Bag.hasErrors_iff.1 h
  rcases Reporter.mem_reportAll hd with hd | hd
  · cases hd
  · exact ⟨d, hd, herr⟩

/-- With room for every finding reported, the reporter's bag holds an error exactly when an
error was reported. -/
theorem reporter_hasErrors_iff (hroom : (reports p).length < (Bag.empty limit).limit) :
    (reporter p limit).bag.hasErrors = true ↔ ∃ d ∈ reports p, d.IsError := by
  refine ⟨reporter_hasErrors, fun ⟨d, hd, herr⟩ => Bag.hasErrors_iff.2 ?_⟩
  obtain ⟨e, he, hrep | rfl⟩ := Reporter.reportAll_keeps (r := { bag := Bag.empty limit })
    (by simp only [Bag.empty_items, List.length_nil, Nat.zero_add]; exact Nat.le_of_lt hroom)
    (fun _ h => absurd h List.not_mem_nil) d hd
  · exact ⟨e, he, (Diagnostic.isError_of_repeats hrep).2 herr⟩
  · exact ⟨e, he, herr⟩

/-- A compilation whose findings fit in its bag holds an error exactly when an error was
reported or generation stopped at an internal error, whose finding then comes last. -/
theorem hasErrors_run_of_room (hroom : (reports p).length < (Bag.empty limit).limit) :
    (run p fs limit).bag.hasErrors = true ↔
      (∃ d ∈ reports p, d.IsError) ∨
        ∃ n e, (run p fs limit).generation.failure? = some (n, .internal e) := by
  have hlen : (reporter p limit).bag.items.length < (reporter p limit).bag.limit := by
    have := Reporter.length_reportAll_le ({ bag := Bag.empty limit } : Reporter) (reports p)
    simp only [Bag.empty_items, List.length_nil, Nat.zero_add] at this
    simp only [reporter, Reporter.reportAll_limit]
    omega
  rcases h : (run p fs limit).generation.failure? with _ | ⟨n, e | y⟩
  · rw [bag_run_of_none h, Bag.sort_hasErrors, reporter_hasErrors_iff hroom]
    simp
  · -- the internal error's finding fits after the findings reported
    rw [bag_run_of_internal h, Bag.hasErrors_iff, Bag.push_of_room _ hlen]
    exact iff_of_true ⟨_, List.mem_append_right _ (List.mem_singleton_self _),
      Diagnostic.error_isError _ _ _⟩ (.inr ⟨n, e, rfl⟩)
  · rw [bag_run_of_layout h, reporter_hasErrors_iff hroom]
    simp

/-- With room for the findings reported, the build of a compilation fails (generation stops or
its bag holds an error) exactly when generation stops or an error was reported. -/
theorem fails_iff_of_room (hroom : (reports p).length < (Bag.empty limit).limit) :
    ((run p fs limit).generation.failure?.isSome ∨ (run p fs limit).bag.hasErrors) ↔
      (run p fs limit).generation.failure?.isSome ∨ ∃ d ∈ reports p, d.IsError := by
  rw [hasErrors_run_of_room hroom]
  constructor
  · rintro (h | h | ⟨n, e, h⟩)
    · exact .inl h
    · exact .inr h
    · exact .inl (by rw [h]; rfl)
  · rintro (h | h)
    · exact .inl h
    · exact .inr (.inl h)

/-- With room for the findings reported, a failed build shows an error in its bag, unless
generation stopped at a script placed out of range. -/
theorem errors_show_of_room (hroom : (reports p).length < (Bag.empty limit).limit)
    (h : (run p fs limit).generation.failure?.isSome ∨ (run p fs limit).bag.hasErrors) :
    (run p fs limit).bag.hasErrors ∨ ∃ n y, (run p fs limit).generation.failure? = some (n, .layout y) := by
  rcases hf : (run p fs limit).generation.failure? with _ | ⟨n, e | y⟩
  · rw [hf] at h
    exact .inl (h.resolve_left Bool.false_ne_true)
  · exact .inl ((hasErrors_run_of_room hroom).2 (.inr ⟨n, e, hf⟩))
  · exact .inr ⟨n, y, rfl⟩

end Compilation

namespace Batch

namespace Build

@[simp] theorem report_outcome (b : Build) (st : Stage) (status : Status) (e : Option String) :
    (b.report st status e).outcome = b.outcome := by
  unfold report
  split <;> rfl

@[simp] theorem report_req (b : Build) (st : Stage) (status : Status) (e : Option String) :
    (b.report st status e).req = b.req := by
  unfold report
  split <;> rfl

theorem enter_outcome (b : Build) (st : Stage) :
    (b.enter st).1.outcome = { b.outcome with timer := (b.outcome.timer.begin st.name 0).2 } := by
  simp [enter]

theorem leave_outcome (b : Build) (st : Stage) (span : Trace.Span) (idx : Nat) (err : Option String) :
    (b.leave st span idx err).outcome =
      { b.outcome with timer := b.outcome.timer.finish idx "" 0, stages := b.outcome.stages ++ [st] } := by
  unfold leave
  split <;> simp

theorem quietStage_outcome (b : Build) (st : Stage) :
    (b.quietStage st).outcome = { b.outcome with
      timer := (b.outcome.timer.begin st.name 0).2.finish (b.enter st).2.2 "" 0,
      stages := b.outcome.stages ++ [st] } := by
  simp [quietStage, leave_outcome, enter_outcome]

@[simp] theorem traceGeneration_outcome (b : Build) (g : Graph.Generation) :
    (b.traceGeneration g).outcome = b.outcome := rfl

@[simp] theorem store_outcome (b : Build) (dump : List UInt8) : (b.store dump).outcome = b.outcome := by
  unfold store
  split
  · rfl
  · dsimp only
    split <;> rfl

/-- Generation records the compilation of the loaded project and its bag, and the build fails
exactly when generation stops or the bag holds an error. -/
theorem generate_spec (b : Build) (dump : List UInt8) (p : Project) (fs : FileSet) :
    (b.generate dump p fs).1.outcome.compiled = some (Compilation.run p fs b.req.maxDiagnostics) ∧
    (b.generate dump p fs).1.outcome.bag = (Compilation.run p fs b.req.maxDiagnostics).bag ∧
    (b.generate dump p fs).1.outcome.cached = b.outcome.cached ∧
    ((b.generate dump p fs).2.isSome ↔
      (Compilation.run p fs b.req.maxDiagnostics).generation.failure?.isSome ∨
        (Compilation.run p fs b.req.maxDiagnostics).bag.hasErrors) := by
  unfold generate
  simp only [Graph.Generation.errorText?]
  split
  · rename_i text htext
    obtain ⟨x, hx, -⟩ := Option.map_eq_some_iff.1 htext
    simp [leave_outcome, enter_outcome, quietStage_outcome, hx]
  · rename_i htext
    have hx := Option.map_eq_none_iff.1 htext
    simp only [hx, Option.isSome_none, Bool.false_eq_true, false_or]
    -- the build ends with error findings, with warnings only, or clean and stored
    split
    · rename_i herr
      simp [leave_outcome, enter_outcome, quietStage_outcome, herr]
    · rename_i herr
      split <;> simp [leave_outcome, enter_outcome, quietStage_outcome, herr]

theorem loadFailed_spec (b : Build) (span : Trace.Span) (idx : Nat) (cause : LoadFailure) :
    (b.loadFailed span idx cause).2.isSome = true ∧
      (∃ d, d.IsError ∧ (b.loadFailed span idx cause).1.outcome.bag = b.outcome.bag.push d) ∧
      (b.loadFailed span idx cause).1.outcome.compiled = b.outcome.compiled ∧
      (b.loadFailed span idx cause).1.outcome.cached = b.outcome.cached := by
  refine ⟨rfl, ⟨.error .loadFile Span.none ("failed to load dump: " ++ cause.message),
    Diagnostic.error_isError _ _ _, ?_⟩, ?_, ?_⟩ <;> simp [loadFailed, leave_outcome]

@[simp] theorem enter_req (b : Build) (st : Stage) : (b.enter st).1.req = b.req := by
  simp [enter]

@[simp] theorem enter_setting (b : Build) (st : Stage) : (b.enter st).1.setting = b.setting := by
  simp [enter, report]
  split <;> rfl

@[simp] theorem enter_tree (b : Build) (st : Stage) : (b.enter st).1.ws.tree = b.ws.tree := by
  simp [enter, report]
  split <;> rfl

@[simp] theorem leave_req (b : Build) (st : Stage) (span : Trace.Span) (idx : Nat) (err : Option String) :
    (b.leave st span idx err).req = b.req := by
  unfold leave
  split <;> simp

/-- What the stages of a build leave: a failed load, with an error finding added to the bag;
a hit of the cache; or the compilation of the project its dump describes. -/
theorem run_cases (b : Build) :
    (b.run.2.isSome = true ∧ (∃ d, d.IsError ∧ b.run.1.outcome.bag = b.outcome.bag.push d) ∧
        b.run.1.outcome.compiled = b.outcome.compiled ∧ b.run.1.outcome.cached = b.outcome.cached) ∨
      (b.run.2 = none ∧ b.run.1.outcome.compiled = b.outcome.compiled ∧ b.run.1.outcome.cached = true) ∨
      ∃ dump p fs, b.ws.tree.readFile b.setting.cwd b.req.path = .ok dump ∧
        load dump b.req.path = .ok (p, fs) ∧
        b.run.1.outcome.compiled = some (Compilation.run p fs b.req.maxDiagnostics) ∧
        b.run.1.outcome.bag = (Compilation.run p fs b.req.maxDiagnostics).bag ∧
        (b.run.2.isSome ↔ (Compilation.run p fs b.req.maxDiagnostics).generation.failure?.isSome ∨
          (Compilation.run p fs b.req.maxDiagnostics).bag.hasErrors) := by
  unfold run
  split
  · exact .inl ⟨rfl, ⟨_, Diagnostic.error_isError _ _ _, rfl⟩, rfl, rfl⟩
  · dsimp only
    -- after the load stage begins, the build still holds what it held
    have hfail := fun cause => loadFailed_spec (b.enter .load).1 (b.enter .load).2.1
      (b.enter .load).2.2 cause
    simp only [enter_outcome] at hfail
    split
    · exact .inl (hfail _)
    · rename_i dump hread
      simp only [enter_req, enter_setting, enter_tree] at hread ⊢
      split
      · refine .inr (.inl ⟨rfl, ?_, ?_⟩) <;> simp [leave_outcome, enter_outcome]
      · split
        · exact .inl (hfail _)
        · rename_i p fs hload
          obtain ⟨hc, hbag, -, herr⟩ := generate_spec ((b.enter .load).1.leave .load
            (b.enter .load).2.1 (b.enter .load).2.2 none) dump p fs
          simp only [leave_req, enter_req] at hc hbag herr
          exact .inr (.inr ⟨dump, p, fs, hread, hload, hc, hbag, herr⟩)

-- The stages of a build keep what it was asked and where it runs.

@[simp] theorem quietStage_req (b : Build) (st : Stage) : (b.quietStage st).req = b.req := by
  simp [quietStage]

@[simp] theorem traceGeneration_req (b : Build) (g : Graph.Generation) :
    (b.traceGeneration g).req = b.req := rfl

@[simp] theorem store_req (b : Build) (dump : List UInt8) : (b.store dump).req = b.req := by
  unfold store
  split
  · rfl
  · dsimp only
    split <;> rfl

@[simp] theorem loadFailed_req (b : Build) (span : Trace.Span) (idx : Nat) (cause : LoadFailure) :
    (b.loadFailed span idx cause).1.req = b.req := by
  simp [loadFailed]

@[simp] theorem generate_req (b : Build) (dump : List UInt8) (p : Project) (fs : FileSet) :
    (b.generate dump p fs).1.req = b.req := by
  unfold generate
  dsimp only
  split
  · simp
  · split
    · simp
    · split <;> simp

@[simp] theorem run_req (b : Build) : b.run.1.req = b.req := by
  unfold run
  split
  · rfl
  · dsimp only
    split
    · simp
    · split
      · simp
      · split <;> simp

end Build

theorem Outcome.withTimings_items (o : Outcome) :
    o.withTimings.bag.items = o.bag.items ++ [o.timingFinding] := by
  unfold Outcome.withTimings Bag.add
  by_cases h : o.bag.items.length ≥ o.bag.limit <;> simp [h, Bag.merge]

@[simp] theorem Outcome.withTimings_compiled (o : Outcome) : o.withTimings.compiled = o.compiled := by
  unfold Outcome.withTimings
  dsimp only
  split <;> rfl

@[simp] theorem Outcome.withTimings_cached (o : Outcome) : o.withTimings.cached = o.cached := by
  unfold Outcome.withTimings
  dsimp only
  split <;> rfl

@[simp] theorem Outcome.withTimings_hasErrors (o : Outcome) :
    o.withTimings.bag.hasErrors = o.bag.hasErrors := by
  have hinfo : ¬ o.timingFinding.IsError := by
    simp [Outcome.timingFinding, Diagnostic.IsError, Severity.info, Severity.error]
  apply Bool.eq_iff_iff.2
  simp only [Bag.hasErrors_iff, Outcome.withTimings_items, List.mem_append, List.mem_singleton]
  constructor
  · rintro ⟨d, hd | rfl, herr⟩
    · exact ⟨d, hd, herr⟩
    · exact absurd herr hinfo
  · rintro ⟨d, hd, herr⟩
    exact ⟨d, .inl hd, herr⟩

@[simp] theorem Build.new_req (s : Setting) (ctx : Trace.Context) (req : Request) (ws : Workspace) :
    (Build.new s ctx req ws).req = req := rfl

theorem compile_eq (s : Setting) (ctx : Trace.Context) (req : Request) (ws : Workspace) :
    compile s ctx req ws = (start s ctx req ws).1.finish (start s ctx req ws).2 (start s ctx req ws).1.ws :=
  rfl

theorem Build.finish_outcome (b : Build) (err : Option BuildError) (ws : Workspace) :
    (b.finish err ws).1 = (if b.req.timings then b.outcome.withTimings else b.outcome) ∧
      (b.finish err ws).2.1 = err := by
  unfold Build.finish
  cases b.toStore <;> simp

/-- A build starts empty-handed: nothing compiled, nothing from the cache, an empty bag; its
outcome is what its stages leave, with the timing report when asked. -/
theorem compile_run {s : Setting} {ctx : Trace.Context} {req : Request} {ws : Workspace}
    {o : Outcome} {err : Option BuildError} {ws' : Workspace} (h : compile s ctx req ws = (o, err, ws')) :
    ∃ b : Build, b.req = req ∧ b.setting = s ∧ b.ws.tree = ws.tree ∧
      b.outcome.bag = Bag.empty req.maxDiagnostics ∧ b.outcome.compiled = none ∧
      b.outcome.cached = false ∧ err = b.run.2 ∧
      (o = b.run.1.outcome ∨ o = b.run.1.outcome.withTimings) := by
  obtain ⟨ho, herr⟩ := (start s ctx req ws).1.finish_outcome (start s ctx req ws).2 (start s ctx req ws).1.ws
  rw [← compile_eq, h] at ho herr
  refine ⟨Build.new s ctx req ws, rfl, rfl, rfl, rfl, rfl, rfl, herr, ?_⟩
  rw [start, Build.run_req, Build.new_req] at ho
  cases ht : req.timings <;> simp only [ht, Bool.false_eq_true, if_false, if_true] at ho
  · exact .inl ho
  · exact .inr ho

/-- A build that did not load its dump fails with an error finding unless the cache served it.
A build that loaded it compiled the project it describes, and fails exactly when generation
stops or the bag holds an error; as long as the findings reported fit in the bag, that is
exactly when generation stops or some finding reported is an error, and a failed build shows
an error in its bag unless generation stopped at a script placed out of range. -/
theorem compile_fails_iff_error_reported {s : Setting} {ctx : Trace.Context} {req : Request}
    {ws : Workspace} {o : Outcome} {err : Option BuildError} {ws' : Workspace}
    (h : compile s ctx req ws = (o, err, ws')) :
    (o.compiled = none → (err.isSome ↔ o.cached = false) ∧ (err.isSome → o.bag.hasErrors)) ∧
    ∀ c ∈ o.compiled, ∃ dump p fs, ws.tree.readFile s.cwd req.path = .ok dump ∧
      load dump req.path = .ok (p, fs) ∧ c = Compilation.run p fs req.maxDiagnostics ∧
      (err.isSome ↔ c.generation.failure?.isSome ∨ c.bag.hasErrors) ∧
      ((Compilation.reports p).length < c.bag.limit →
        (err.isSome ↔ c.generation.failure?.isSome ∨ ∃ d ∈ Compilation.reports p, d.IsError) ∧
        (err.isSome → o.bag.hasErrors ∨ ∃ n y, c.generation.failure? = some (n, .layout y))) := by
  obtain ⟨b, hreq, hset, htree, hbag, hcomp, hcached, rfl, ho⟩ := compile_run h
  -- the timing report changes none of what decides the build
  have hkeep : o.compiled = b.run.1.outcome.compiled ∧ o.cached = b.run.1.outcome.cached ∧
      o.bag.hasErrors = b.run.1.outcome.bag.hasErrors := by
    rcases ho with rfl | rfl <;> simp
  obtain ⟨ho_comp, ho_cached, ho_err⟩ := hkeep
  rcases Build.run_cases b with ⟨herr, ⟨d, hd, hb⟩, hc, hk⟩ | ⟨herr, hc, hk⟩ |
    ⟨dump, p, fs, hread, hload, hc, hb, herr⟩
  case inl =>
    -- the load failed: its finding is the first in an empty bag
    refine ⟨fun _ => ⟨iff_of_true herr (by rw [ho_cached, hk, hcached]), fun _ => ?_⟩,
      fun c hc' => ?_⟩
    · rw [ho_err, Bag.hasErrors_iff, hb, hbag, Bag.push_of_room _ (Bag.empty_room _)]
      exact ⟨d, List.mem_append_right _ (List.mem_singleton_self d), hd⟩
    · rw [ho_comp, hc, hcomp] at hc'
      cases hc'
  case inr.inl =>
    -- the cache served the build
    refine ⟨fun _ => ⟨by simp [herr, ho_cached, hk], by simp [herr]⟩, fun c hc' => ?_⟩
    rw [ho_comp, hc, hcomp] at hc'
    cases hc'
  case inr.inr =>
    refine ⟨fun hnone => (by rw [ho_comp, hc] at hnone; cases hnone), fun c hc' => ?_⟩
    rw [ho_comp, hc, Option.mem_some_iff] at hc'
    subst hc'
    rw [hreq, hset, htree] at *
    refine ⟨dump, p, fs, hread, hload, rfl, herr, fun hroom => ?_⟩
    rw [Compilation.bag_run_limit] at hroom
    refine ⟨herr.trans (Compilation.fails_iff_of_room hroom), fun hsome => ?_⟩
    rw [ho_err, hb]
    exact Compilation.errors_show_of_room hroom (herr.1 hsome)

theorem compile_fails_iff_error_reported_empty_disk : ∃ o err ws',
    compile { cwd := [], origin := default } .empty { path := "game.json" } { tree := default } =
      (o, err, ws') ∧
    (o.compiled = none → (err.isSome ↔ o.cached = false) ∧ (err.isSome → o.bag.hasErrors)) ∧
    ∀ c ∈ o.compiled, ∃ dump p fs, (default : Disk.Tree).readFile [] "game.json" = .ok dump ∧
      load dump "game.json" = .ok (p, fs) ∧ c = Compilation.run p fs 0 ∧
      (err.isSome ↔ c.generation.failure?.isSome ∨ c.bag.hasErrors) ∧
      ((Compilation.reports p).length < c.bag.limit →
        (err.isSome ↔ c.generation.failure?.isSome ∨ ∃ d ∈ Compilation.reports p, d.IsError) ∧
        (err.isSome → o.bag.hasErrors ∨ ∃ n y, c.generation.failure? = some (n, .layout y))) := by
  have h : compile { cwd := [], origin := default } .empty { path := "game.json" } { tree := default } =
      (_, _, _) := Prod.ext rfl (Prod.ext rfl rfl)
  exact ⟨_, _, _, h, compile_fails_iff_error_reported h⟩

end Batch

end BlockGraph
