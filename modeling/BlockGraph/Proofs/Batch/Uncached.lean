import BlockGraph.Proofs.Diagnostic.Severity
import BlockGraph.Proofs.Batch.Entries
import BlockGraph.Proofs.Batch.Store
import BlockGraph.Proofs.Batch.Progress

namespace BlockGraph

/-- The counts of a compilation: targets generated and ids handed out. -/
def Compilation.stats (c : Compilation) : Batch.Stats := { targets := c.targets, nodes := c.nodes.toNat }

namespace Batch

/-- The entry a build of a compilation stores, under the build's output name. -/
def CacheEntry.ofCompilation (name : String) (c : Compilation) : CacheEntry :=
  { name, stats := c.stats, output := c.output?.map Utf8.encode }

namespace Build

/-- The same build, asked without a cache. -/
def withoutCache (b : Build) : Build := { b with req := { b.req with cache := none } }

@[simp] theorem withoutCache_req_cache (b : Build) : b.withoutCache.req.cache = none := rfl
@[simp] theorem withoutCache_outcome (b : Build) : b.withoutCache.outcome = b.outcome := rfl
@[simp] theorem withoutCache_ws (b : Build) : b.withoutCache.ws = b.ws := rfl
@[simp] theorem withoutCache_setting (b : Build) : b.withoutCache.setting = b.setting := rfl

@[simp] theorem withoutCache_req_path (b : Build) : b.withoutCache.req.path = b.req.path := rfl

@[simp] theorem enter_idx (b : Build) (st : Stage) :
    (b.enter st).2.2 = (b.outcome.timer.begin st.name 0).1 := by
  simp [enter]

-- Every stage but storing reads nothing of the cache: each commutes with dropping it.

theorem report_withoutCache (b : Build) (st : Stage) (status : Status) (e : Option String) :
    b.withoutCache.report st status e = (b.report st status e).withoutCache := by
  have hp : b.withoutCache.req.progress = b.req.progress := rfl
  unfold report
  rw [hp]
  split <;> rfl

theorem enter_withoutCache (b : Build) (st : Stage) :
    b.withoutCache.enter st = ((b.enter st).1.withoutCache, (b.enter st).2) := by
  unfold enter
  rw [report_withoutCache]
  rfl

theorem leave_withoutCache (b : Build) (st : Stage) (span : Trace.Span) (idx : Nat)
    (err : Option String) : b.withoutCache.leave st span idx err = (b.leave st span idx err).withoutCache := by
  unfold leave
  split <;> rw [← report_withoutCache] <;> rfl

theorem loadFailed_withoutCache (b : Build) (span : Trace.Span) (idx : Nat) (cause : LoadFailure) :
    b.withoutCache.loadFailed span idx cause =
      ((b.loadFailed span idx cause).1.withoutCache, (b.loadFailed span idx cause).2) := by
  simp only [loadFailed, leave_withoutCache]
  rfl

theorem generate_withoutCache (b : Build) (dump : List UInt8) (p : Project) (fs : FileSet) :
    (b.withoutCache.generate dump p fs).1.outcome = (b.generate dump p fs).1.outcome ∧
      (b.withoutCache.generate dump p fs).2 = (b.generate dump p fs).2 := by
  have hm : b.withoutCache.req.maxDiagnostics = b.req.maxDiagnostics := rfl
  unfold generate
  rw [hm]
  dsimp only
  -- in every branch the outcomes are made alike from the same outcome; only storing differs
  split
  · exact ⟨by simp [leave_outcome, enter_outcome, quietStage_outcome],
      by simp [enter_outcome, quietStage_outcome]⟩
  · split
    · exact ⟨by simp [leave_outcome, enter_outcome, quietStage_outcome],
        by simp [leave_outcome, enter_outcome, quietStage_outcome]⟩
    · split <;> exact ⟨by simp [leave_outcome, enter_outcome, quietStage_outcome], rfl⟩

/-- A build that finds nothing in the cache ends as it would without one, but for what storing
changes in the workspace. -/
theorem run_withoutCache_of_miss (b : Build)
    (hmiss : b.setting.cancelled = false → ∀ dump, b.ws.tree.readFile b.setting.cwd b.req.path = .ok dump →
      b.req.cache.bind (fun c => c.get? b.ws.tree b.setting.cwd (cacheKey dump)) = none) :
    b.withoutCache.run.1.outcome = b.run.1.outcome ∧ b.withoutCache.run.2 = b.run.2 := by
  unfold run
  rw [withoutCache_setting]
  by_cases hc : b.setting.cancelled = true
  · rw [if_pos hc, if_pos hc]
    exact ⟨rfl, rfl⟩
  rw [if_neg hc, if_neg hc, enter_withoutCache]
  -- the load stage begins alike, and reads the same file
  rcases he : b.enter .load with ⟨b₁, span, idx⟩
  have htree : b₁.ws.tree = b.ws.tree := by rw [← enter_tree b .load, he]
  have hset : b₁.setting = b.setting := by rw [← enter_setting b .load, he]
  have hreq : b₁.req = b.req := by rw [← enter_req b .load, he]
  dsimp only
  simp only [withoutCache_ws, withoutCache_setting, withoutCache_req_path, withoutCache_req_cache,
    Option.bind_none]
  rcases hr : b₁.ws.tree.readFile b₁.setting.cwd b₁.req.path with text | dump
  · dsimp only
    rw [loadFailed_withoutCache]
    exact ⟨rfl, rfl⟩
  · have hm := hmiss (Bool.eq_false_iff.2 hc) dump (by rw [← htree, ← hset, ← hreq, hr])
    rw [← htree, ← hset, ← hreq] at hm
    dsimp only
    rw [hm]
    dsimp only
    rcases hl : load dump b₁.req.path with e | ⟨p, fs⟩
    · dsimp only
      rw [loadFailed_withoutCache]
      exact ⟨rfl, rfl⟩
    · dsimp only
      rw [leave_withoutCache]
      exact generate_withoutCache _ _ _ _

theorem run_cached_of_cache_none (b : Build) (hcache : b.req.cache = none) :
    b.run.1.outcome.cached = b.outcome.cached := by
  unfold run
  split
  · rfl
  rcases he : b.enter .load with ⟨b₁, span, idx⟩
  have hreq : b₁.req = b.req := by rw [← enter_req b .load, he]
  have hcached : b₁.outcome.cached = b.outcome.cached := by
    rw [← show (b.enter .load).1 = b₁ by rw [he], enter_outcome]
  dsimp only
  rw [hreq, hcache]
  simp only [Option.bind_none]
  split
  · rw [(loadFailed_spec _ _ _ _).2.2.2, hcached]
  · split
    · rw [(loadFailed_spec _ _ _ _).2.2.2, hcached]
    · rw [(generate_spec _ _ _ _).2.2.1, leave_outcome, hcached]

-- Only storing changes the tree.

@[simp] theorem report_tree (b : Build) (st : Stage) (status : Status) (e : Option String) :
    (b.report st status e).ws.tree = b.ws.tree := by
  unfold report
  split <;> rfl

@[simp] theorem report_setting (b : Build) (st : Stage) (status : Status) (e : Option String) :
    (b.report st status e).setting = b.setting := by
  unfold report
  split <;> rfl

@[simp] theorem leave_tree (b : Build) (st : Stage) (span : Trace.Span) (idx : Nat) (err : Option String) :
    (b.leave st span idx err).ws.tree = b.ws.tree := by
  unfold leave
  split <;> simp

@[simp] theorem leave_setting (b : Build) (st : Stage) (span : Trace.Span) (idx : Nat)
    (err : Option String) : (b.leave st span idx err).setting = b.setting := by
  unfold leave
  split <;> simp

@[simp] theorem quietStage_tree (b : Build) (st : Stage) : (b.quietStage st).ws.tree = b.ws.tree := by
  simp [quietStage]

@[simp] theorem quietStage_setting (b : Build) (st : Stage) : (b.quietStage st).setting = b.setting := by
  simp [quietStage]

@[simp] theorem traceGeneration_tree (b : Build) (g : Graph.Generation) :
    (b.traceGeneration g).ws.tree = b.ws.tree := rfl

@[simp] theorem traceGeneration_setting (b : Build) (g : Graph.Generation) :
    (b.traceGeneration g).setting = b.setting := rfl

@[simp] theorem loadFailed_tree (b : Build) (span : Trace.Span) (idx : Nat) (cause : LoadFailure) :
    (b.loadFailed span idx cause).1.ws.tree = b.ws.tree := by
  simp [loadFailed]

theorem store_tree (b : Build) (dump : List UInt8) :
    (b.store dump).ws.tree = b.ws.tree ∨ ∃ c, b.req.cache = some c ∧
      c.put b.ws.tree b.setting.cwd (cacheKey dump)
        { name := b.outcome.name, stats := b.outcome.stats, output := b.outcome.output } =
        .ok (b.store dump).ws.tree := by
  unfold store
  split
  · exact .inl rfl
  · rename_i c hc
    dsimp only
    split
    · rename_i tree hput
      exact .inr ⟨c, hc, hput⟩
    · exact .inl rfl

-- Only generation leaves a dump to store.

@[simp] theorem report_toStore (b : Build) (st : Stage) (status : Status) (e : Option String) :
    (b.report st status e).toStore = b.toStore := by
  unfold report
  split <;> rfl

@[simp] theorem enter_toStore (b : Build) (st : Stage) : (b.enter st).1.toStore = b.toStore := by
  simp [enter]

@[simp] theorem leave_toStore (b : Build) (st : Stage) (span : Trace.Span) (idx : Nat)
    (err : Option String) : (b.leave st span idx err).toStore = b.toStore := by
  unfold leave
  split <;> simp

@[simp] theorem quietStage_toStore (b : Build) (st : Stage) : (b.quietStage st).toStore = b.toStore := by
  simp [quietStage]

@[simp] theorem traceGeneration_toStore (b : Build) (g : Graph.Generation) :
    (b.traceGeneration g).toStore = b.toStore := rfl

@[simp] theorem loadFailed_toStore (b : Build) (span : Trace.Span) (idx : Nat) (cause : LoadFailure) :
    (b.loadFailed span idx cause).1.toStore = b.toStore := by
  simp [loadFailed]

@[simp] theorem generate_tree (b : Build) (dump : List UInt8) (p : Project) (fs : FileSet) :
    (b.generate dump p fs).1.ws.tree = b.ws.tree := by
  unfold generate
  dsimp only
  split
  · simp
  · split
    · simp
    · split <;> simp

@[simp] theorem generate_setting (b : Build) (dump : List UInt8) (p : Project) (fs : FileSet) :
    (b.generate dump p fs).1.setting = b.setting := by
  unfold generate
  dsimp only
  split
  · simp
  · split
    · simp
    · split <;> simp

/-- Generation leaves the dump to store only of a build that completed without any finding,
with the entry of its compilation. -/
theorem generate_toStore (b : Build) (dump : List UInt8) (p : Project) (fs : FileSet) :
    (b.generate dump p fs).1.toStore = b.toStore ∨
      ((Compilation.run p fs b.req.maxDiagnostics).generation.failure? = none ∧
        (Compilation.run p fs b.req.maxDiagnostics).bag.hasWarnings = false ∧
        (b.generate dump p fs).1.toStore = some dump ∧
        ({ name := (b.generate dump p fs).1.outcome.name, stats := (b.generate dump p fs).1.outcome.stats,
            output := (b.generate dump p fs).1.outcome.output } : CacheEntry) =
          CacheEntry.ofCompilation b.outcome.name (Compilation.run p fs b.req.maxDiagnostics)) := by
  unfold generate
  simp only [Graph.Generation.errorText?]
  split
  · exact .inl (by simp)
  · rename_i hnone
    have hf := Option.map_eq_none_iff.1 hnone
    split
    · exact .inl (by simp)
    · split
      · exact .inl (by simp)
      · rename_i hwarn
        refine .inr ⟨hf, Bool.of_not_eq_true hwarn, rfl, ?_⟩
        simp [leave_outcome, enter_outcome, quietStage_outcome, CacheEntry.ofCompilation,
          Compilation.stats]

/-- A build of a compilation that completes without any finding succeeds with the compilation's
graph and counts, and an empty bag. -/
theorem generate_of_quiet (b : Build) (dump : List UInt8) {p : Project} {fs : FileSet}
    (hf : (Compilation.run p fs b.req.maxDiagnostics).generation.failure? = none)
    (hq : Compilation.reports p = []) :
    (b.generate dump p fs).2 = none ∧
      (b.generate dump p fs).1.outcome.output =
        (Compilation.run p fs b.req.maxDiagnostics).output?.map Utf8.encode ∧
      (b.generate dump p fs).1.outcome.stats = (Compilation.run p fs b.req.maxDiagnostics).stats ∧
      (b.generate dump p fs).1.outcome.bag = Bag.empty b.req.maxDiagnostics := by
  have hbag := Compilation.bag_run_of_quiet hf hq
  have hwarn : (Compilation.run p fs b.req.maxDiagnostics).bag.hasWarnings = false := by
    rw [hbag]
    rfl
  have herr : (Compilation.run p fs b.req.maxDiagnostics).bag.hasErrors = false := by
    rw [hbag]
    rfl
  unfold generate
  simp only [Graph.Generation.errorText?, hf, Option.map_none, herr, hwarn, Bool.false_eq_true,
    if_false]
  refine ⟨trivial, ?_, ?_, ?_⟩ <;> simp [leave_outcome, hbag, Compilation.stats]

/-- A build the cache serves succeeds at once, with the entry's graph and counts, and the bag it
started with; it leaves the tree as it was. -/
theorem run_of_hit (b : Build) (hc : b.setting.cancelled = false) {dump : List UInt8}
    (hread : b.ws.tree.readFile b.setting.cwd b.req.path = .ok dump) {e : CacheEntry}
    (hhit : b.req.cache.bind (fun c => c.get? b.ws.tree b.setting.cwd (cacheKey dump)) = some e) :
    b.run.2 = none ∧ b.run.1.outcome.output = e.output ∧ b.run.1.outcome.stats = e.stats ∧
      b.run.1.outcome.bag = b.outcome.bag ∧ b.run.1.outcome.cached = true ∧
      b.run.1.ws.tree = b.ws.tree := by
  unfold run
  rw [if_neg (by simp [hc])]
  dsimp only
  rw [enter_tree, enter_setting, enter_req, hread]
  dsimp only
  rw [hhit]
  refine ⟨rfl, ?_, ?_, ?_, ?_, ?_⟩ <;> simp [leave_outcome, enter_outcome]

theorem run_of_load (b : Build) (hc : b.setting.cancelled = false) (hcache : b.req.cache = none)
    {dump : List UInt8} (hread : b.ws.tree.readFile b.setting.cwd b.req.path = .ok dump)
    {p : Project} {fs : FileSet} (hload : load dump b.req.path = .ok (p, fs)) :
    b.run = ((b.enter .load).1.leave .load (b.enter .load).2.1 (b.enter .load).2.2 none).generate
      dump p fs := by
  unfold run
  rw [if_neg (by simp [hc])]
  dsimp only
  rw [enter_tree, enter_setting, enter_req, hread]
  dsimp only
  rw [hcache, Option.bind_none]
  dsimp only
  rw [hload]

@[simp] theorem run_tree (b : Build) : b.run.1.ws.tree = b.ws.tree := by
  unfold run
  split
  · rfl
  · dsimp only
    split
    · simp
    · split
      · simp
      · split <;> simp

@[simp] theorem run_setting (b : Build) : b.run.1.setting = b.setting := by
  unfold run
  split
  · rfl
  · dsimp only
    split
    · simp [loadFailed]
    · split
      · simp
      · split <;> simp [loadFailed]

/-- The stages of a build leave a dump to store only when they loaded it and completed without
any finding: the dump they read, with the entry of its compilation. -/
theorem run_toStore (b : Build) :
    b.run.1.toStore = b.toStore ∨ ∃ dump p fs, b.ws.tree.readFile b.setting.cwd b.req.path = .ok dump ∧
      load dump b.req.path = .ok (p, fs) ∧
      (Compilation.run p fs b.req.maxDiagnostics).generation.failure? = none ∧
      (Compilation.run p fs b.req.maxDiagnostics).bag.hasWarnings = false ∧
      b.run.1.toStore = some dump ∧
      ({ name := b.run.1.outcome.name, stats := b.run.1.outcome.stats, output := b.run.1.outcome.output } :
        CacheEntry) = CacheEntry.ofCompilation b.outcome.name (Compilation.run p fs b.req.maxDiagnostics) := by
  unfold run
  split
  · exact .inl rfl
  dsimp only
  rw [enter_tree, enter_setting, enter_req]
  split
  · exact .inl (by simp)
  · rename_i dump hread
    split
    · exact .inl (by simp)
    · split
      · exact .inl (by simp)
      · rename_i p fs hload
        rcases generate_toStore ((b.enter .load).1.leave .load (b.enter .load).2.1 (b.enter .load).2.2 none)
          dump p fs with h | ⟨hf, hw, hstore, hentry⟩
        · exact .inl (by rw [h]; simp)
        · refine .inr ⟨dump, p, fs, hread, hload, by simpa using hf, by simpa using hw, hstore, ?_⟩
          rw [hentry]
          simp [leave_outcome, enter_outcome]

/-- Ending a build, in the workspace as it is then, changes the tree only to store the entry the
build left to store. -/
theorem finish_tree (b : Build) (err : Option BuildError) (ws : Workspace) :
    (b.finish err ws).2.2.tree = ws.tree ∨ ∃ dump c, b.toStore = some dump ∧ b.req.cache = some c ∧
      c.put ws.tree b.setting.cwd (cacheKey dump)
        { name := b.outcome.name, stats := b.outcome.stats, output := b.outcome.output } =
        .ok (b.finish err ws).2.2.tree := by
  unfold finish
  rcases h : b.toStore with _ | dump
  · exact .inl rfl
  · rcases store_tree { b with ws, toStore := some dump } dump with h' | ⟨c, hc, hput⟩
    · exact .inl (by simpa using h')
    · exact .inr ⟨dump, c, rfl, hc, by simpa using hput⟩

end Build

end Batch

end BlockGraph
