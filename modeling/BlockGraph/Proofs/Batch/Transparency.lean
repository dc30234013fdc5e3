import BlockGraph.Proofs.Batch.Uncached
/-!
# The output cache is transparent

A build served from the cache ends as the same build without one, as long as every entry was
stored by a clean build of the same bytes in the same format (`Faithful`), which builds keep.
-/

namespace BlockGraph

theorem loadFiles_ids (o o' : String) (es : List Dump.FileEntry) :
    (loadFiles o es).2 = (loadFiles o' es).2 := by
  unfold loadFiles
  dsimp only
  split <;> rfl

theorem Project.build_map_fst (doc : Dump.Document) (o o' : String) :
    (Project.build doc o).map Prod.fst = (Project.build doc o').map Prod.fst := by
  unfold Project.build
  dsimp only
  rw [loadFiles_ids o o' doc.files]
  generalize (loadFiles o doc.files).1 = fs
  generalize (loadFiles o' doc.files).1 = fs'
  simp only [bind, Except.bind]
  split
  · rfl
  · split
    · rfl
    · rfl

/-- The project the bytes of a dump describe in a format, if they describe one. -/
def Dump.projectOf? (F : Dump.Format) (bs : List UInt8) : Option Project :=
  (Dump.Document.ofBytes? F bs).bind fun doc => ((Project.build doc "").map Prod.fst).toOption

section Load

variable {bs : List UInt8} {path : String} {F : Dump.Format}

theorem load_map_fst (hF : Dump.Format.ofPath? path = some F) :
    ((load bs path).map Prod.fst).toOption = Dump.projectOf? F bs := by
  unfold load decodeDump Dump.projectOf?
  simp only [hF, bind, Except.bind, pure, Except.pure]
  cases Dump.Document.ofBytes? F bs with
  | none => rfl
  | some doc =>
    rw [Option.bind_some, ← Project.build_map_fst doc path ""]
    dsimp only
    rcases Project.build doc path with e | ⟨p, fs⟩ <;> rfl

theorem projectOf?_of_load (hF : Dump.Format.ofPath? path = some F) {p : Project} {fs : FileSet}
    (h : load bs path = .ok (p, fs)) : Dump.projectOf? F bs = some p := by
  rw [← load_map_fst hF, h]
  rfl

theorem load_of_projectOf? (hF : Dump.Format.ofPath? path = some F) {p : Project}
    (h : Dump.projectOf? F bs = some p) : ∃ fs, load bs path = .ok (p, fs) := by
  rw [← load_map_fst hF] at h
  rcases hl : load bs path with e | ⟨p', fs⟩
  · rw [hl] at h
    cases h
  · rw [hl] at h
    cases h
    exact ⟨fs, rfl⟩

end Load

namespace Batch

open Disk Path

/-- An entry faithful to the bytes of a dump read in format `F`: they describe a project whose
compilation completes without any finding, and the entry holds that compilation's counts and
graph. The files and the limit of the bag change neither. -/
def CacheEntry.Faithful (F : Dump.Format) (dump : List UInt8) (e : CacheEntry) : Prop :=
  ∃ p, Dump.projectOf? F dump = some p ∧ (Compilation.run p {} 0).generation.failure? = none ∧
    Compilation.reports p = [] ∧ e.stats = (Compilation.run p {} 0).stats ∧
    e.output = (Compilation.run p {} 0).output?.map Utf8.encode

/-- The cache files of a tree `t` are faithful to the dumps of the tree `t₀` it grew from. -/
structure Faithful (F : Dump.Format) (t₀ t : Tree) : Prop where
  entries : ∀ f ∈ t.files, ∀ g ∈ t₀.files, f.1.getLast? = some (cacheKey g.2 ++ ".mp") →
    ∀ e, CacheEntry.decode? f.2 = some e → e.Faithful F g.2
  dumps : ∀ f ∈ t.files, (∀ d, f.1.getLast? ≠ some (cacheKey d ++ ".mp")) → f ∈ t₀.files

def KeysDistinct (t : Tree) : Prop :=
  ∀ f ∈ t.files, ∀ g ∈ t.files, cacheKey f.2 = cacheKey g.2 → f.2 = g.2

def Request.outputName (r : Request) : String := if r.name = "" then Dump.outputName r.path else r.name

/-- A request of a batch over the tree `t₀` whose dumps are all in format `F`: its path names `F`
and ends in a plain name that no entry has, and every entry it could store for a file of `t₀`
fits the widths of its encoding. -/
structure Request.Plain (F : Dump.Format) (t₀ : Tree) (r : Request) : Prop where
  format : Dump.Format.ofPath? r.path = some F
  last : ∃ n, (elements r.path).getLast? = some n ∧ PlainName n ∧ ∀ d, n ≠ cacheKey d ++ ".mp"
  fits : ∀ g ∈ t₀.files, ∀ p, Dump.projectOf? F g.2 = some p →
    (CacheEntry.ofCompilation r.outputName (Compilation.run p {} 0)).Fits

def Outcome.findings (o : Outcome) : List Diagnostic := o.bag.items.filter (·.code != .timings)

/-- What a build with the cache shares with the same build without: its graph, its counts, its
error and its findings; and it is served from the cache only when the build without succeeds
with no finding. -/
structure Agrees (x y : Outcome × Option BuildError × Workspace) : Prop where
  output : x.1.output = y.1.output
  stats : x.1.stats = y.1.stats
  error : x.2.1 = y.2.1
  findings : x.1.findings = y.1.findings
  cached : x.1.cached = true → y.2.1 = none ∧ y.1.findings = []

theorem CacheEntry.ofCompilation_run (name : String) (p : Project) (fs : FileSet) (limit : Int) :
    CacheEntry.ofCompilation name (Compilation.run p fs limit) =
      CacheEntry.ofCompilation name (Compilation.run p {} 0) := rfl

theorem CacheEntry.faithful_ofCompilation {F : Dump.Format} {dump : List UInt8} {p : Project}
    {fs : FileSet} {limit : Int} {name : String} (hp : Dump.projectOf? F dump = some p)
    (hf : (Compilation.run p fs limit).generation.failure? = none) (hq : Compilation.reports p = [])
    (hfit : (CacheEntry.ofCompilation name (Compilation.run p {} 0)).Fits) :
    ∀ e, CacheEntry.decode? (CacheEntry.ofCompilation name (Compilation.run p fs limit)).encode = some e →
      e.Faithful F dump := by
  intro e he
  obtain ⟨e', he', hstats, hout⟩ := CacheEntry.decode?_encode hfit
  rw [CacheEntry.ofCompilation_run, he'] at he
  cases he
  exact ⟨p, hp, hf, hq, hstats, hout⟩

namespace Faithful

variable {F : Dump.Format} {t₀ t : Tree}

theorem read_mem (hF : Faithful F t₀ t) {cwd : Location} {path n : String}
    (hlast : (elements path).getLast? = some n) (hn : PlainName n) (hkey : ∀ d, n ≠ cacheKey d ++ ".mp")
    {dump : List UInt8} (h : t.readFile cwd path = .ok dump) : ∃ l, (l, dump) ∈ t₀.files := by
  obtain ⟨dir, hmem⟩ := Tree.readFile_mem hn hlast h
  refine ⟨dir ++ [n], hF.dumps _ hmem fun d hd => hkey d ?_⟩
  simpa using hd

theorem get? (hF : Faithful F t₀ t) {l : Location} {dump : List UInt8} (hdump : (l, dump) ∈ t₀.files)
    {c : Cache} {cwd : Location} {e : CacheEntry} (h : c.get? t cwd (cacheKey dump) = some e) :
    e.Faithful F dump := by
  obtain ⟨dir, bs, hmem, hdec⟩ := Cache.get?_mem (cacheKey_entry_plain dump) h
  exact hF.entries _ hmem _ hdump (by simp) e hdec

theorem put (hF : Faithful F t₀ t) (hdist : KeysDistinct t₀) {l : Location} {dump : List UInt8}
    (hdump : (l, dump) ∈ t₀.files) {c : Cache} {cwd : Location} {entry : CacheEntry} {t' : Tree}
    (hput : c.put t cwd (cacheKey dump) entry = .ok t')
    (hentry : ∀ e, CacheEntry.decode? entry.encode = some e → e.Faithful F dump) :
    Faithful F t₀ t' := by
  constructor
  · intro f hf g hg hname e he
    rcases Cache.mem_put (cacheKey_entry_plain dump) hput hf with ⟨hlast, hbytes⟩ | hold
    · -- the new file is named after the key of `dump`, so `g` holds the same bytes
      have hkey : cacheKey g.2 = cacheKey dump := by
        rw [hlast] at hname
        simpa using hname.symm
      rw [hdist g hg (l, dump) hdump hkey]
      rw [hbytes] at he
      exact hentry e he
    · exact hF.entries f hold g hg hname e he
  · intro f hf hnone
    rcases Cache.mem_put (cacheKey_entry_plain dump) hput hf with ⟨hlast, -⟩ | hold
    · exact absurd hlast (hnone dump)
    · exact hF.dumps f hold hnone

end Faithful

namespace Build

variable {F : Dump.Format} {t₀ : Tree}

/-- A build begun over a faithful cache keeps the cache faithful when it ends, whatever other
builds stored in between: it stores only the entry of a quiet build, under the key of the bytes
it read when it began. -/
theorem finish_faithful (b : Build) (hF₀ : Faithful F t₀ b.ws.tree) (hdist : KeysDistinct t₀)
    (hreq : b.req.Plain F t₀) (hname : b.outcome.name = b.req.outputName) (hnone : b.toStore = none)
    (err : Option BuildError) {ws : Workspace} (hF : Faithful F t₀ ws.tree) :
    Faithful F t₀ (b.run.1.finish err ws).2.2.tree := by
  rcases b.run.1.finish_tree err ws with h | ⟨dump, c, hstore, hc, hput⟩
  · rw [h]
    exact hF
  rcases b.run_toStore with h | ⟨dump', p, fs, hread, hload, hf, hw, hstore', hentry⟩
  · rw [h, hnone] at hstore
    cases hstore
  -- the dump stored is the one read when the build began
  rw [hstore'] at hstore
  cases hstore
  obtain ⟨n, hlast, hn, hkey⟩ := hreq.last
  obtain ⟨l, hdump⟩ := hF₀.read_mem hlast hn hkey hread
  have hp := projectOf?_of_load hreq.format hload
  rw [hentry, run_setting] at hput
  refine hF.put hdist hdump hput (CacheEntry.faithful_ofCompilation hp hf
    ((Compilation.quiet_iff hf).1 hw) ?_)
  rw [hname]
  exact hreq.fits _ hdump p hp

/-- A build with a faithful cache ends with the graph, the counts, the error and the bag of the
same build without a cache; when the cache serves it, the build without succeeds with the bag
it started with. -/
theorem run_agrees (b : Build) (hF : Faithful F t₀ b.ws.tree) (hreq : b.req.Plain F t₀)
    (hbag₀ : b.outcome.bag = Bag.empty b.req.maxDiagnostics) (hcached : b.outcome.cached = false) :
    b.run.1.outcome.output = b.withoutCache.run.1.outcome.output ∧
      b.run.1.outcome.stats = b.withoutCache.run.1.outcome.stats ∧
      b.run.2 = b.withoutCache.run.2 ∧
      b.run.1.outcome.bag = b.withoutCache.run.1.outcome.bag ∧
      (b.run.1.outcome.cached = true →
        b.withoutCache.run.2 = none ∧ b.withoutCache.run.1.outcome.bag = b.outcome.bag) := by
  by_cases hhit : ∃ dump e, b.setting.cancelled = false ∧
      b.ws.tree.readFile b.setting.cwd b.req.path = .ok dump ∧
      b.req.cache.bind (fun c => c.get? b.ws.tree b.setting.cwd (cacheKey dump)) = some e
  · obtain ⟨dump, e, hc, hread, hget⟩ := hhit
    obtain ⟨herr, hout, hstats, hbag, -, -⟩ := b.run_of_hit hc hread hget
    -- the entry was stored by a quiet build of the same bytes
    obtain ⟨n, hlast, hn, hkey⟩ := hreq.last
    obtain ⟨l, hdump⟩ := hF.read_mem hlast hn hkey hread
    obtain ⟨c, -, hcget⟩ := Option.bind_eq_some_iff.1 hget
    obtain ⟨p, hp, hf, hq, hes, heo⟩ := hF.get? hdump hcget
    obtain ⟨fs, hload⟩ := load_of_projectOf? hreq.format hp
    -- without the cache the same project is compiled, quietly
    rw [b.withoutCache.run_of_load hc rfl hread hload]
    obtain ⟨herr', hout', hstats', hbag'⟩ := generate_of_quiet
      ((b.withoutCache.enter .load).1.leave .load (b.withoutCache.enter .load).2.1
        (b.withoutCache.enter .load).2.2 none) dump hf hq
    refine ⟨?_, ?_, ?_, ?_, fun _ => ⟨herr', ?_⟩⟩
    · rw [hout, hout', heo]
      rfl
    · rw [hstats, hstats', hes]
      rfl
    · rw [herr, herr']
    · rw [hbag, hbag', hbag₀, leave_req, enter_req]
      rfl
    · rw [hbag', hbag₀, leave_req, enter_req]
      rfl
  · -- nothing is served from the cache
    have hmiss : b.setting.cancelled = false → ∀ dump,
        b.ws.tree.readFile b.setting.cwd b.req.path = .ok dump →
        b.req.cache.bind (fun c => c.get? b.ws.tree b.setting.cwd (cacheKey dump)) = none := by
      intro hc dump hread
      rcases h : b.req.cache.bind (fun c => c.get? b.ws.tree b.setting.cwd (cacheKey dump)) with _ | e
      · rfl
      · exact absurd ⟨dump, e, hc, hread, h⟩ hhit
    obtain ⟨ho, herr⟩ := b.run_withoutCache_of_miss hmiss
    have hnever := b.withoutCache.run_cached_of_cache_none rfl
    refine ⟨by rw [ho], by rw [ho], herr.symm, by rw [ho], fun h => ?_⟩
    rw [← ho, hnever, withoutCache_outcome, hcached] at h
    cases h

end Build

theorem compile_start (s : Setting) (ctx : Trace.Context) (req : Request) (ws : Workspace) :
    ∃ b : Build, b.req = req ∧ b.setting = s ∧ b.ws.tree = ws.tree ∧
      b.outcome.name = req.outputName ∧ b.outcome.bag = Bag.empty req.maxDiagnostics ∧
      b.outcome.cached = false ∧ b.toStore = none ∧ start s ctx req ws = b.run ∧
      (compile s ctx req ws).1 = (if req.timings then b.run.1.outcome.withTimings else b.run.1.outcome) ∧
      (compile s ctx req ws).2.1 = b.run.2 ∧
      (compile s ctx { req with cache := none } ws).1 =
        (if req.timings then b.withoutCache.run.1.outcome.withTimings else b.withoutCache.run.1.outcome) ∧
      (compile s ctx { req with cache := none } ws).2.1 = b.withoutCache.run.2 := by
  obtain ⟨ho, herr⟩ := (start s ctx req ws).1.finish_outcome (start s ctx req ws).2 (start s ctx req ws).1.ws
  obtain ⟨ho', herr'⟩ := (start s ctx { req with cache := none } ws).1.finish_outcome
    (start s ctx { req with cache := none } ws).2 (start s ctx { req with cache := none } ws).1.ws
  rw [← compile_eq, start] at ho herr ho' herr'
  rw [Build.run_req, Build.new_req] at ho ho'
  exact ⟨Build.new s ctx req ws, rfl, rfl, rfl, rfl, rfl, rfl, rfl, rfl, ho, herr, ho', herr'⟩

@[simp] theorem Outcome.withTimings_output (o : Outcome) : o.withTimings.output = o.output := by
  unfold Outcome.withTimings
  dsimp only
  split <;> rfl

@[simp] theorem Outcome.withTimings_stats (o : Outcome) : o.withTimings.stats = o.stats := by
  unfold Outcome.withTimings
  dsimp only
  split <;> rfl

@[simp] theorem Outcome.withTimings_findings (o : Outcome) : o.withTimings.findings = o.findings := by
  have htimings : (Code.timings != Code.timings) = false := rfl
  simp [Outcome.findings, Outcome.withTimings_items, Outcome.timingFinding, htimings]

theorem Outcome.findings_of_bag {o : Outcome} {limit : Int} (h : o.bag = Bag.empty limit) :
    o.findings = [] := by
  simp [Outcome.findings, h]

section Step

variable {F : Dump.Format} {t₀ : Tree} {s : Setting} {ctx : Trace.Context} {req : Request}
  {ws : Workspace}

theorem compile_faithful (hF : Faithful F t₀ ws.tree) (hdist : KeysDistinct t₀)
    (hreq : req.Plain F t₀) : Faithful F t₀ (compile s ctx req ws).2.2.tree := by
  obtain ⟨b, rfl, -, htree, hname, -, -, hnone, hstart, -⟩ := compile_start s ctx req ws
  rw [compile_eq, hstart]
  exact b.finish_faithful (htree ▸ hF) hdist hreq hname hnone _ (by rw [Build.run_tree, htree]; exact hF)

theorem compile_agrees (hF : Faithful F t₀ ws.tree) (hreq : req.Plain F t₀) :
    Agrees (compile s ctx req ws) (compile s ctx { req with cache := none } ws) := by
  obtain ⟨b, rfl, -, htree, -, hbag, hcached, -, -, ho, herr, ho', herr'⟩ := compile_start s ctx req ws
  obtain ⟨hout, hstats, hrun, hbags, hhit⟩ := b.run_agrees (htree ▸ hF) hreq hbag hcached
  -- the phase report, asked or not, changes none of what is compared
  constructor
  · rw [ho, ho']
    cases b.req.timings <;> simpa using hout
  · rw [ho, ho']
    cases b.req.timings <;> simpa using hstats
  · rw [herr, herr']
    exact hrun
  · rw [ho, ho']
    cases b.req.timings <;> simp only [Bool.false_eq_true, if_false, if_true, Outcome.withTimings_findings] <;>
      simp only [Outcome.findings, hbags]
  · intro h
    have h' : b.run.1.outcome.cached = true := by
      rw [ho] at h
      cases htm : b.req.timings <;> simp_all
    obtain ⟨hnone, hempty⟩ := hhit h'
    rw [hbag] at hempty
    refine ⟨herr'.trans hnone, ?_⟩
    rw [ho']
    cases b.req.timings <;> simpa using Outcome.findings_of_bag hempty

end Step

theorem compileNext_outcomes (s : Setting) (ctx : Trace.Context)
    (acc : Array Outcome × Array BuildError × Workspace) (req : Request) :
    (compileNext s ctx acc req).1.toList = acc.1.toList ++ [(compile s ctx req acc.2.2).1] := by
  simp [compileNext]

theorem compileNext_errors (s : Setting) (ctx : Trace.Context)
    (acc : Array Outcome × Array BuildError × Workspace) (req : Request) :
    (compileNext s ctx acc req).2.1.toList = acc.2.1.toList ++ (compile s ctx req acc.2.2).2.1.toList := by
  simp [compileNext]

@[simp] theorem reportQueued_tree (ws : Workspace) (req : Request) : (reportQueued ws req).tree = ws.tree := by
  unfold reportQueued
  split <;> rfl

theorem ne_entry_name {n : String} (h : n.toList.getLast? ≠ some 'p') (key : String) :
    n ≠ key ++ ".mp" := by
  rintro rfl
  apply h
  simp

end Batch

end BlockGraph
