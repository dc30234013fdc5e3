import BlockGraph.Batch.Group
import BlockGraph.Proofs.Batch.Transparency
/-!
# A batch built concurrently is transparent

Every step of the group keeps `Group.Sound`: each running build began over a faithful cache, and
each build that ends keeps the cache faithful, whatever the builds in between stored.
-/

namespace BlockGraph.Batch

open Disk Path

/-- A result of a build of `req` over a faithful cache, the same as the build's without a cache. -/
def Served (F : Dump.Format) (t₀ : Tree) (s : Setting) (ctx : Trace.Context) (req : Request)
    (r : Outcome × Option BuildError) : Prop :=
  ∃ ws, Faithful F t₀ ws.tree ∧ (compile s ctx req ws).1 = r.1 ∧ (compile s ctx req ws).2.1 = r.2 ∧
    Agrees (compile s ctx req ws) (compile s ctx { req with cache := none } ws)

/-- What a batch under way keeps: its cache is faithful; a build begun is a build of its own
request begun over a faithful cache; and a build ended is served. -/
structure Group.Sound (F : Dump.Format) (t₀ : Tree) (s : Setting) (ctx : Trace.Context)
    (reqs : List Request) (g : Group) : Prop where
  faithful : Faithful F t₀ g.ws.tree
  length : g.slots.length = reqs.length
  running : ∀ (i : Nat) (b : Build) (err : Option BuildError), g.slots[i]? = some (.running b err) →
    ∃ req ws, reqs[i]? = some req ∧ Faithful F t₀ ws.tree ∧ start s ctx req ws = (b, err)
  done : ∀ (i : Nat) (o : Outcome) (err : Option BuildError), g.slots[i]? = some (.done o err) →
    ∃ req, reqs[i]? = some req ∧ Served F t₀ s ctx req (o, err)

theorem Build.finish_outcome_eq (b : Build) (err : Option BuildError) (ws ws' : Workspace) :
    (b.finish err ws).1 = (b.finish err ws').1 ∧ (b.finish err ws).2.1 = (b.finish err ws').2.1 := by
  obtain ⟨ho, herr⟩ := b.finish_outcome err ws
  obtain ⟨ho', herr'⟩ := b.finish_outcome err ws'
  exact ⟨ho.trans ho'.symm, herr.trans herr'.symm⟩

@[simp] theorem Build.new_tree (s : Setting) (ctx : Trace.Context) (req : Request) (ws : Workspace) :
    (Build.new s ctx req ws).ws.tree = ws.tree := rfl

@[simp] theorem start_tree (s : Setting) (ctx : Trace.Context) (req : Request) (ws : Workspace) :
    (start s ctx req ws).1.ws.tree = ws.tree := by
  simp [start]

namespace Group

variable {F : Dump.Format} {t₀ : Tree} {s : Setting} {ctx : Trace.Context} {reqs : List Request}

theorem sound_init {ws : Workspace} (hF : Faithful F t₀ ws.tree) :
    Group.Sound F t₀ s ctx reqs { ws, slots := reqs.map fun _ => .idle } where
  faithful := hF
  length := List.length_map ..
  running i b err h := by
    rw [List.getElem?_map] at h
    cases reqs[i]? <;> simp at h
  done i o err h := by
    rw [List.getElem?_map] at h
    cases reqs[i]? <;> simp at h

variable {g : Group}

theorem Sound.queue (h : g.Sound F t₀ s ctx reqs) (i : Nat) :
    (g.step s ctx reqs (.queue i)).Sound F t₀ s ctx reqs := by
  dsimp only [step]
  split
  · exact ⟨by simpa using h.faithful, h.length, h.running, h.done⟩
  · exact h

theorem Sound.start (h : g.Sound F t₀ s ctx reqs) (i : Nat) :
    (g.step s ctx reqs (.start i)).Sound F t₀ s ctx reqs := by
  dsimp only [step]
  split
  · rename_i req hreq _
    split
    · exact h
    refine ⟨by simpa using h.faithful, by simpa using h.length, fun j b err hj => ?_, fun j o err hj => ?_⟩
    · by_cases hji : i = j
      · subst hji
        rw [List.getElem?_set_self (by rw [h.length]; exact (List.getElem?_eq_some_iff.1 hreq).1)] at hj
        cases hj
        exact ⟨req, g.ws, hreq, h.faithful, rfl⟩
      · rw [List.getElem?_set_ne hji] at hj
        exact h.running j b err hj
    · by_cases hji : i = j
      · subst hji
        rw [List.getElem?_set_self (by rw [h.length]; exact (List.getElem?_eq_some_iff.1 hreq).1)] at hj
        cases hj
      · rw [List.getElem?_set_ne hji] at hj
        exact h.done j o err hj
  · exact h

theorem Sound.finish (h : g.Sound F t₀ s ctx reqs) (hdist : KeysDistinct t₀)
    (hreqs : ∀ r ∈ reqs, r.Plain F t₀) (i : Nat) :
    (g.step s ctx reqs (.finish i)).Sound F t₀ s ctx reqs := by
  dsimp only [step]
  split
  · rename_i b err hi
    obtain ⟨req, ws₀, hreq, hF₀, hstart⟩ := h.running i b err hi
    have hplain := hreqs req (List.mem_of_getElem? hreq)
    -- the build is the one begun over `ws₀`, and ends as its compilation there
    obtain ⟨rfl, rfl⟩ : (Batch.start s ctx req ws₀).1 = b ∧ (Batch.start s ctx req ws₀).2 = err :=
      ⟨congrArg Prod.fst hstart, congrArg Prod.snd hstart⟩
    have hend := (Batch.start s ctx req ws₀).1.finish_outcome_eq (Batch.start s ctx req ws₀).2
      (Batch.start s ctx req ws₀).1.ws g.ws
    rw [← compile_eq] at hend
    have hserved := (⟨ws₀, hF₀, hend.1, hend.2, compile_agrees hF₀ hplain⟩ :
      Served F t₀ s ctx req (_, _))
    refine ⟨?_, by simpa using h.length, fun j b' err' hj => ?_, fun j o err' hj => ?_⟩
    · exact Build.finish_faithful (Build.new s ctx req ws₀) hF₀ hdist hplain rfl rfl _ h.faithful
    · by_cases hji : i = j
      · subst hji
        rw [List.getElem?_set_self (List.getElem?_eq_some_iff.1 hi).1] at hj
        cases hj
      · rw [List.getElem?_set_ne hji] at hj
        exact h.running j b' err' hj
    · by_cases hji : i = j
      · subst hji
        rw [List.getElem?_set_self (List.getElem?_eq_some_iff.1 hi).1] at hj
        cases hj
        exact ⟨req, hreq, hserved⟩
      · rw [List.getElem?_set_ne hji] at hj
        exact h.done j o err' hj
  · exact h

theorem Sound.step (h : g.Sound F t₀ s ctx reqs) (hdist : KeysDistinct t₀)
    (hreqs : ∀ r ∈ reqs, r.Plain F t₀) : ∀ st, (g.step s ctx reqs st).Sound F t₀ s ctx reqs
  | .queue i => h.queue i
  | .spawn _ => h
  | .start i => h.start i
  | .finish i => h.finish hdist hreqs i

theorem Sound.foldl (hdist : KeysDistinct t₀) (hreqs : ∀ r ∈ reqs, r.Plain F t₀) :
    ∀ (sched : List Step) {g : Group}, g.Sound F t₀ s ctx reqs →
      (sched.foldl (Group.step s ctx reqs) g).Sound F t₀ s ctx reqs
  | [], _, h => h
  | st :: sched, _, h => Sound.foldl hdist hreqs sched (h.step hdist hreqs st)

-- A build's slot moves only at its own two steps.

theorem step_slot_of_ne (g : Group) {st : Step} {i : Nat} (hst : ¬(!st.isMain && st.index == i) = true) :
    (g.step s ctx reqs st).slots[i]? = g.slots[i]? := by
  cases st with
  | queue j =>
    dsimp only [step]
    split <;> rfl
  | spawn j => rfl
  | start j =>
    have hji : j ≠ i := by simpa [Step.isMain, Step.index] using hst
    dsimp only [step]
    split
    · split
      · rfl
      · exact List.getElem?_set_ne hji
    · rfl
  | finish j =>
    have hji : j ≠ i := by simpa [Step.isMain, Step.index] using hst
    dsimp only [step]
    split
    · exact List.getElem?_set_ne hji
    · rfl

theorem foldl_slot_of_ne {i : Nat} : ∀ (l : List Step) (g : Group),
    (∀ st ∈ l, ¬(!st.isMain && st.index == i) = true) →
      (l.foldl (step s ctx reqs) g).slots[i]? = g.slots[i]?
  | [], _, _ => rfl
  | st :: l, g, hl => by
    rw [List.foldl_cons, foldl_slot_of_ne l _ fun st' h => hl st' (List.mem_cons_of_mem _ h),
      step_slot_of_ne g (hl st List.mem_cons_self)]

theorem step_start_slot (hs : s.cancelled = false) {i : Nat} {req : Request} (hreq : reqs[i]? = some req)
    (hidle : g.slots[i]? = some .idle) :
    (g.step s ctx reqs (.start i)).slots[i]? =
      some (.running (Batch.start s ctx req g.ws).1 (Batch.start s ctx req g.ws).2) := by
  dsimp only [step]
  rw [hreq, hidle]
  simp only [hs, Bool.false_eq_true, if_false]
  exact List.getElem?_set_self (List.getElem?_eq_some_iff.1 hidle).1

theorem step_finish_slot {i : Nat} {b : Build} {err : Option BuildError}
    (h : g.slots[i]? = some (.running b err)) :
    ∃ o err', (g.step s ctx reqs (.finish i)).slots[i]? = some (.done o err') := by
  dsimp only [step]
  rw [h]
  exact ⟨_, _, List.getElem?_set_self (List.getElem?_eq_some_iff.1 h).1⟩

theorem foldl_done (hs : s.cancelled = false) {i : Nat} {req : Request} (hreq : reqs[i]? = some req)
    (hidle : g.slots[i]? = some .idle) {sched : List Step}
    (hown : sched.filter (fun st => !st.isMain && st.index == i) = [.start i, .finish i]) :
    ∃ o err, (sched.foldl (step s ctx reqs) g).slots[i]? = some (.done o err) := by
  obtain ⟨l₁, l₂, rfl, h₁, -, h₂⟩ := List.filter_eq_cons_iff.1 hown
  obtain ⟨l₃, l₄, rfl, h₃, -, h₄⟩ := List.filter_eq_cons_iff.1 h₂
  rw [List.foldl_append, List.foldl_cons, List.foldl_append, List.foldl_cons,
    foldl_slot_of_ne _ _ (List.filter_eq_nil_iff.1 h₄)]
  apply step_finish_slot
  rw [foldl_slot_of_ne _ _ h₃, step_start_slot hs hreq (by rw [foldl_slot_of_ne _ _ h₁, hidle])]

end Group

theorem served_of_done {F : Dump.Format} {t₀ : Tree} {s : Setting} {ctx : Trace.Context} :
    ∀ {reqs : List Request} {slots : List Slot}, slots.length = reqs.length →
      (∀ (i : Nat) req, reqs[i]? = some req →
        ∃ o err, slots[i]? = some (.done o err) ∧ Served F t₀ s ctx req (o, err)) →
      ∃ rs, List.Forall₂ (Served F t₀ s ctx) reqs rs ∧ slots = rs.map fun r => Slot.done r.1 r.2
  | [], [], _, _ => ⟨[], .nil, rfl⟩
  | req :: reqs, slot :: slots, hlen, h => by
    obtain ⟨o, err, hslot, hserved⟩ := h 0 req rfl
    obtain ⟨rs, hrs, rfl⟩ := served_of_done (Nat.succ.inj hlen) fun i r hr => h (i + 1) r hr
    cases hslot
    exact ⟨(o, err) :: rs, .cons hserved hrs, rfl⟩
  | [], _ :: _, hlen, _ => absurd hlen (by simp)
  | _ :: _, [], hlen, _ => absurd hlen (by simp)

namespace Group

variable {s : Setting} {ctx : Trace.Context} {reqs : List Request}

-- The batch built in order is the group run on the schedule that takes the builds one after the
-- other.

theorem foldl_mainSteps (g : Group) (k : Nat) :
    (mainSteps k).foldl (step s ctx reqs) g = { g with ws := (reqs.take k).foldl reportQueued g.ws } := by
  induction k with
  | zero => rfl
  | succ k ih =>
    rw [mainSteps, List.range_succ, List.flatMap_append, List.foldl_append, ← mainSteps, ih,
      List.take_add_one, List.foldl_append]
    rcases hk : reqs[k]? with _ | req <;> simp [step, hk]

theorem foldl_cancelled (hs : s.cancelled = true) (ws : Workspace) (l : List Nat) :
    (l.flatMap fun i => [Step.start i, .finish i]).foldl (step s ctx reqs)
      { ws, slots := reqs.map fun _ => .idle } = { ws, slots := reqs.map fun _ => .idle } := by
  induction l with
  | nil => rfl
  | cons i l ih =>
    rw [List.flatMap_cons, List.foldl_append, List.foldl_cons, List.foldl_cons, List.foldl_nil]
    -- the slot of build `i` is idle, or there is none
    have hstart : step s ctx reqs { ws, slots := reqs.map fun _ => .idle } (.start i) =
        { ws, slots := reqs.map fun _ => .idle } := by
      dsimp only [step]
      split
      · simp [hs]
      · rfl
    have hfinish : step s ctx reqs { ws, slots := reqs.map fun _ => .idle } (.finish i) =
        { ws, slots := reqs.map fun _ => .idle } := by
      dsimp only [step]
      rw [List.getElem?_map]
      cases reqs[i]? <;> rfl
    rw [hstart, hfinish, ih]

theorem step_start_finish (hs : s.cancelled = false) {W : Workspace} {S : List Slot} {k : Nat}
    {req : Request} (hreq : reqs[k]? = some req) (hidle : S[k]? = some .idle) :
    [Step.start k, .finish k].foldl (step s ctx reqs) { ws := W, slots := S } =
      { ws := (compile s ctx req W).2.2,
        slots := S.set k (.done (compile s ctx req W).1 (compile s ctx req W).2.1) } := by
  have hk := (List.getElem?_eq_some_iff.1 hidle).1
  have hbegin : step s ctx reqs { ws := W, slots := S } (.start k) =
      { ws := (Batch.start s ctx req W).1.ws,
        slots := S.set k (.running (Batch.start s ctx req W).1 (Batch.start s ctx req W).2) } := by
    dsimp only [step]
    rw [hreq, hidle]
    simp only [hs, Bool.false_eq_true, if_false]
  rw [List.foldl_cons, List.foldl_cons, List.foldl_nil, hbegin]
  dsimp only [step]
  rw [List.getElem?_set_self hk]
  dsimp only
  rw [List.set_set, compile_eq]

/-- Builds taken one after the other end as the batch built in order does: the first `k` slots
hold their outcomes and errors, and the rest are idle. -/
theorem foldl_buildSteps (hs : s.cancelled = false) (ws : Workspace) :
    ∀ k ≤ reqs.length, ∃ rs : List (Outcome × Option BuildError), rs.length = k ∧
      ((List.range k).flatMap fun i => [Step.start i, .finish i]).foldl (step s ctx reqs)
          { ws, slots := reqs.map fun _ => .idle } =
        { ws := ((reqs.take k).foldl (compileNext s ctx) (#[], #[], ws)).2.2,
          slots := rs.map (fun r => .done r.1 r.2) ++ (reqs.drop k).map fun _ => .idle } ∧
      ((reqs.take k).foldl (compileNext s ctx) (#[], #[], ws)).1.toList = rs.map (·.1) ∧
      ((reqs.take k).foldl (compileNext s ctx) (#[], #[], ws)).2.1.toList = rs.filterMap (·.2)
  | 0, _ => ⟨[], rfl, by simp, rfl, rfl⟩
  | k + 1, hk => by
    obtain ⟨rs, hlen, hfold, houts, herrs⟩ := foldl_buildSteps hs ws k (by omega)
    have hreq : reqs[k]? = some reqs[k] := List.getElem?_eq_getElem (by omega)
    have hdrop := List.drop_eq_getElem_cons (show k < reqs.length by omega)
    -- the slot of build `k` is the first idle one
    have hidle : (rs.map (fun r => Slot.done r.1 r.2) ++ (reqs.drop k).map fun _ => Slot.idle)[k]? =
        some .idle := by
      rw [List.getElem?_append_right (by simp [hlen]), hdrop, List.length_map, hlen, Nat.sub_self,
        List.map_cons]
      rfl
    have htake : reqs.take (k + 1) = reqs.take k ++ [reqs[k]] := by
      rw [List.take_add_one, hreq, Option.toList_some]
    refine ⟨rs ++ [((compile s ctx reqs[k] ((reqs.take k).foldl (compileNext s ctx) (#[], #[], ws)).2.2).1,
      (compile s ctx reqs[k] ((reqs.take k).foldl (compileNext s ctx) (#[], #[], ws)).2.2).2.1)],
      by simp [hlen], ?_, ?_, ?_⟩
    · rw [List.range_succ, List.flatMap_append, List.foldl_append, hfold, List.flatMap_singleton,
        step_start_finish hs hreq hidle, htake, List.foldl_append, List.foldl_cons, List.foldl_nil,
        compileNext_workspace, List.set_append_right _ _ (by simp [hlen]), hdrop, List.length_map, hlen,
        Nat.sub_self, List.map_cons, List.set_cons_zero, List.map_append, List.append_assoc]
      rfl
    · rw [htake, List.foldl_append, List.foldl_cons, List.foldl_nil, compileNext_outcomes, houts,
        List.map_append]
      rfl
    · rw [htake, List.foldl_append, List.foldl_cons, List.foldl_nil, compileNext_errors, herrs,
        List.filterMap_append]
      rfl

end Group

/-- The batch built in order is one run of the group: the one that takes the builds one after the
other, once the batch has handed them all over. -/
theorem compileAll_eq_sequential (s : Setting) (ctx : Trace.Context) (reqs : List Request) (ws : Workspace) :
    compileAll s ctx reqs ws = compileConcurrently s ctx reqs ws (sequential reqs.length) := by
  unfold compileAll compileConcurrently
  cases hempty : reqs.isEmpty
  · simp only [Bool.false_eq_true, if_false]
    rw [sequential, List.foldl_append, Group.foldl_mainSteps, List.take_length]
    dsimp only
    cases hs : s.cancelled
    · -- every build begins and ends in turn
      obtain ⟨rs, -, hfold, houts, herrs⟩ :=
        @Group.foldl_buildSteps s ctx reqs hs (reqs.foldl reportQueued ws) reqs.length le_rfl
      rw [List.take_length] at hfold houts herrs
      rw [hfold, List.drop_length, List.map_nil, List.append_nil]
      simp [compileEach, houts, herrs, List.filterMap_map, Slot.outcome?, Slot.error?, Function.comp_def]
    · rw [Group.foldl_cancelled hs]
      simp [Slot.outcome?]
  · simp

theorem flatMap_range_eq_single {α : Type} {L : List α} {i : Nat} :
    ∀ {n : Nat}, i < n → (List.range n).flatMap (fun j => if j = i then L else []) = L
  | 0, hi => absurd hi (Nat.not_lt_zero i)
  | n + 1, hi => by
    rw [List.range_succ, List.flatMap_append, List.flatMap_singleton]
    by_cases hin : i < n
    · rw [flatMap_range_eq_single hin, if_neg (by omega), List.append_nil]
    · have hn : i = n := by omega
      subst hn
      rw [if_pos rfl, List.flatMap_eq_nil_iff.2, List.nil_append]
      intro j hj
      rw [if_neg (Nat.ne_of_lt (List.mem_range.1 hj))]

theorem length_filter_mainSteps (n : Nat) : ((mainSteps n).filter Step.isSpawn).length = n := by
  induction n with
  | zero => rfl
  | succ n ih =>
    rw [mainSteps, List.range_succ, List.flatMap_append, ← mainSteps, List.filter_append,
      List.length_append, ih]
    rfl

theorem allows_sequential (n : Nat) : Allows n n (sequential n) where
  main := by
    rw [sequential, List.filter_append, List.filter_eq_self.2, List.filter_eq_nil_iff.2, List.append_nil]
    · intro st hst
      simp only [List.mem_flatMap, List.mem_range, List.mem_cons, List.not_mem_nil, or_false] at hst
      obtain ⟨i, -, rfl | rfl⟩ := hst <;> simp [Step.isMain]
    · intro st hst
      simp only [mainSteps, List.mem_flatMap, List.mem_range, List.mem_cons, List.not_mem_nil,
        or_false] at hst
      obtain ⟨i, -, rfl | rfl⟩ := hst <;> rfl
  own i hi := by
    rw [sequential, List.filter_append, List.filter_eq_nil_iff.2, List.nil_append, List.filter_flatMap]
    · -- only build `i`'s own pair of steps is left
      have hpair : ∀ j, [Step.start j, .finish j].filter (fun st => !st.isMain && st.index == i) =
          if j = i then [.start i, .finish i] else [] := by
        intro j
        by_cases hji : j = i
        · subst hji
          simp [Step.isMain, Step.index]
        · simp [Step.isMain, Step.index, hji]
      simp only [hpair]
      exact flatMap_range_eq_single hi
    · intro st hst
      simp only [mainSteps, List.mem_flatMap, List.mem_range, List.mem_cons, List.not_mem_nil,
        or_false] at hst
      obtain ⟨j, -, rfl | rfl⟩ := hst <;> simp [Step.isMain]
  indices st hst := by
    simp only [sequential, mainSteps, List.mem_append, List.mem_flatMap, List.mem_range, List.mem_cons,
      List.not_mem_nil, or_false] at hst
    obtain ⟨i, hi, rfl | rfl⟩ | ⟨i, hi, rfl | rfl⟩ := hst <;> exact hi
  handed i hi := by
    rw [sequential, List.takeWhile_append_of_pos]
    · exact List.mem_append_left _ (List.mem_flatMap.2 ⟨i, List.mem_range.2 hi, by simp⟩)
    · intro st hst
      simp only [mainSteps, List.mem_flatMap, List.mem_range, List.mem_cons, List.not_mem_nil,
        or_false] at hst
      obtain ⟨j, -, rfl | rfl⟩ := hst <;> rfl
  bounded k _ := by
    have hspawns : ((sequential n).filter Step.isSpawn).length = n := by
      rw [sequential, List.filter_append, List.length_append, length_filter_mainSteps,
        List.filter_eq_nil_iff.2, List.length_nil, Nat.add_zero]
      intro st hst
      simp only [List.mem_flatMap, List.mem_range, List.mem_cons, List.not_mem_nil, or_false] at hst
      obtain ⟨i, -, rfl | rfl⟩ := hst <;> simp [Step.isSpawn]
    calc ((List.take k (sequential n)).filter Step.isSpawn).length
        ≤ ((sequential n).filter Step.isSpawn).length := ((List.take_sublist k _).filter _).length_le
      _ = n := hspawns
      _ ≤ n + _ := Nat.le_add_right _ _

section Transparent

variable {F : Dump.Format} {s : Setting} {ctx : Trace.Context}

/-- The output cache is transparent to a batch built concurrently. In a batch not cancelled, over a
tree whose cache files are faithful to its dumps, whose dumps all are in one format and have
distinct keys, and whose entries fit their encoding, every schedule the group allows gives, for
each request in order, the outcome and error of one build of that request over a faithful cache,
which ends with the graph, the counts, the error and the findings of the same build without a
cache; the batch's errors are those of the builds, in order. -/
theorem concurrent_cache_transparent (hs : s.cancelled = false) {reqs : List Request} (ws : Workspace)
    (hdist : KeysDistinct ws.tree) (hF : Faithful F ws.tree ws.tree)
    (hreqs : ∀ r ∈ reqs, r.Plain F ws.tree) {limit : Nat} {sched : List Step}
    (hallow : Allows limit reqs.length sched) :
    ∃ rs, List.Forall₂ (Served F ws.tree s ctx) reqs rs ∧
      (compileConcurrently s ctx reqs ws sched).1 = rs.map (fun r => some r.1) ∧
      (compileConcurrently s ctx reqs ws sched).2.1 = rs.filterMap (·.2) := by
  unfold compileConcurrently
  cases reqs with
  | nil => exact ⟨[], .nil, rfl, rfl⟩
  | cons req rest =>
    simp only [List.isEmpty_cons, Bool.false_eq_true, if_false, hs]
    have hsound : (sched.foldl (Group.step s ctx (req :: rest))
        { ws, slots := (req :: rest).map fun _ => .idle }).Sound F ws.tree s ctx (req :: rest) :=
      Group.Sound.foldl hdist hreqs sched (Group.sound_init hF)
    -- every build ends, in the slot of its own request
    have hdone : ∀ (i : Nat) r, (req :: rest)[i]? = some r → ∃ o err,
        (sched.foldl (Group.step s ctx (req :: rest)) { ws, slots := (req :: rest).map fun _ => .idle }).slots[i]? =
          some (.done o err) ∧ Served F ws.tree s ctx r (o, err) := by
      intro i r hr
      obtain ⟨o, err, hslot⟩ := Group.foldl_done (g := { ws, slots := (req :: rest).map fun _ => .idle })
        hs hr (by rw [List.getElem?_map, hr]; rfl)
        (hallow.own i (List.getElem?_eq_some_iff.1 hr).1)
      obtain ⟨r', hr', hserved⟩ := hsound.done i o err hslot
      rw [hr] at hr'
      cases hr'
      exact ⟨o, err, hslot, hserved⟩
    obtain ⟨rs, hrs, hslots⟩ := served_of_done hsound.length hdone
    refine ⟨rs, hrs, ?_, ?_⟩
    · rw [hslots, List.map_map]
      rfl
    · rw [hslots, List.filterMap_map]
      rfl

/-- Two builds of one dump that describes a project, run side by side: both miss the cache and
both store the same entry. -/
theorem concurrent_cache_transparent_same_dump :
    KeysDistinct { dirs := [], files := [(["game.json"], [110, 117, 108, 108])] } ∧
    Faithful .json { dirs := [], files := [(["game.json"], [110, 117, 108, 108])] }
      { dirs := [], files := [(["game.json"], [110, 117, 108, 108])] } ∧
    (∀ r ∈ [({ path := "game.json", cache := some { dir := "cache" } } : Request),
        { path := "game.json", cache := some { dir := "cache" } }],
      r.Plain .json { dirs := [], files := [(["game.json"], [110, 117, 108, 108])] }) ∧
    Allows 2 2 [.queue 0, .spawn 0, .queue 1, .spawn 1, .start 0, .start 1, .finish 0, .finish 1] ∧
    ∃ rs, List.Forall₂ (Served .json { dirs := [], files := [(["game.json"], [110, 117, 108, 108])] }
        { cwd := [], origin := default } .empty)
      [{ path := "game.json", cache := some { dir := "cache" } }, { path := "game.json", cache := some { dir := "cache" } }] rs ∧
      (compileConcurrently { cwd := [], origin := default } .empty
        [{ path := "game.json", cache := some { dir := "cache" } }, { path := "game.json", cache := some { dir := "cache" } }]
        { tree := { dirs := [], files := [(["game.json"], [110, 117, 108, 108])] } }
        [.queue 0, .spawn 0, .queue 1, .spawn 1, .start 0, .start 1, .finish 0, .finish 1]).1 =
        rs.map (fun r => some r.1) ∧
      (compileConcurrently { cwd := [], origin := default } .empty
        [{ path := "game.json", cache := some { dir := "cache" } }, { path := "game.json", cache := some { dir := "cache" } }]
        { tree := { dirs := [], files := [(["game.json"], [110, 117, 108, 108])] } }
        [.queue 0, .spawn 0, .queue 1, .spawn 1, .start 0, .start 1, .finish 0, .finish 1]).2.1 =
        rs.filterMap (·.2) := by
  have hname : ∀ key, "game.json" ≠ key ++ ".mp" := ne_entry_name (by decide)
  have hdist : KeysDistinct { dirs := [], files := [(["game.json"], [110, 117, 108, 108])] } := by
    intro f hf g hg _
    rw [List.mem_singleton] at hf hg
    rw [hf, hg]
  have hF : Faithful .json { dirs := [], files := [(["game.json"], [110, 117, 108, 108])] }
      { dirs := [], files := [(["game.json"], [110, 117, 108, 108])] } := by
    refine ⟨fun f hf g hg hlast => ?_, fun f hf _ => hf⟩
    rw [List.mem_singleton] at hf
    rw [hf] at hlast
    exact absurd (Option.some.inj hlast) (hname _)
  have hext : Path.ext "game.json" = ".json" := by decide
  have hlower : Text.lower ".json" = ".json" := by
    apply String.ext
    simp only [Text.lower, String.toList_map]
    decide
  -- the dump describes the empty project, whose entry fits its encoding
  have hfits : (Dump.projectOf? .json [110, 117, 108, 108]).map (fun p =>
      decide (CacheEntry.ofCompilation ({ path := "game.json", cache := some { dir := "cache" } } : Request).outputName
        (Compilation.run p {} 0)).Fits) = some true := by
    decide +kernel
  have hreqs : ∀ r ∈ [({ path := "game.json", cache := some { dir := "cache" } } : Request),
      { path := "game.json", cache := some { dir := "cache" } }],
      r.Plain .json { dirs := [], files := [(["game.json"], [110, 117, 108, 108])] } := by
    intro r hr
    have hr' : r = { path := "game.json", cache := some { dir := "cache" } } := by simpa using hr
    subst hr'
    refine ⟨by simp only [Dump.Format.ofPath?, hext, hlower], ⟨"game.json", rfl, by unfold PlainName; decide, fun d => hname _⟩, ?_⟩
    intro g hg p hp
    rw [List.mem_singleton] at hg
    rw [hg] at hp
    rw [hp] at hfits
    exact of_decide_eq_true (Option.some.inj hfits)
  have hallow : Allows 2 2 [.queue 0, .spawn 0, .queue 1, .spawn 1, .start 0, .start 1, .finish 0, .finish 1] := by
    decide
  exact ⟨hdist, hF, hreqs, hallow,
    concurrent_cache_transparent rfl { tree := { dirs := [], files := [(["game.json"], [110, 117, 108, 108])] } }
      hdist hF hreqs hallow⟩

end Transparent

end BlockGraph.Batch
