import BlockGraph.Graph.Generate

namespace BlockGraph.Graph

/-- A run of `m` in scope `sc` from `s` that ends normally with the value `a` in state `s'`. -/
def EmitM.Runs {α : Type} (m : EmitM α) (sc : EmitScope) (s : EmitState) (a : α)
    (s' : EmitState) : Prop :=
  (m sc s : Except EmitError α × EmitState) = (.ok a, s')

/-- The block an emitted item is, if it is one. -/
def Emitted.block? : Emitted → Option Block
  | .block b => some b
  | _ => none

/-- The blocks emitted so far, in the order they were written. -/
def EmitState.blocks (s : EmitState) : List Block := s.out.reverse.filterMap Emitted.block?

@[simp] theorem EmitState.blocks_push_block (s : EmitState) (b : Block) :
    { s with out := .block b :: s.out }.blocks = s.blocks ++ [b] := by
  simp [EmitState.blocks, Emitted.block?]

@[simp] theorem EmitState.blocks_push_report (s : EmitState) (d : Diagnostic) :
    { s with out := .report d :: s.out }.blocks = s.blocks := by
  simp [EmitState.blocks, Emitted.block?]

@[simp] theorem EmitState.blocks_push_scriptStart (s : EmitState) (opcode detail : String) :
    { s with out := .scriptStart opcode detail :: s.out }.blocks = s.blocks := by
  simp [EmitState.blocks, Emitted.block?]

namespace EmitM

variable {α β : Type} {sc : EmitScope} {s s' : EmitState}

theorem bind_apply (m : EmitM α) (f : α → EmitM β) (sc : EmitScope) (s : EmitState) :
    (m >>= f) sc s = match m sc s with
      | (.ok a, s₁) => f a sc s₁
      | (.error e, s₁) => (.error e, s₁) := by
  simp only [bind, ReaderT.bind, ExceptT.bind, ExceptT.mk, ExceptT.bindCont, StateT.bind]
  rcases m sc s with ⟨e | a, s₁⟩ <;> rfl

theorem runs_bind {m : EmitM α} {f : α → EmitM β} {b : β} :
    (m >>= f).Runs sc s b s' ↔ ∃ a s₁, m.Runs sc s a s₁ ∧ (f a).Runs sc s₁ b s' := by
  unfold Runs
  rw [bind_apply]
  rcases m sc s with ⟨e | a, s₁⟩
  · constructor
    · intro h
      cases h
    · rintro ⟨_, _, h, -⟩
      cases h
  · constructor
    · intro h
      exact ⟨a, s₁, rfl, h⟩
    · rintro ⟨_, _, h, h'⟩
      cases h
      exact h'

theorem runs_pure {a b : α} : (pure a : EmitM α).Runs sc s b s' ↔ b = a ∧ s' = s := by
  unfold Runs
  constructor
  · intro h
    cases h
    exact ⟨rfl, rfl⟩
  · rintro ⟨rfl, rfl⟩
    rfl

theorem not_runs_throw {e : EmitError} {a : α} : ¬(throw e : EmitM α).Runs sc s a s' := by
  unfold Runs
  intro h
  cases h

theorem runs_read {r : EmitScope} :
    (read : EmitM EmitScope).Runs sc s r s' ↔ r = sc ∧ s' = s := by
  unfold Runs
  constructor
  · intro h
    cases h
    exact ⟨rfl, rfl⟩
  · rintro ⟨rfl, rfl⟩
    rfl

theorem modifyGet_apply (f : EmitState → α × EmitState) (sc : EmitScope) (s : EmitState) :
    (modifyGet f : EmitM α) sc s = (.ok (f s).1, (f s).2) := rfl

theorem runs_modifyGet {f : EmitState → α × EmitState} {a : α} :
    (modifyGet f : EmitM α).Runs sc s a s' ↔ f s = (a, s') := by
  unfold Runs
  rw [modifyGet_apply]
  constructor
  · intro h
    cases h
    rfl
  · intro h
    rw [h]

theorem runs_modify {f : EmitState → EmitState} {u : Unit} :
    (modify f : EmitM Unit).Runs sc s u s' ↔ s' = f s := by
  unfold Runs
  constructor
  · intro h
    cases h
    rfl
  · intro h
    rw [h]
    rfl

theorem runs_withReader {f : EmitScope → EmitScope} {m : EmitM α} {a : α} :
    (withReader f m).Runs sc s a s' ↔ m.Runs (f sc) s a s' := Iff.rfl

theorem runs_fresh {i : Nat} :
    fresh.Runs sc s i s' ↔ i = s.last + 1 ∧ s' = { s with last := s.last + 1 } := by
  unfold fresh
  rw [runs_modifyGet]
  constructor
  · intro h
    cases h
    exact ⟨rfl, rfl⟩
  · rintro ⟨rfl, rfl⟩
    rfl

theorem runs_take {n : Nat} {ids : List Nat} :
    (take n).Runs sc s ids s' ↔
      ids = List.range' (s.last + 1) n ∧ s' = { s with last := s.last + n } := by
  unfold take
  rw [runs_modifyGet, List.range'_eq_map_range]
  constructor
  · intro h
    cases h
    exact ⟨rfl, rfl⟩
  · rintro ⟨rfl, rfl⟩
    rfl

theorem runs_push {e : Emitted} {u : Unit} :
    (push e).Runs sc s u s' ↔ s' = { s with out := e :: s.out } :=
  runs_modify

theorem runs_take_state {n : Nat} {ids : List Nat} (h : (take n).Runs sc s ids s') :
    ids = List.range' (s.last + 1) n ∧ s'.last = s.last + n ∧ s'.blocks = s.blocks := by
  obtain ⟨rfl, rfl⟩ := runs_take.1 h
  exact ⟨rfl, rfl, rfl⟩

theorem runs_fresh_state {i : Nat} (h : fresh.Runs sc s i s') :
    i = s.last + 1 ∧ s'.last = s.last + 1 ∧ s'.blocks = s.blocks := by
  obtain ⟨rfl, rfl⟩ := runs_fresh.1 h
  exact ⟨rfl, rfl, rfl⟩

theorem runs_push_block {b : Block} {u : Unit} (h : (push (.block b)).Runs sc s u s') :
    s'.last = s.last ∧ s'.blocks = s.blocks ++ [b] := by
  obtain rfl := runs_push.1 h
  exact ⟨rfl, EmitState.blocks_push_block s b⟩

theorem runs_push_scriptStart {o d : String} {u : Unit}
    (h : (push (.scriptStart o d)).Runs sc s u s') : s'.last = s.last ∧ s'.blocks = s.blocks := by
  obtain rfl := runs_push.1 h
  exact ⟨rfl, EmitState.blocks_push_scriptStart s o d⟩

/-- A run of a guard `if c then throw e`: the guard does not hold, and the rest runs. -/
theorem runs_guard {c : Prop} [Decidable c] {e : EmitError} {m : EmitM α} {a : α} :
    (if c then (throw e : EmitM PUnit) >>= (fun _ => m) else m).Runs sc s a s' ↔
      ¬c ∧ m.Runs sc s a s' := by
  split
  · refine ⟨fun h => ?_, fun h => absurd ‹c› h.1⟩
    obtain ⟨_, _, hthrow, -⟩ := runs_bind.1 h
    exact absurd hthrow not_runs_throw
  · exact ⟨fun h => ⟨‹¬c›, h⟩, fun h => h.2⟩

theorem runs_get {t : EmitState} : (get : EmitM EmitState).Runs sc s t s' ↔ t = s ∧ s' = s := by
  unfold Runs
  constructor
  · intro h
    cases h
    exact ⟨rfl, rfl⟩
  · rintro ⟨rfl, rfl⟩
    rfl

theorem runs_set {t : EmitState} {u : PUnit} : (set t : EmitM PUnit).Runs sc s u s' ↔ s' = t := by
  unfold Runs
  constructor
  · intro h
    cases h
    rfl
  · intro h
    rw [h]
    rfl

/-- A script is placed while its place fits: the place is taken and the count moves on. -/
theorem runs_place {y : Nat} :
    place.Runs sc s y s' ↔ s.scripts * 400 ≤ maxPlace ∧ y = s.scripts * 400 ∧
      s' = { s with scripts := s.scripts + 1 } := by
  unfold place
  rw [runs_bind]
  constructor
  · rintro ⟨s₀, s₁, h₀, h⟩
    obtain ⟨rfl, rfl⟩ := runs_get.1 h₀
    obtain ⟨hfits, h⟩ := runs_guard.1 h
    obtain ⟨u, s₂, h₂, h₃⟩ := runs_bind.1 h
    obtain rfl := runs_set.1 h₂
    obtain ⟨rfl, rfl⟩ := runs_pure.1 h₃
    exact ⟨Nat.le_of_not_lt hfits, rfl, rfl⟩
  · rintro ⟨hfits, rfl, rfl⟩
    exact ⟨s, s, runs_get.2 ⟨rfl, rfl⟩, runs_guard.2 ⟨Nat.not_lt_of_le hfits,
      runs_bind.2 ⟨PUnit.unit, _, runs_set.2 rfl, runs_pure.2 ⟨rfl, rfl⟩⟩⟩⟩

theorem runs_place_state {y : Nat} (h : place.Runs sc s y s') :
    s'.last = s.last ∧ s'.blocks = s.blocks := by
  obtain ⟨-, -, rfl⟩ := runs_place.1 h
  exact ⟨rfl, rfl⟩

theorem ite_bind_same {c : Prop} [Decidable c] (m₁ m₂ : EmitM α) (f : α → EmitM β) :
    (if c then m₁ >>= f else m₂ >>= f) = (if c then m₁ else m₂) >>= f := by
  split <;> rfl

theorem runs_mapM_take {γ : Type} {g : γ → Nat} :
    ∀ {xs : List γ} {s s' : EmitState} {idss : List (List Nat)},
      (xs.mapM fun x => take (g x)).Runs sc s idss s' →
        ∃ k, idss.flatten = List.range' (s.last + 1) k ∧ idss.map List.length = xs.map g ∧
          s' = { s with last := s.last + k }
  | [], s, s', idss, h => by
    rw [List.mapM_nil, runs_pure] at h
    obtain ⟨rfl, rfl⟩ := h
    exact ⟨0, rfl, rfl, rfl⟩
  | x :: xs, s, s', idss, h => by
    rw [List.mapM_cons] at h
    obtain ⟨ids, s₁, h₁, h₂⟩ := runs_bind.1 h
    obtain ⟨idss', s₂, h₃, h₄⟩ := runs_bind.1 h₂
    obtain ⟨rfl, rfl⟩ := runs_pure.1 h₄
    obtain ⟨rfl, rfl⟩ := runs_take.1 h₁
    obtain ⟨k, hflat, hlen, rfl⟩ := runs_mapM_take h₃
    refine ⟨g x + k, ?_, ?_, ?_⟩
    · rw [List.flatten_cons, hflat]
      dsimp only
      rw [show s.last + g x + 1 = s.last + 1 + g x by omega, List.range'_append_1]
    · simp [hlen]
    · simp only [Nat.add_assoc]

end EmitM

/-- `m` takes no id and writes no block, and its value satisfies `P`. -/
def EmitM.Quietly {α : Type} (m : EmitM α) (P : α → Prop) : Prop :=
  ∀ ⦃sc s a s'⦄, m.Runs sc s a s' → P a ∧ s'.last = s.last ∧ s'.blocks = s.blocks

namespace EmitM.Quietly

variable {α β : Type}

theorem pure {P : α → Prop} {a : α} (h : P a) : (pure a : EmitM α).Quietly P := by
  intro sc s b s' hr
  obtain ⟨rfl, rfl⟩ := runs_pure.1 hr
  exact ⟨h, rfl, rfl⟩

theorem bind {m : EmitM α} {f : α → EmitM β} {Q : α → Prop} {P : β → Prop}
    (hm : m.Quietly Q) (hf : ∀ a, Q a → (f a).Quietly P) : (m >>= f).Quietly P := by
  intro sc s b s' hr
  obtain ⟨a, s₁, h₁, h₂⟩ := runs_bind.1 hr
  obtain ⟨hq, hl₁, hb₁⟩ := hm h₁
  obtain ⟨hp, hl₂, hb₂⟩ := hf a hq h₂
  exact ⟨hp, hl₂.trans hl₁, hb₂.trans hb₁⟩

theorem read : (read : EmitM EmitScope).Quietly fun _ => True := by
  intro sc s r s' hr
  obtain ⟨rfl, rfl⟩ := runs_read.1 hr
  exact ⟨trivial, rfl, rfl⟩

theorem report {d : Diagnostic} : (EmitM.report d).Quietly fun _ => True := by
  intro sc s u s' hr
  obtain rfl := runs_push.1 hr
  exact ⟨trivial, rfl, EmitState.blocks_push_report s d⟩

theorem report_bind {d : Diagnostic} {f : Unit → EmitM β} {P : β → Prop}
    (h : (f ()).Quietly P) : (EmitM.report d >>= f).Quietly P :=
  bind report fun _ _ => h

/-- A run of a quiet action then `f` is a run of `f` from a state with the same last id and
blocks. -/
theorem bind_runs {m : EmitM α} {f : α → EmitM β} {P : α → Prop} (hm : m.Quietly P)
    {sc : EmitScope} {s s' : EmitState} {b : β} (h : (m >>= f).Runs sc s b s') :
    ∃ a s₁, P a ∧ s₁.last = s.last ∧ s₁.blocks = s.blocks ∧ (f a).Runs sc s₁ b s' := by
  obtain ⟨a, s₁, h₁, h₂⟩ := runs_bind.1 h
  obtain ⟨hp, hl, hb⟩ := hm h₁
  exact ⟨a, s₁, hp, hl, hb, h₂⟩

theorem imp {m : EmitM α} {P Q : α → Prop} (h : m.Quietly P) (hPQ : ∀ a, P a → Q a) :
    m.Quietly Q := by
  intro sc s a s' hr
  obtain ⟨hp, hl, hb⟩ := h hr
  exact ⟨hPQ a hp, hl, hb⟩

theorem mapM {f : α → EmitM β} {Q : α → β → Prop} (hf : ∀ x, (f x).Quietly (Q x)) :
    ∀ xs : List α, (xs.mapM f).Quietly fun ys => ∀ y ∈ ys, ∃ x ∈ xs, Q x y
  | [] => by
    rw [List.mapM_nil]
    exact Quietly.pure (by simp)
  | x :: xs => by
    rw [List.mapM_cons]
    refine Quietly.bind (hf x) fun y hy => Quietly.bind (Quietly.mapM hf xs) fun ys hys =>
      Quietly.pure ?_
    intro z hz
    rcases List.mem_cons.1 hz with rfl | hz
    · exact ⟨x, List.mem_cons_self, hy⟩
    · obtain ⟨x', hx', hq⟩ := hys z hz
      exact ⟨x', List.mem_cons_of_mem x hx', hq⟩

/-- Folding a quiet step: an invariant of the elements `done` so far, kept by each step. -/
theorem foldlM {f : β → α → EmitM β} {Inv : List α → β → Prop}
    (hf : ∀ done x b, Inv done b → (f b x).Quietly (Inv (done ++ [x]))) :
    ∀ (xs done : List α) (b : β), Inv done b → (xs.foldlM f b).Quietly (Inv (done ++ xs))
  | [], done, b, h => by
    rw [List.foldlM_nil, List.append_nil]
    exact Quietly.pure h
  | x :: xs, done, b, h => by
    rw [List.foldlM_cons]
    refine Quietly.bind (hf done x b h) fun b' h' => ?_
    rw [← List.singleton_append, ← List.append_assoc]
    exact Quietly.foldlM hf xs (done ++ [x]) b' h'

end EmitM.Quietly

end BlockGraph.Graph
