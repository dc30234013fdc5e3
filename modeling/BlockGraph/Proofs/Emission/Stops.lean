import BlockGraph.Proofs.Emission.Run

namespace BlockGraph.Graph

/-- How `m` ends from every state: with `err k` after `k` scripts placed when that is an error,
and otherwise normally with `n` more scripts placed and a value satisfying `Q`. -/
def EmitM.Stops {α : Type} (m : EmitM α) (sc : EmitScope) (err : Nat → Option EmitError)
    (n : Nat) (Q : α → Prop) : Prop :=
  ∀ s : EmitState, (∀ e ∈ err s.scripts, ∃ s', m sc s = (.error e, s')) ∧
    (err s.scripts = none → ∃ a s', m.Runs sc s a s' ∧ s'.scripts = s.scripts + n ∧ Q a)

/-- `m` stops with `err` when that is an error, and otherwise ends normally without placing a
script, with a value satisfying `Q`. -/
def EmitM.StopsWith {α : Type} (m : EmitM α) (sc : EmitScope) (err : Option EmitError)
    (Q : α → Prop) : Prop :=
  m.Stops sc (fun _ => err) 0 Q

/-- The error of placing a script after `k` others: its place does not fit in 32 bits. -/
def placeError (k : Nat) : Option EmitError :=
  if k * 400 > maxPlace then some (.layout (k * 400)) else none

/-- The error of running a step on each of `xs` in turn, the first after `k` scripts placed,
each step placing `n`. -/
def seqError {γ : Type} (err : γ → Nat → Option EmitError) (n : Nat) :
    List γ → Nat → Option EmitError
  | [], _ => none
  | x :: xs, k => (err x k).or (seqError err n xs (k + n))

namespace EmitM.Stops

variable {α β γ : Type} {sc : EmitScope}

theorem congr {m : EmitM α} {e e' : Nat → Option EmitError} {n n' : Nat} {Q Q' : α → Prop}
    (h : m.Stops sc e n Q) (he : ∀ k, e k = e' k) (hn : n = n') (hQ : ∀ a, Q a → Q' a) :
    m.Stops sc e' n' Q' := by
  subst hn
  intro s
  obtain ⟨hstop, hend⟩ := h s
  rw [he] at hstop hend
  refine ⟨hstop, fun h₀ => ?_⟩
  obtain ⟨a, s', hr, hk, hq⟩ := hend h₀
  exact ⟨a, s', hr, hk, hQ a hq⟩

/-- A run of `m` then `f` stops where `m` stops, or else where `f` stops once `m` has placed its
scripts. -/
theorem bind {m : EmitM α} {f : α → EmitM β} {e₁ e₂ : Nat → Option EmitError} {n₁ n₂ : Nat}
    {Q : α → Prop} {R : β → Prop} (hm : m.Stops sc e₁ n₁ Q)
    (hf : ∀ a, Q a → (f a).Stops sc e₂ n₂ R) :
    (m >>= f).Stops sc (fun k => (e₁ k).or (e₂ (k + n₁))) (n₁ + n₂) R := by
  intro s
  obtain ⟨hstop₁, hend₁⟩ := hm s
  cases h₁ : e₁ s.scripts with
  | some e =>
    obtain ⟨s', hs'⟩ := hstop₁ e h₁
    refine ⟨fun e' he' => ?_, fun h => by simp [h₁] at h⟩
    simp only [h₁, Option.some_or, Option.mem_def, Option.some.injEq] at he'
    subst he'
    exact ⟨s', by rw [bind_apply, hs']⟩
  | none =>
    obtain ⟨a, s₁, hrun, hk, hq⟩ := hend₁ h₁
    obtain ⟨hstop₂, hend₂⟩ := hf a hq s₁
    rw [hk] at hstop₂ hend₂
    have hrun' : m sc s = (.ok a, s₁) := hrun
    refine ⟨fun e he => ?_, fun h => ?_⟩
    · simp only [h₁, Option.none_or] at he
      obtain ⟨s', hs'⟩ := hstop₂ e he
      exact ⟨s', by rw [bind_apply, hrun']; exact hs'⟩
    · simp only [h₁, Option.none_or] at h
      obtain ⟨b, s', hb, hk', hr⟩ := hend₂ h
      exact ⟨b, s', runs_bind.2 ⟨a, s₁, hrun, hb⟩, by omega, hr⟩

theorem bind_none {m : EmitM α} {f : α → EmitM β} {e : Nat → Option EmitError} {n : Nat}
    {Q : α → Prop} {R : β → Prop} (hm : m.Stops sc e n Q)
    (hf : ∀ a, Q a → (f a).Stops sc (fun _ => none) 0 R) : (m >>= f).Stops sc e n R :=
  (bind hm hf).congr (fun _ => Option.or_none) rfl fun _ h => h

theorem none_bind {m : EmitM α} {f : α → EmitM β} {e : Nat → Option EmitError} {n : Nat}
    {Q : α → Prop} {R : β → Prop} (hm : m.Stops sc (fun _ => none) 0 Q)
    (hf : ∀ a, Q a → (f a).Stops sc e n R) : (m >>= f).Stops sc e n R :=
  (bind hm hf).congr (fun _ => by simp) (Nat.zero_add n) fun _ h => h

theorem place : (place : EmitM Nat).Stops sc placeError 1 fun _ => True := by
  intro s
  by_cases hfit : s.scripts * 400 > maxPlace
  · have hget : (get : EmitM EmitState) sc s = (.ok s, s) := rfl
    have hplace : EmitM.place sc s = (.error (.layout (s.scripts * 400)), s) := by
      simp only [EmitM.place, bind_apply, hget, if_pos hfit]
      rfl
    refine ⟨fun e he => ?_, fun h => by simp [placeError, hfit] at h⟩
    simp only [placeError, if_pos hfit, Option.mem_def, Option.some.injEq] at he
    exact ⟨s, by rw [hplace, he]⟩
  · refine ⟨fun e he => by simp [placeError, hfit] at he, fun _ => ?_⟩
    exact ⟨s.scripts * 400, { s with scripts := s.scripts + 1 },
      runs_place.2 ⟨Nat.le_of_not_lt hfit, rfl, rfl⟩, rfl, trivial⟩

theorem forIn {f : γ → β → EmitM (ForInStep β)} {err : γ → Nat → Option EmitError} {n : Nat} :
    ∀ {xs : List γ}, (∀ x ∈ xs, ∀ b, (f x b).Stops sc (err x) n fun r => ∃ b', r = .yield b') →
      ∀ b, (forIn xs b f).Stops sc (seqError err n xs) (n * xs.length) fun _ => True
  | [], _, b => by
    intro s
    refine ⟨fun e he => by simp [seqError] at he, fun _ => ⟨b, s, rfl, rfl, trivial⟩⟩
  | x :: xs, hf, b => by
    rw [List.forIn_cons]
    -- every step yields, so the loop goes on with the rest from the state the step left
    exact (bind (hf x List.mem_cons_self b) fun step hstep => by
        obtain ⟨b', rfl⟩ := hstep
        exact forIn (fun y hy => hf y (List.mem_cons_of_mem x hy)) b').congr
      (fun k => by rfl) (by simp only [List.length_cons, Nat.mul_succ, Nat.add_comm]) fun _ h => h

end EmitM.Stops

namespace EmitM.StopsWith

variable {α β γ : Type} {sc : EmitScope}

theorem bind {m : EmitM α} {f : α → EmitM β} {e₁ e₂ : Option EmitError} {Q : α → Prop}
    {R : β → Prop} (hm : m.StopsWith sc e₁ Q) (hf : ∀ a, Q a → (f a).StopsWith sc e₂ R) :
    (m >>= f).StopsWith sc (e₁.or e₂) R :=
  Stops.bind hm hf

theorem bind_none {m : EmitM α} {f : α → EmitM β} {e : Option EmitError} {Q : α → Prop}
    {R : β → Prop} (hm : m.StopsWith sc none Q) (hf : ∀ a, Q a → (f a).StopsWith sc e R) :
    (m >>= f).StopsWith sc e R := by
  have h := bind hm hf
  rwa [Option.none_or] at h

theorem imp {m : EmitM α} {e : Option EmitError} {Q Q' : α → Prop} (h : m.StopsWith sc e Q)
    (hQ : ∀ a, Q a → Q' a) : m.StopsWith sc e Q' :=
  Stops.congr h (fun _ => rfl) rfl hQ

theorem pure {a : α} {Q : α → Prop} (h : Q a) : (Pure.pure a : EmitM α).StopsWith sc none Q := by
  intro s
  exact ⟨fun e he => (by cases he), fun _ => ⟨a, s, rfl, rfl, h⟩⟩

theorem pure_true {a : α} : (Pure.pure a : EmitM α).StopsWith sc none fun _ => True :=
  pure trivial

theorem throw {e : EmitError} {Q : α → Prop} : (throw e : EmitM α).StopsWith sc (some e) Q := by
  intro s
  refine ⟨fun e' he' => ?_, fun h => by cases h⟩
  cases he'
  exact ⟨s, rfl⟩

/-- A guard `if c then throw e` before `m` stops with `e` when `c` holds, and as `m` stops
otherwise. -/
theorem guard {c : Prop} [Decidable c] {e : EmitError} {m : EmitM α} {err : Option EmitError}
    {Q : α → Prop} (hm : m.StopsWith sc err Q) :
    (if c then (MonadExcept.throw e : EmitM PUnit) >>= (fun _ => m) else m).StopsWith sc
      ((if c then some e else none).or err) Q := by
  by_cases hc : c
  · simp only [if_pos hc, Option.some_or]
    have h : ((MonadExcept.throw e : EmitM PUnit) >>= fun _ => m).StopsWith sc ((some e).or err) Q :=
      bind (throw (Q := fun _ => True)) fun _ _ => hm
    rwa [Option.some_or] at h
  · simp only [if_neg hc, Option.none_or]
    exact hm

theorem read : (read : EmitM EmitScope).StopsWith sc none (· = sc) := by
  intro s
  exact ⟨fun e he => (by cases he), fun _ => ⟨sc, s, rfl, rfl, rfl⟩⟩

theorem withReader {f : EmitScope → EmitScope} {m : EmitM α} {e : Option EmitError}
    {Q : α → Prop} (h : m.StopsWith (f sc) e Q) : (withReader f m).StopsWith sc e Q :=
  h

theorem fresh : (fresh : EmitM Nat).StopsWith sc none fun _ => True := by
  intro s
  exact ⟨fun e he => (by cases he), fun _ => ⟨_, _, runs_fresh.2 ⟨rfl, rfl⟩, rfl, trivial⟩⟩

theorem take {n : Nat} : (take n).StopsWith sc none fun ids => ids.length = n := by
  intro s
  refine ⟨fun e he => (by cases he), fun _ => ⟨_, _, runs_take.2 ⟨rfl, rfl⟩, rfl, ?_⟩⟩
  exact List.length_range'

theorem push {e : Emitted} : (push e).StopsWith sc none fun _ => True := by
  intro s
  exact ⟨fun e he => (by cases he), fun _ => ⟨(), _, runs_push.2 rfl, rfl, trivial⟩⟩

theorem report {d : Diagnostic} : (report d).StopsWith sc none fun _ => True :=
  push

/-- Mapping steps that always end normally: what `g` reads of each value, `h` reads of its
element. -/
theorem mapM {δ : Type} {f : γ → EmitM α} {g : α → δ} {h : γ → δ} :
    ∀ {xs : List γ}, (∀ x ∈ xs, (f x).StopsWith sc none fun y => g y = h x) →
      (xs.mapM f).StopsWith sc none fun ys => ys.map g = xs.map h
  | [], _ => by
    rw [List.mapM_nil]
    exact pure rfl
  | x :: xs, hf => by
    rw [List.mapM_cons]
    refine bind_none (hf x List.mem_cons_self) fun y hy =>
      bind_none (mapM fun x' hx' => hf x' (List.mem_cons_of_mem x hx')) fun ys hys => ?_
    exact pure (by rw [List.map_cons, List.map_cons, hy, hys])

theorem foldlM {f : β → γ → EmitM β} {I : List γ → β → Prop}
    (hf : ∀ done x b, I done b → (f b x).StopsWith sc none (I (done ++ [x]))) :
    ∀ (xs done : List γ) (b : β), I done b → (xs.foldlM f b).StopsWith sc none (I (done ++ xs))
  | [], done, b, h => by
    rw [List.foldlM_nil, List.append_nil]
    exact pure h
  | x :: xs, done, b, h => by
    rw [List.foldlM_cons]
    refine bind_none (hf done x b h) fun b' h' => ?_
    rw [← List.singleton_append, ← List.append_assoc]
    exact foldlM hf xs (done ++ [x]) b' h'

theorem forIn {f : γ → β → EmitM (ForInStep β)} {xs : List γ}
    (hf : ∀ x ∈ xs, ∀ b, (f x b).StopsWith sc none fun r => ∃ b', r = .yield b') (b : β) :
    (forIn xs b f).StopsWith sc none fun _ => True := by
  refine (Stops.forIn hf b).congr (fun k => ?_) (Nat.zero_mul _) fun _ h => h
  induction xs generalizing k with
  | nil => rfl
  | cons x xs ih =>
    simp only [seqError, Option.none_or]
    exact ih (fun y hy => hf y (List.mem_cons_of_mem x hy)) _

end EmitM.StopsWith

open EmitM

/-! ## Steps that always end normally -/

section Quiet

variable {sc : EmitScope}

/-! Each of the following is a `do` block of steps that end normally, branching on the scope
and on what it computed; it is taken apart step by step and branch by branch. -/

theorem inlineName_stops (n : Name) (field : String) :
    (inlineName n field).StopsWith sc none fun _ => True := by
  unfold inlineName
  dsimp only
  repeat' first
    | exact StopsWith.pure_true
    | exact StopsWith.read
    | exact StopsWith.report
    | refine StopsWith.bind_none (Q := ?_) ?_ fun _ _ => ?_
    | split

theorem inlineAccessor_stops (symbol : String) (symbolSpan : Span) (property : String)
    (propertySpan : Span) :
    (inlineAccessor symbol symbolSpan property propertySpan).StopsWith sc none fun _ => True := by
  unfold inlineAccessor
  dsimp only
  repeat' first
    | exact StopsWith.pure_true
    | exact StopsWith.read
    | exact StopsWith.report
    | refine StopsWith.bind_none (Q := ?_) ?_ fun _ _ => ?_
    | split

theorem inlineValue_stops (sl : Slot) : (inlineValue sl).StopsWith sc none fun _ => True := by
  unfold inlineValue
  split
  case h_5 => exact inlineName_stops _ _
  case h_6 => exact inlineAccessor_stops _ _ _ _
  all_goals first | exact StopsWith.pure_true | (split <;> exact StopsWith.pure_true)

theorem slotInput_stops (sl : Slot) (child : Nat) :
    (slotInput sl child).StopsWith sc none fun _ => True := by
  unfold slotInput
  refine StopsWith.bind_none (inlineValue_stops sl) fun x _ => ?_
  obtain ⟨text, literal, inline⟩ := x
  dsimp only
  repeat' split
  all_goals exact StopsWith.pure_true

/-- What a written node hands back: one id per slot, and per branch as many as it has
statements. -/
def WritesNode (spec : NodeSpec) (r : List Nat × List (List Nat)) : Prop :=
  r.1.length = spec.slots.length ∧ r.2.map List.length = spec.branches.map Prod.snd

theorem writeNode_stopsWith {spec : NodeSpec} (htop : spec.topLevel = false) :
    (writeNode spec).StopsWith sc none (WritesNode spec) := by
  unfold writeNode
  refine StopsWith.bind_none StopsWith.take fun slotIds hslot =>
    StopsWith.bind_none (StopsWith.mapM (g := List.length) (h := Prod.snd) fun _ _ => StopsWith.take)
      fun bodyIds hbody => ?_
  extract_lets branchInputs afterPlace
  -- after the place, the inputs and the block are written and the ids handed back
  have hafter : ∀ y, (afterPlace y).StopsWith sc none (WritesNode spec) := by
    intro y
    dsimp only [afterPlace]
    exact StopsWith.bind_none (StopsWith.mapM (g := fun _ => ()) (h := fun _ => ())
      fun _ _ => (slotInput_stops _ _).imp fun _ _ => rfl) fun _ _ =>
      StopsWith.bind_none StopsWith.push fun _ _ => StopsWith.pure ⟨hslot, hbody⟩
  rw [if_neg (by simp [htop])]
  exact StopsWith.bind_none StopsWith.pure_true fun y _ => hafter y

theorem writeNode_stops {spec : NodeSpec} (htop : spec.topLevel = true) :
    (writeNode spec).Stops sc placeError 1 (WritesNode spec) := by
  unfold writeNode
  refine Stops.none_bind StopsWith.take fun slotIds hslot =>
    Stops.none_bind (StopsWith.mapM (g := List.length) (h := Prod.snd) fun _ _ => StopsWith.take)
      fun bodyIds hbody => ?_
  extract_lets branchInputs afterPlace
  have hafter : ∀ y, (afterPlace y).StopsWith sc none (WritesNode spec) := by
    intro y
    dsimp only [afterPlace]
    exact StopsWith.bind_none (StopsWith.mapM (g := fun _ => ()) (h := fun _ => ())
      fun _ _ => (slotInput_stops _ _).imp fun _ _ => rfl) fun _ _ =>
      StopsWith.bind_none StopsWith.push fun _ _ => StopsWith.pure ⟨hslot, hbody⟩
  rw [if_pos htop]
  exact Stops.bind_none Stops.place fun y _ => hafter y

theorem writeArgument_stops (this parent : Nat) (n : Name) :
    (writeArgument this parent n).StopsWith sc none fun _ => True := by
  have hnode : ∀ value,
      (writeNode { opcode := Opcode.argReporter, id := this, parent, fields := fieldValue "VALUE" value }).StopsWith
        sc none fun _ => True :=
    fun _ => (writeNode_stopsWith rfl).imp fun _ _ => trivial
  unfold writeArgument
  dsimp only
  repeat' first
    | with_reducible exact StopsWith.pure_true
    | with_reducible exact StopsWith.read
    | with_reducible exact StopsWith.report
    | with_reducible exact hnode _
    | refine StopsWith.bind_none (Q := ?_) ?_ fun _ _ => ?_
    | split

theorem assignedVariable_stops (n : Name) :
    (assignedVariable n).StopsWith sc none fun _ => True := by
  unfold assignedVariable
  dsimp only
  repeat' first
    | exact StopsWith.pure_true
    | exact StopsWith.read
    | exact StopsWith.report
    | refine StopsWith.bind_none (Q := ?_) ?_ fun _ _ => ?_
    | split

theorem changedList_stops (n : Name) : (changedList n).StopsWith sc none fun _ => True := by
  unfold changedList
  dsimp only
  repeat' first
    | exact StopsWith.pure_true
    | exact StopsWith.read
    | exact StopsWith.report
    | refine StopsWith.bind_none (Q := ?_) ?_ fun _ _ => ?_
    | split

end Quiet

end BlockGraph.Graph
