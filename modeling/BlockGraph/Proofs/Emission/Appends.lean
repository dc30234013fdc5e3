import BlockGraph.Proofs.Emission.Run

namespace BlockGraph

/-- A finding the bag counts among its warnings: of warning severity or above. -/
def Diagnostic.IsWarning (d : Diagnostic) : Prop := Severity.warning.level ≤ d.severity.level

theorem Diagnostic.error_isWarning (code : Code) (span : Span) (message : String) :
    (Diagnostic.error code span message).IsWarning :=
  Nat.le_succ _

theorem Diagnostic.warning_isWarning (code : Code) (span : Span) (message : String) :
    (Diagnostic.warning code span message).IsWarning :=
  Nat.le_refl _

@[simp] theorem Diagnostic.isWarning_withNote (d : Diagnostic) (span : Span) (message : String) :
    (d.withNote span message).IsWarning ↔ d.IsWarning := Iff.rfl

namespace Graph

open EmitM

/-- An emitted item other than a finding of information: a block, a script's start, or a finding
of warning severity or above. -/
def Emitted.Serious : Emitted → Prop
  | .report d => d.IsWarning
  | _ => True

/-- Every run of `m` leaves what was emitted before it under what it emitted itself, whether it
ends normally or stops at an error, and everything it emitted satisfies `P`. -/
def EmitM.Emits {α : Type} (P : Emitted → Prop) (m : EmitM α) : Prop :=
  ∀ sc s, ∃ new, (m sc s).2.out = new ++ s.out ∧ ∀ x ∈ new, P x

namespace EmitM.Emits

variable {α β γ : Type} {P : Emitted → Prop}

/-- A step that emits nothing. -/
theorem of_out {m : EmitM α} (h : ∀ sc s, (m sc s).2.out = s.out) : m.Emits P :=
  fun sc s => ⟨[], h sc s, by simp⟩

theorem pure {a : α} : (Pure.pure a : EmitM α).Emits P := of_out fun _ _ => rfl

theorem bind {m : EmitM α} {f : α → EmitM β} (hm : m.Emits P) (hf : ∀ a, (f a).Emits P) :
    (m >>= f).Emits P := by
  intro sc s
  obtain ⟨new₁, e₁, h₁⟩ := hm sc s
  rw [bind_apply]
  rcases hrun : m sc s with ⟨e | a, s₁⟩
  · rw [hrun] at e₁
    exact ⟨new₁, e₁, h₁⟩
  · rw [hrun] at e₁
    obtain ⟨new₂, e₂, h₂⟩ := hf a sc s₁
    refine ⟨new₂ ++ new₁, by rw [e₂, e₁, List.append_assoc], fun x hx => ?_⟩
    rcases List.mem_append.1 hx with hx | hx
    · exact h₂ x hx
    · exact h₁ x hx

theorem read : (read : EmitM EmitScope).Emits P := of_out fun _ _ => rfl

theorem error {e : EmitError} : (throw e : EmitM α).Emits P := of_out fun _ _ => rfl

theorem withReader {f : EmitScope → EmitScope} {m : EmitM α} (h : m.Emits P) :
    (withReader f m).Emits P :=
  fun sc s => h (f sc) s

theorem fresh : (fresh : EmitM Nat).Emits P := of_out fun _ _ => rfl

theorem take (n : Nat) : (take n).Emits P := of_out fun _ _ => rfl

theorem place : (place : EmitM Nat).Emits P := by
  refine of_out fun sc s => ?_
  by_cases hfit : s.scripts * 400 > maxPlace
  · have hget : (get : EmitM EmitState) sc s = (.ok s, s) := rfl
    have hplace : EmitM.place sc s = (.error (.layout (s.scripts * 400)), s) := by
      simp only [EmitM.place, bind_apply, hget, if_pos hfit]
      rfl
    rw [hplace]
  · have hplace : EmitM.place sc s = (.ok (s.scripts * 400), { s with scripts := s.scripts + 1 }) :=
      runs_place.2 ⟨Nat.le_of_not_lt hfit, rfl, rfl⟩
    rw [hplace]

theorem push {x : Emitted} (hx : P x) : (push x).Emits P :=
  fun _ s => ⟨[x], rfl, by simpa using hx⟩

theorem mapM {f : γ → EmitM α} (hf : ∀ x, (f x).Emits P) (xs : List γ) : (xs.mapM f).Emits P := by
  induction xs with
  | nil =>
    rw [List.mapM_nil]
    exact pure
  | cons x xs ih =>
    rw [List.mapM_cons]
    exact (hf x).bind fun _ => ih.bind fun _ => pure

theorem foldlM {f : β → γ → EmitM β} (hf : ∀ b x, (f b x).Emits P) (xs : List γ) :
    ∀ b : β, (xs.foldlM f b).Emits P := by
  induction xs with
  | nil =>
    intro b
    rw [List.foldlM_nil]
    exact pure
  | cons x xs ih =>
    intro b
    rw [List.foldlM_cons]
    exact (hf b x).bind ih

theorem forIn {f : γ → β → EmitM (ForInStep β)} (hf : ∀ x b, (f x b).Emits P) (xs : List γ) :
    ∀ b : β, (forIn xs b f).Emits P := by
  induction xs with
  | nil =>
    intro b
    rw [List.forIn_nil]
    exact pure
  | cons x xs ih =>
    intro b
    rw [List.forIn_cons]
    refine (hf x b).bind fun step => ?_
    cases step with
    | done b' => exact pure
    | yield b' => exact ih b'

theorem push_block (b : Block) : (EmitM.push (.block b)).Emits Emitted.Serious := push trivial

/-- Reporting a finding of warning severity or above. -/
theorem report_serious {d : Diagnostic} (hd : d.IsWarning) : (EmitM.report d).Emits Emitted.Serious :=
  push hd

/-- A guard `if c then throw e` before `m`. -/
theorem guard {c : Prop} [Decidable c] {e : EmitError} {m : EmitM α} (hm : m.Emits P) :
    (if c then (throw e : EmitM PUnit) >>= (fun _ => m) else m).Emits P := by
  split
  · exact error.bind fun _ => hm
  · exact hm

end EmitM.Emits

/-- `m` takes back nothing that was emitted: a run ends with what was emitted before it under
what it emitted itself. -/
def EmitM.Appends {α : Type} (m : EmitM α) : Prop :=
  ∀ ⦃sc s a s'⦄, m.Runs sc s a s' → ∃ new, s'.out = new ++ s.out

theorem EmitM.Emits.appends {α : Type} {P : Emitted → Prop} {m : EmitM α} (hm : m.Emits P) :
    m.Appends := by
  intro sc s a s' h
  obtain ⟨new, e, -⟩ := hm sc s
  rw [show m sc s = (.ok a, s') from h] at e
  exact ⟨new, e⟩

/-- What a run adds to the blocks comes after the blocks before it. -/
theorem EmitM.Appends.blocks {α : Type} {m : EmitM α} (hm : m.Appends) {sc : EmitScope}
    {s s' : EmitState} {a : α} (h : m.Runs sc s a s') : ∃ B, s'.blocks = s.blocks ++ B := by
  obtain ⟨new, e⟩ := hm h
  exact ⟨new.reverse.filterMap Emitted.block?, by
    simp only [EmitState.blocks, e, List.reverse_append, List.filterMap_append]⟩

/-! ## Emission reports warnings and errors only -/

theorem inlineName_serious (n : Name) (field : String) : (inlineName n field).Emits Emitted.Serious := by
  unfold inlineName
  dsimp only
  repeat' first
    | with_reducible exact Emits.pure
    | with_reducible exact Emits.read
    | with_reducible refine Emits.report_serious ?_
    | exact Diagnostic.error_isWarning _ _ _
    | exact Diagnostic.warning_isWarning _ _ _
    | rw [Diagnostic.isWarning_withNote]
    | with_reducible refine Emits.bind ?_ fun _ => ?_
    | split
    | dsimp only

theorem inlineAccessor_serious (symbol : String) (symbolSpan : Span) (property : String)
    (propertySpan : Span) : (inlineAccessor symbol symbolSpan property propertySpan).Emits Emitted.Serious := by
  unfold inlineAccessor
  dsimp only
  repeat' first
    | with_reducible exact Emits.pure
    | with_reducible exact Emits.read
    | with_reducible refine Emits.report_serious ?_
    | exact Diagnostic.error_isWarning _ _ _
    | exact Diagnostic.warning_isWarning _ _ _
    | rw [Diagnostic.isWarning_withNote]
    | with_reducible refine Emits.bind ?_ fun _ => ?_
    | split
    | dsimp only

theorem inlineValue_serious (sl : Slot) : (inlineValue sl).Emits Emitted.Serious := by
  unfold inlineValue
  repeat' first
    | with_reducible exact Emits.pure
    | with_reducible exact inlineName_serious _ _
    | with_reducible exact inlineAccessor_serious _ _ _ _
    | split
    | dsimp only

theorem slotInput_serious (sl : Slot) (child : Nat) : (slotInput sl child).Emits Emitted.Serious := by
  unfold slotInput
  refine (inlineValue_serious sl).bind fun _ => ?_
  repeat' first
    | with_reducible exact Emits.pure
    | split
    | dsimp only

theorem writeNode_serious (spec : NodeSpec) : (writeNode spec).Emits Emitted.Serious := by
  unfold writeNode
  dsimp only
  repeat' first
    | with_reducible exact Emits.pure
    | with_reducible exact Emits.take _
    | with_reducible exact Emits.place
    | with_reducible exact Emits.push_block _
    | with_reducible exact slotInput_serious _ _
    | with_reducible refine Emits.mapM (fun _ => ?_) _
    | with_reducible refine Emits.bind ?_ fun _ => ?_
    | split
    | dsimp only

theorem writeArgument_serious (this parent : Nat) (n : Name) : (writeArgument this parent n).Emits Emitted.Serious := by
  unfold writeArgument
  dsimp only
  repeat' first
    | with_reducible exact Emits.pure
    | with_reducible exact Emits.read
    | with_reducible refine Emits.report_serious ?_
    | exact Diagnostic.error_isWarning _ _ _
    | exact Diagnostic.warning_isWarning _ _ _
    | rw [Diagnostic.isWarning_withNote]
    | with_reducible exact writeNode_serious _
    | with_reducible refine Emits.bind ?_ fun _ => ?_
    | split
    | dsimp only

theorem writePrimitive_serious (p : Primitive) (this parent next : Nat) (args : List Expr)
    (span : Span) : (writePrimitive p this parent next args span).Emits Emitted.Serious := by
  unfold writePrimitive
  refine Emits.guard (Emits.guard ?_)
  refine (Emits.take _).bind fun argIds => ?_
  extract_lets afterMenuId
  -- whether or not the menu's selector takes an id, the inputs, the block and the selector follow
  have hafter : ∀ menuId, (afterMenuId menuId).Emits Emitted.Serious := by
    intro menuId
    dsimp only [afterMenuId]
    refine (Emits.foldlM (fun acc x => ?_) _ _).bind fun r => ?_
    · obtain ⟨⟨slotName, arg⟩, argId⟩ := x
      obtain ⟨inputs, menuValue⟩ := acc
      dsimp only
      split
      · exact (slotInput_serious _ _).bind fun _ => Emits.pure
      · split
        · exact Emits.pure
        · exact (inlineValue_serious _).bind fun _ => Emits.pure
    · obtain ⟨inputs, menuValue⟩ := r
      refine (Emits.push trivial).bind fun _ => ?_
      split
      · repeat' split
        all_goals first
          | exact Emits.pure.bind fun _ => (writeNode_serious _).bind fun _ => Emits.pure
          | exact (Emits.report_serious (Diagnostic.warning_isWarning _ _ _)).bind fun _ =>
              Emits.pure.bind fun _ => (writeNode_serious _).bind fun _ => Emits.pure
      · exact Emits.pure
  split
  · exact Emits.fresh.bind hafter
  · exact Emits.pure.bind hafter

theorem emitExpr_args_serious :
    (∀ field this parent e, (emitExpr field this parent e).Emits Emitted.Serious) ∧
    ∀ p used this slots args ids, (emitPrimitiveArgs p used this slots args ids).Emits Emitted.Serious := by
  refine emitExpr.mutual_induct
    (fun field this parent e => (emitExpr field this parent e).Emits Emitted.Serious)
    (fun p used this slots args ids => (emitPrimitiveArgs p used this slots args ids).Emits Emitted.Serious)
    ?int ?float ?str ?name ?accessor ?arg ?repr ?sugar ?unop ?binop ?argsEmit ?argsSkip ?argsEnd
  case int | float | str => intro _ _ _ _ _; simp only [emitExpr]; exact Emits.pure
  case name => intro _ _ _ _; simp only [emitExpr]; exact Emits.pure
  case accessor => intro _ _ _ _ _ _ _; simp only [emitExpr]; exact Emits.pure
  case arg =>
    intro field this parent n
    simp only [emitExpr]
    exact writeArgument_serious _ _ _
  case repr =>
    intro field this parent p args span ih
    simp only [emitExpr]
    exact (writePrimitive_serious p this parent 0 args span).bind fun r => ih r.1 r.2
  case sugar =>
    intro field this parent op operand span hsugar ih
    simp only [emitExpr]
    rw [if_pos hsugar]
    exact Emits.error.bind fun _ => (writeNode_serious _).bind fun r => ih r.1
  case unop =>
    intro field this parent op operand span hsugar ih
    simp only [emitExpr]
    rw [if_neg hsugar]
    exact (writeNode_serious _).bind fun r => ih r.1
  case binop =>
    intro field this parent op lhs rhs span ihIndex ihl ihr
    simp only [emitExpr]
    refine Emits.read.bind fun sc => ?_
    split
    · exact (writeNode_serious _).bind fun r => ihIndex r.1
    · refine Emits.guard ((writeNode_serious _).bind fun r => ?_)
      exact (ihl r.1).bind fun _ => ihr r.1
  case argsEmit =>
    intro p used this slot slots arg args id ids hemit ihs iha
    simp only [emitPrimitiveArgs, hemit, if_true]
    exact iha.bind fun _ => ihs
  case argsSkip =>
    intro p used this slot slots arg args id ids hskip ihs
    simp only [emitPrimitiveArgs, hskip]
    exact ihs
  case argsEnd =>
    intro xs p used this slots ids hend
    have hpure : emitPrimitiveArgs p used this slots xs ids = Pure.pure () := by
      rcases slots with _ | ⟨slot, slots⟩
      · simp only [emitPrimitiveArgs]
      rcases xs with _ | ⟨arg, args⟩
      · simp only [emitPrimitiveArgs]
      rcases ids with _ | ⟨id, ids⟩
      · simp only [emitPrimitiveArgs]
      exact (hend slot slots arg args id ids rfl rfl rfl).elim
    rw [hpure]
    exact Emits.pure

theorem emitSlotValue_serious (field : String) (this parent : Nat) (v : Option Expr) :
    (emitSlotValue field this parent v).Emits Emitted.Serious := by
  cases v with
  | none => exact Emits.pure
  | some e => exact emitExpr_args_serious.1 field this parent e

theorem emitSlots_serious (parent : Nat) (sls : List Slot) :
    ∀ ids : List Nat, (emitSlots parent sls ids).Emits Emitted.Serious := by
  induction sls with
  | nil =>
    intro ids
    simp only [emitSlots]
    exact Emits.pure
  | cons sl sls ih =>
    intro ids
    cases ids with
    | nil =>
      simp only [emitSlots]
      exact Emits.pure
    | cons id ids =>
      rw [emitSlots]
      exact (emitSlotValue_serious _ _ _ _).bind fun _ => ih ids

theorem writeWithSlots_serious (spec : NodeSpec) : (writeWithSlots spec).Emits Emitted.Serious :=
  (writeNode_serious spec).bind fun r => emitSlots_serious _ _ r.1

theorem assignedVariable_serious (n : Name) : (assignedVariable n).Emits Emitted.Serious := by
  unfold assignedVariable
  dsimp only
  repeat' first
    | with_reducible exact Emits.pure
    | with_reducible exact Emits.read
    | with_reducible refine Emits.report_serious ?_
    | exact Diagnostic.error_isWarning _ _ _
    | exact Diagnostic.warning_isWarning _ _ _
    | rw [Diagnostic.isWarning_withNote]
    | with_reducible refine Emits.bind ?_ fun _ => ?_
    | split
    | dsimp only

theorem changedList_serious (n : Name) : (changedList n).Emits Emitted.Serious := by
  unfold changedList
  dsimp only
  repeat' first
    | with_reducible exact Emits.pure
    | with_reducible exact Emits.read
    | with_reducible refine Emits.report_serious ?_
    | exact Diagnostic.error_isWarning _ _ _
    | exact Diagnostic.warning_isWarning _ _ _
    | rw [Diagnostic.isWarning_withNote]
    | with_reducible refine Emits.bind ?_ fun _ => ?_
    | split
    | dsimp only

theorem emitListChange_serious (link : Link) (span : Span) (name : Name) (op : Option BinOp)
    (index value : Option Expr) : (emitListChange link span name op index value).Emits Emitted.Serious := by
  unfold emitListChange
  split
  · refine Emits.guard ?_
    exact (changedList_serious _).bind fun _ => Emits.fresh.bind fun _ => Emits.fresh.bind fun _ =>
      (slotInput_serious _ _).bind fun _ => (Emits.push trivial).bind fun _ =>
      (emitSlotValue_serious _ _ _ _).bind fun _ => Emits.fresh.bind fun _ => Emits.fresh.bind fun _ =>
      (slotInput_serious _ _).bind fun _ => (Emits.push trivial).bind fun _ =>
      (writeWithSlots_serious _).bind fun _ => emitSlotValue_serious _ _ _ _
  · exact Emits.error

theorem emitStmt_chain_serious :
    (∀ link st, (emitStmt link st).Emits Emitted.Serious) ∧ (∀ sts ids parent, (emitBody sts ids parent).Emits Emitted.Serious) ∧
      ∀ sts ids parent, (emitChain sts ids parent).Emits Emitted.Serious := by
  refine And.imp id (fun h => ⟨h, h⟩) <| emitStmt.mutual_induct
    (fun link st => (emitStmt link st).Emits Emitted.Serious)
    (fun sts ids parent => (emitChain sts ids parent).Emits Emitted.Serious)
    ?repeatTimes ?forever ?branch ?repeatUntil ?setVar ?setField ?changeVar ?showData ?hideData
    ?listAdd ?listDelete ?listDeleteAll ?listInsert ?listSet ?listChange ?block ?procCall
    ?chainCons ?chainEnd
  case chainCons =>
    intro st sts id ids parent ihst ihsts
    rw [emitChain]
    exact ihst.bind fun _ => ihsts
  case chainEnd =>
    intro sts ids parent hend
    have hpure : emitChain sts ids parent = Pure.pure () := by
      rcases sts with _ | ⟨st, sts⟩
      · simp only [emitChain]
      rcases ids with _ | ⟨id, ids⟩
      · simp only [emitChain]
      exact (hend st sts id ids rfl rfl).elim
    rw [hpure]
    exact Emits.pure
  case repeatTimes | repeatUntil =>
    intro link span name type isLocal value index times cond op body orElse command proc args ih
    simp only [emitStmt]
    exact (writeNode_serious _).bind fun r => (emitSlotValue_serious _ _ _ _).bind fun _ => ih r.2
  case forever =>
    intro link span name type isLocal value index times cond op body orElse command proc args ih
    simp only [emitStmt]
    exact (writeNode_serious _).bind fun r => ih r.2
  case branch =>
    intro link span name type isLocal value index times cond op body orElse command proc args ih
      ihElse
    simp only [emitStmt]
    refine (writeNode_serious _).bind fun r => (emitSlotValue_serious _ _ _ _).bind fun _ =>
      (ih r.2).bind fun _ => ?_
    split
    · exact ihElse r.2
    · exact Emits.pure
  case setVar | setField | changeVar =>
    intro link span name type isLocal value index times cond op body orElse command proc args
    simp only [emitStmt]
    exact (assignedVariable_serious _).bind fun _ => writeWithSlots_serious _
  case showData | hideData =>
    intro link span name type isLocal value index times cond op body orElse command proc args
    simp only [emitStmt]
    refine Emits.read.bind fun sc => ?_
    repeat' first
      | with_reducible exact Emits.pure
      | with_reducible refine Emits.report_serious ?_
      | exact Diagnostic.error_isWarning _ _ _
      | exact Diagnostic.warning_isWarning _ _ _
      | rw [Diagnostic.isWarning_withNote]
      | with_reducible exact writeNode_serious _
      | with_reducible refine Emits.bind ?_ fun _ => ?_
      | split
      | dsimp only
  case listAdd | listDelete | listDeleteAll | listInsert | listSet =>
    intro link span name type isLocal value index times cond op body orElse command proc args
    simp only [emitStmt]
    exact (changedList_serious _).bind fun _ => writeWithSlots_serious _
  case listChange =>
    intro link span name type isLocal value index times cond op body orElse command proc args
    simp only [emitStmt]
    exact emitListChange_serious _ _ _ _ _ _
  case block =>
    intro link span name type isLocal value index times cond op body orElse command proc args
    simp only [emitStmt]
    exact (writePrimitive_serious _ _ _ _ _ _).bind fun r =>
      emitExpr_args_serious.2 _ _ _ _ _ _
  case procCall =>
    intro link span name type isLocal value index times cond op body orElse command proc args
    simp only [emitStmt]
    refine Emits.read.bind fun sc => ?_
    repeat' first
      | with_reducible exact Emits.pure
      | with_reducible refine Emits.report_serious ?_
      | exact Diagnostic.error_isWarning _ _ _
      | exact Diagnostic.warning_isWarning _ _ _
      | rw [Diagnostic.isWarning_withNote]
      | with_reducible exact writeNode_serious _
      | with_reducible exact writeWithSlots_serious _
      | with_reducible refine Emits.bind ?_ fun _ => ?_
      | split
      | dsimp only

theorem emitProcDef_serious (p : Proc) : (emitProcDef p).Emits Emitted.Serious := by
  unfold emitProcDef
  refine Emits.withReader (Emits.read.bind fun sc => ?_)
  refine Emits.fresh.bind fun _ => (Emits.push trivial).bind fun _ => Emits.fresh.bind fun _ =>
    (Emits.take _).bind fun _ => (Emits.take _).bind fun _ => Emits.place.bind fun _ =>
    (Emits.push trivial).bind fun _ => (Emits.push trivial).bind fun _ => ?_
  refine (Emits.forIn (fun x _ => ?_) _ _).bind fun _ => emitStmt_chain_serious.2.1 _ _ _
  exact (writeNode_serious _).bind fun _ => Emits.pure

theorem emitScript_serious (opcode fields : String) (stmts : List Stmt) :
    (emitScript opcode fields stmts).Emits Emitted.Serious := by
  unfold emitScript
  exact Emits.fresh.bind fun _ => (Emits.push trivial).bind fun _ => (Emits.take _).bind fun _ =>
    (writeNode_serious _).bind fun _ => emitStmt_chain_serious.2.1 _ _ _

theorem emitEvent_serious (ev : Event) : (emitEvent ev).Emits Emitted.Serious := by
  unfold emitEvent
  exact Emits.guard (emitScript_serious _ _ _)

theorem emitScripts_serious (t : Sprite) : (emitScripts t).Emits Emitted.Serious := by
  unfold emitScripts
  exact (Emits.forIn (fun ev _ => (emitEvent_serious ev).bind fun _ => Emits.pure) _ _).bind fun _ =>
    (Emits.forIn (fun h _ => (emitScript_serious _ _ _).bind fun _ => Emits.pure) _ _).bind fun _ =>
    (Emits.forIn (fun p _ => (emitProcDef_serious p).bind fun _ => Emits.pure) _ _).bind fun _ => Emits.pure

/-- Everything a target's run emits is a block, a script's start or a finding of warning
severity or above, whether the run completes or stops at an error. -/
theorem TargetRun.emit_serious (project : Project) (messages : List String) (sprite : Sprite)
    (last : Nat) (comma : Bool) :
    ∀ x ∈ (TargetRun.emit project messages sprite last comma).1.emitted, x.Serious := by
  unfold TargetRun.emit
  generalize (if sprite.isStage then none else some project.stage) = stage
  dsimp only
  obtain ⟨new, hout, hnew⟩ := emitScripts_serious sprite { sprite, stage } { last }
  rcases hrun : StateT.run (ReaderT.run (emitScripts sprite) { sprite, stage }).run { last } with
    ⟨result, st⟩
  have hst : st.out = new := by
    have h : (emitScripts sprite { sprite, stage } { last }).2 = st := congrArg Prod.snd hrun
    rw [h] at hout
    simpa using hout
  intro x hx
  cases result <;> simpa [hst] using hnew x (by simpa [hst] using hx)

end Graph

end BlockGraph
