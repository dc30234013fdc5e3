import BlockGraph.Proofs.Resolve.Normal
import BlockGraph.Proofs.Program.Compiled

namespace BlockGraph.Graph

/-- Every error with which `m` can stop, in any scope and from any state, satisfies `P`. -/
def EmitM.Throws {α : Type} (m : EmitM α) (P : EmitError → Prop) : Prop :=
  ∀ sc s e s', (m sc s : Except EmitError α × EmitState) = (.error e, s') → P e

namespace EmitM.Throws

variable {α β : Type} {P : EmitError → Prop}

theorem pure {a : α} : (Pure.pure a : EmitM α).Throws P := by
  intro sc s e s' h
  cases h

theorem error {e : EmitError} (h : P e) : (throw e : EmitM α).Throws P := by
  intro sc s e' s' he
  cases he
  exact h

theorem bind {m : EmitM α} {f : α → EmitM β} (hm : m.Throws P) (hf : ∀ a, (f a).Throws P) :
    (m >>= f).Throws P := by
  intro sc s e s' h
  rw [bind_apply] at h
  rcases hrun : m sc s with ⟨_ | a, s₁⟩ <;> rw [hrun] at h
  · cases h
    exact hm sc s _ _ hrun
  · exact hf a sc s₁ e s' h

theorem read : (read : EmitM EmitScope).Throws P := by
  intro sc s e s' h
  cases h

theorem modifyGet {f : EmitState → α × EmitState} : (modifyGet f : EmitM α).Throws P := by
  intro sc s e s' h
  rw [modifyGet_apply] at h
  cases h

theorem modify {f : EmitState → EmitState} : (modify f : EmitM Unit).Throws P := by
  intro sc s e s' h
  cases h

theorem withReader {f : EmitScope → EmitScope} {m : EmitM α} (h : m.Throws P) :
    (withReader f m).Throws P :=
  fun sc => h (f sc)

/-- A guard `if c then throw e` before `m`: its error satisfies `P`, and so do those of `m`. -/
theorem guard {c : Prop} [Decidable c] {e : EmitError} {m : EmitM α} (he : P e)
    (hm : m.Throws P) : (if c then (throw e : EmitM PUnit) >>= (fun _ => m) else m).Throws P := by
  split
  · exact (error he).bind fun _ => hm
  · exact hm

theorem mapM {γ : Type} {f : γ → EmitM α} :
    ∀ {xs : List γ}, (∀ x ∈ xs, (f x).Throws P) → (xs.mapM f).Throws P
  | [], _ => by
    rw [List.mapM_nil]
    exact pure
  | x :: xs, hf => by
    rw [List.mapM_cons]
    exact (hf x List.mem_cons_self).bind fun _ =>
      (mapM fun y hy => hf y (List.mem_cons_of_mem x hy)).bind fun _ => pure

theorem foldlM {γ : Type} {f : β → γ → EmitM β} :
    ∀ {xs : List γ} {b : β}, (∀ b, ∀ x ∈ xs, (f b x).Throws P) → (xs.foldlM f b).Throws P
  | [], _, _ => by
    rw [List.foldlM_nil]
    exact pure
  | x :: xs, b, hf => by
    rw [List.foldlM_cons]
    exact (hf b x List.mem_cons_self).bind fun b' =>
      foldlM fun b'' y hy => hf b'' y (List.mem_cons_of_mem x hy)

theorem forIn {γ : Type} {f : γ → β → EmitM (ForInStep β)} :
    ∀ {xs : List γ} {b : β}, (∀ x ∈ xs, ∀ b, (f x b).Throws P) → (forIn xs b f).Throws P
  | [], _, _ => by
    rw [List.forIn_nil]
    exact pure
  | x :: xs, b, hf => by
    rw [List.forIn_cons]
    refine (hf x List.mem_cons_self b).bind fun step => ?_
    cases step with
    | done b' => exact pure
    | yield b' => exact forIn fun y hy => hf y (List.mem_cons_of_mem x hy)

end EmitM.Throws

open EmitM

/-! ## Steps that throw nothing -/

section Total

variable {P : EmitError → Prop}

theorem fresh_throws : (fresh : EmitM Nat).Throws P := Throws.modifyGet

theorem take_throws (n : Nat) : (take n).Throws P := Throws.modifyGet

theorem push_throws (e : Emitted) : (push e).Throws P := Throws.modify

theorem report_throws (d : Diagnostic) : (report d).Throws P := Throws.modify

theorem place_throws (hlayout : ∀ y, P (.layout y)) : (place : EmitM Nat).Throws P := by
  intro sc s e s' h
  by_cases hfit : s.scripts * 400 > maxPlace
  · have hplace : EmitM.place sc s = (.error (.layout (s.scripts * 400)), s) := by
      have hget : (get : EmitM EmitState) sc s = (.ok s, s) := rfl
      simp only [EmitM.place, bind_apply, hget, if_pos hfit]
      rfl
    rw [hplace] at h
    cases h
    exact hlayout _
  · have hrun' : EmitM.place sc s = (.ok (s.scripts * 400), { s with scripts := s.scripts + 1 }) :=
      runs_place.2 ⟨Nat.le_of_not_lt hfit, rfl, rfl⟩
    rw [hrun'] at h
    cases h

theorem report_bind_throws {d : Diagnostic} {f : Unit → EmitM α} (h : (f ()).Throws P) :
    (report d >>= f).Throws P :=
  (report_throws d).bind fun _ => h

/-! Each of the following is a `do` block of steps that throw nothing, branching on the scope
and on what it computed; it is taken apart step by step and branch by branch. -/

theorem inlineName_throws (n : Name) (field : String) : (inlineName n field).Throws P := by
  unfold inlineName
  dsimp only
  repeat' first
    | with_reducible exact Throws.pure
    | with_reducible exact Throws.read
    | with_reducible exact report_throws _
    | with_reducible refine Throws.bind ?_ fun _ => ?_
    | split

theorem inlineAccessor_throws (symbol : String) (symbolSpan : Span) (property : String)
    (propertySpan : Span) : (inlineAccessor symbol symbolSpan property propertySpan).Throws P := by
  unfold inlineAccessor
  dsimp only
  repeat' first
    | with_reducible exact Throws.pure
    | with_reducible exact Throws.read
    | with_reducible exact report_throws _
    | with_reducible refine Throws.bind ?_ fun _ => ?_
    | split

theorem inlineValue_throws (sl : Slot) : (inlineValue sl).Throws P := by
  unfold inlineValue
  split
  case h_5 => exact inlineName_throws _ _
  case h_6 => exact inlineAccessor_throws _ _ _ _
  all_goals first | exact Throws.pure | (split <;> exact Throws.pure)

theorem slotInput_throws (sl : Slot) (child : Nat) : (slotInput sl child).Throws P := by
  unfold slotInput
  refine (inlineValue_throws sl).bind fun x => ?_
  obtain ⟨text, literal, inline⟩ := x
  dsimp only
  repeat' split
  all_goals exact Throws.pure

theorem writeNode_throws (hlayout : ∀ y, P (.layout y)) (spec : NodeSpec) :
    (writeNode spec).Throws P := by
  unfold writeNode
  dsimp only
  repeat' first
    | with_reducible exact Throws.pure
    | with_reducible exact take_throws _
    | with_reducible exact place_throws hlayout
    | with_reducible exact push_throws _
    | with_reducible exact slotInput_throws _ _
    | with_reducible refine Throws.mapM fun _ _ => ?_
    | with_reducible refine Throws.bind ?_ fun _ => ?_
    | split

theorem writeArgument_throws (hlayout : ∀ y, P (.layout y)) (this parent : Nat) (n : Name) :
    (writeArgument this parent n).Throws P := by
  unfold writeArgument
  dsimp only
  repeat' first
    | with_reducible exact Throws.pure
    | with_reducible exact Throws.read
    | with_reducible exact report_throws _
    | with_reducible exact writeNode_throws hlayout _
    | with_reducible refine Throws.bind ?_ fun _ => ?_
    | split

theorem assignedVariable_throws (n : Name) : (assignedVariable n).Throws P := by
  unfold assignedVariable
  dsimp only
  repeat' first
    | with_reducible exact Throws.pure
    | with_reducible exact Throws.read
    | with_reducible exact report_throws _
    | with_reducible refine Throws.bind ?_ fun _ => ?_
    | split

theorem changedList_throws (n : Name) : (changedList n).Throws P := by
  unfold changedList
  dsimp only
  repeat' first
    | with_reducible exact Throws.pure
    | with_reducible exact Throws.read
    | with_reducible exact report_throws _
    | with_reducible refine Throws.bind ?_ fun _ => ?_
    | split

end Total

/-! ## Operators left unrewritten -/

/-- The message of the internal error for an operator that has no block. -/
def unrewrittenMessage : String := "operator must be rewritten before code generation"

theorem unwritableOperator_message (what : String) (span : Span) :
    (unwritableOperator what span).message = unrewrittenMessage := rfl

/-- An emission error other than an operator left without a block. -/
def EmitError.NotUnrewritten : EmitError → Prop
  | .internal e => e.message ≠ unrewrittenMessage
  | .layout _ => True

@[simp] theorem EmitError.notUnrewritten_internal (e : InternalError) :
    (EmitError.internal e).NotUnrewritten ↔ e.message ≠ unrewrittenMessage := Iff.rfl

theorem EmitError.notUnrewritten_layout (y : Nat) : (EmitError.layout y).NotUnrewritten := trivial

theorem writeNode_rewritten (spec : NodeSpec) : (writeNode spec).Throws EmitError.NotUnrewritten :=
  writeNode_throws EmitError.notUnrewritten_layout spec

/-- The message of a primitive given the wrong number of arguments starts with a digit, that of
an unrewritten operator with a letter. -/
theorem arity_message_ne (given wanted : Nat) :
    toString given ++ " arguments, want " ++ toString wanted ≠ unrewrittenMessage := by
  intro h
  obtain ⟨d, ds, hds⟩ := List.exists_cons_of_ne_nil (Nat.toDigits_ne_nil (n := given) (b := 10))
  have hd : d.isDigit = true :=
    Nat.isDigit_of_mem_toDigits (by decide) (by decide) (hds ▸ List.mem_cons_self)
  have hfirst : (toString given ++ " arguments, want " ++ toString wanted).toList.head? = some d := by
    simp [String.toList_append, Nat.toList_repr, hds]
  have hletter : unrewrittenMessage.toList.head? = some 'o' := by decide
  rw [h, hletter] at hfirst
  cases hfirst
  exact absurd hd (by decide)

/-- A primitive is refused only for its opcode or its number of arguments. -/
theorem writePrimitive_throws (p : Primitive) (this parent next : Nat) (args : List Expr)
    (span : Span) :
    (writePrimitive p this parent next args span).Throws EmitError.NotUnrewritten := by
  unfold writePrimitive
  refine Throws.guard (by simp [unrewrittenMessage, missingOpcode]) (Throws.guard (arity_message_ne _ _) ?_)
  refine (take_throws _).bind fun argIds => ?_
  extract_lets afterMenuId
  -- whether or not the menu's selector takes an id, the inputs, the block and the selector follow
  have hafter : ∀ menuId, (afterMenuId menuId).Throws EmitError.NotUnrewritten := by
    intro menuId
    dsimp only [afterMenuId]
    refine (Throws.foldlM fun acc x _ => ?_).bind fun r => ?_
    · obtain ⟨⟨slotName, arg⟩, argId⟩ := x
      obtain ⟨inputs, menuValue⟩ := acc
      dsimp only
      split
      · exact (slotInput_throws _ _).bind fun _ => Throws.pure
      · split
        · exact Throws.pure
        · refine (inlineValue_throws _).bind fun y => ?_
          obtain ⟨text, literal, inline⟩ := y
          exact Throws.pure
    · obtain ⟨inputs, menuValue⟩ := r
      refine (push_throws _).bind fun _ => ?_
      split
      · -- the selector, of the literal option if the menu accepts it, else of its default
        repeat' split
        all_goals first
          | exact Throws.pure.bind fun _ => (writeNode_rewritten _).bind fun _ => Throws.pure
          | exact report_bind_throws
              (Throws.pure.bind fun _ => (writeNode_rewritten _).bind fun _ => Throws.pure)
      · exact Throws.pure
  split
  · exact fresh_throws.bind hafter
  · exact Throws.pure.bind hafter

theorem UnOp.not_unwritable {op : UnOp} (h : op.isSugar = false) :
    ¬(op.isSugar || op.opcode == "") = true := by
  cases op <;> simp_all [UnOp.opcode, UnOp.isSugar]

theorem BinOp.not_unwritable {op : BinOp} (h : op.isSugar = false) :
    ¬(op.isSugar || op.opcode == "") = true := by
  cases op <;> simp_all [BinOp.opcode, BinOp.isSugar]

theorem Expr.normal_unop {op : UnOp} {o : Expr} {span : Span}
    (h : (Expr.unop op o span).normal = true) : op.isSugar = false ∧ o.normal = true := by
  cases op <;> simp_all [Expr.normal, UnOp.isSugar]

theorem Expr.normal_binop {op : BinOp} {l r : Expr} {span : Span}
    (h : (Expr.binop op l r span).normal = true) :
    op.isSugar = false ∧ l.normal = true ∧ r.normal = true := by
  simp only [Expr.normal, Bool.and_eq_true, Bool.not_eq_true'] at h
  exact ⟨h.1.1.1, h.1.2, h.2⟩

/-- Emitting a normal expression never meets an operator without a block; the arguments of a
primitive, likewise. -/
theorem emitExpr_args_throws :
    (∀ field this parent e, e.normal = true →
      (emitExpr field this parent e).Throws EmitError.NotUnrewritten) ∧
    ∀ p used this slots args ids, Expr.allNormal args = true →
      (emitPrimitiveArgs p used this slots args ids).Throws EmitError.NotUnrewritten := by
  refine emitExpr.mutual_induct
    (fun field this parent e => e.normal = true →
      (emitExpr field this parent e).Throws EmitError.NotUnrewritten)
    (fun p used this slots args ids => Expr.allNormal args = true →
      (emitPrimitiveArgs p used this slots args ids).Throws EmitError.NotUnrewritten)
    ?int ?float ?str ?name ?accessor ?arg ?repr ?sugar ?unop ?binop ?argsEmit ?argsSkip ?argsEnd
  case int | float | str => intro _ _ _ _ _ _; simp only [emitExpr]; exact Throws.pure
  case name => intro _ _ _ _ _; simp only [emitExpr]; exact Throws.pure
  case accessor => intro _ _ _ _ _ _ _ _; simp only [emitExpr]; exact Throws.pure
  case arg =>
    intro field this parent n _
    simp only [emitExpr]
    exact writeArgument_throws EmitError.notUnrewritten_layout _ _ _
  case repr =>
    intro field this parent p args span ih hn
    simp only [emitExpr]
    refine (writePrimitive_throws p this parent 0 args span).bind fun r => ?_
    obtain ⟨argIds, used⟩ := r
    exact ih argIds used hn
  case sugar =>
    intro field this parent op operand span hsugar _ hn
    exact absurd hsugar (UnOp.not_unwritable (Expr.normal_unop hn).1)
  case unop =>
    intro field this parent op operand span hsugar ih hn
    simp only [emitExpr]
    rw [if_neg hsugar]
    refine (writeNode_rewritten _).bind fun r => ?_
    obtain ⟨ids, _⟩ := r
    exact ih ids (Expr.normal_unop hn).2
  case binop =>
    intro field this parent op lhs rhs span ihIndex ihl ihr hn
    obtain ⟨hsugar, hl, hr⟩ := Expr.normal_binop hn
    simp only [emitExpr]
    refine Throws.read.bind fun sc => ?_
    split
    · -- the item of a list: its index only
      refine (writeNode_rewritten _).bind fun r => ?_
      obtain ⟨ids, _⟩ := r
      exact ihIndex ids hr
    · rw [if_neg (BinOp.not_unwritable hsugar)]
      refine (writeNode_rewritten _).bind fun r => ?_
      obtain ⟨ids, _⟩ := r
      exact (ihl ids hl).bind fun _ => ihr ids hr
  case argsEmit =>
    intro p used this slot slots arg args id ids hemit ihs iha hn
    simp only [Expr.allNormal, Bool.and_eq_true] at hn
    simp only [emitPrimitiveArgs, hemit, if_true]
    exact (iha hn.1).bind fun _ => ihs hn.2
  case argsSkip =>
    intro p used this slot slots arg args id ids hskip ihs hn
    simp only [Expr.allNormal, Bool.and_eq_true] at hn
    simp only [emitPrimitiveArgs, hskip]
    exact ihs hn.2
  case argsEnd =>
    intro xs p used this slots ids hend _
    have hpure : emitPrimitiveArgs p used this slots xs ids = Pure.pure () := by
      rcases slots with _ | ⟨slot, slots⟩
      · simp only [emitPrimitiveArgs]
      rcases xs with _ | ⟨arg, args⟩
      · simp only [emitPrimitiveArgs]
      rcases ids with _ | ⟨id, ids⟩
      · simp only [emitPrimitiveArgs]
      exact (hend slot slots arg args id ids rfl rfl rfl).elim
    rw [hpure]
    exact Throws.pure

theorem emitExpr_throws {field : String} {this parent : Nat} {e : Expr} (h : e.normal = true) :
    (emitExpr field this parent e).Throws EmitError.NotUnrewritten :=
  emitExpr_args_throws.1 field this parent e h

theorem emitPrimitiveArgs_throws {p : Primitive} {used : Bool} {this : Nat} {slots : List String}
    {args : List Expr} {ids : List Nat} (h : Expr.allNormal args = true) :
    (emitPrimitiveArgs p used this slots args ids).Throws EmitError.NotUnrewritten :=
  emitExpr_args_throws.2 p used this slots args ids h

theorem emitSlotValue_throws {field : String} {this parent : Nat} {v : Option Expr}
    (h : v.all Expr.normal = true) :
    (emitSlotValue field this parent v).Throws EmitError.NotUnrewritten := by
  cases v with
  | none => exact Throws.pure
  | some e => exact emitExpr_throws (by simpa using h)

theorem emitSlots_throws {parent : Nat} :
    ∀ {sls : List Slot} {ids : List Nat}, (∀ sl ∈ sls, sl.value.all Expr.normal = true) →
      (emitSlots parent sls ids).Throws EmitError.NotUnrewritten
  | sl :: sls, id :: ids, h => by
    rw [emitSlots]
    exact (emitSlotValue_throws (h sl List.mem_cons_self)).bind fun _ =>
      emitSlots_throws fun sl' hsl' => h sl' (List.mem_cons_of_mem sl hsl')
  | [], _, _ => Throws.pure
  | _ :: _, [], _ => Throws.pure

theorem writeWithSlots_throws {spec : NodeSpec} (h : ∀ sl ∈ spec.slots, sl.value.all Expr.normal = true) :
    (writeWithSlots spec).Throws EmitError.NotUnrewritten := by
  unfold writeWithSlots
  refine (writeNode_rewritten spec).bind fun r => ?_
  obtain ⟨ids, _⟩ := r
  exact emitSlots_throws h

theorem emitListChange_throws {link : Link} {span : Span} {name : Name} {op : Option BinOp}
    {index value : Option Expr} (hi : index.all Expr.normal = true)
    (hv : value.all Expr.normal = true) :
    (emitListChange link span name op index value).Throws EmitError.NotUnrewritten := by
  unfold emitListChange
  split
  · refine Throws.guard (by simp [unrewrittenMessage, unchangeableItem]) ?_
    -- the replacing block and the index under it, then the operator over the item and the value
    exact (changedList_throws _).bind fun _ => fresh_throws.bind fun _ => fresh_throws.bind fun _ =>
      (slotInput_throws _ _).bind fun _ => (push_throws _).bind fun _ =>
      (emitSlotValue_throws hi).bind fun _ => fresh_throws.bind fun _ => fresh_throws.bind fun _ =>
      (slotInput_throws _ _).bind fun _ => (push_throws _).bind fun _ =>
      (writeWithSlots_throws (by simpa using hi)).bind fun _ => emitSlotValue_throws hv
  · exact Throws.error (by simp [unrewrittenMessage, unchangeableItem])

/-- Emitting a normal statement, or a chain of them, never meets an operator without a block. -/
theorem emitStmt_chain_throws :
    (∀ link st, st.normal = true →
      (emitStmt link st).Throws EmitError.NotUnrewritten) ∧
    (∀ sts ids parent, Stmt.allNormal sts = true →
      (emitBody sts ids parent).Throws EmitError.NotUnrewritten) ∧
    ∀ sts ids parent, Stmt.allNormal sts = true →
      (emitChain sts ids parent).Throws EmitError.NotUnrewritten := by
  refine And.imp id (fun h => ⟨h, h⟩) <| emitStmt.mutual_induct
    (fun link st => st.normal = true →
      (emitStmt link st).Throws EmitError.NotUnrewritten)
    (fun sts ids parent => Stmt.allNormal sts = true →
      (emitChain sts ids parent).Throws EmitError.NotUnrewritten)
    ?repeatTimes ?forever ?branch ?repeatUntil ?setVar ?setField ?changeVar ?showData ?hideData
    ?listAdd ?listDelete ?listDeleteAll ?listInsert ?listSet ?listChange ?block ?procCall
    ?chainCons ?chainEnd
  case chainCons =>
    intro st sts id ids parent ihst ihsts hn
    simp only [Stmt.allNormal, Bool.and_eq_true] at hn
    rw [emitChain]
    exact (ihst hn.1).bind fun _ => ihsts hn.2
  case chainEnd =>
    intro sts ids parent hend _
    have hpure : emitChain sts ids parent = Pure.pure () := by
      rcases sts with _ | ⟨st, sts⟩
      · simp only [emitChain]
      rcases ids with _ | ⟨id, ids⟩
      · simp only [emitChain]
      exact (hend st sts id ids rfl rfl).elim
    rw [hpure]
    exact Throws.pure
  case repeatTimes | repeatUntil =>
    intro link span name type isLocal value index times cond op body orElse command proc args
      ih hn
    simp only [Stmt.normal, Bool.and_eq_true] at hn
    simp only [emitStmt]
    refine (writeNode_rewritten _).bind fun r => ?_
    obtain ⟨ids, bodies⟩ := r
    exact (emitSlotValue_throws hn.1).bind fun _ => ih bodies hn.2
  case forever =>
    intro link span name type isLocal value index times cond op body orElse command proc args
      ih hn
    simp only [Stmt.normal] at hn
    simp only [emitStmt]
    refine (writeNode_rewritten _).bind fun r => ?_
    obtain ⟨ids, bodies⟩ := r
    exact ih bodies hn
  case branch =>
    intro link span name type isLocal value index times cond op body orElse command proc args
      ih ihElse hn
    simp only [Stmt.normal, Bool.and_eq_true] at hn
    obtain ⟨⟨hcond, hbody⟩, helse⟩ := hn
    simp only [emitStmt]
    refine (writeNode_rewritten _).bind fun r => ?_
    obtain ⟨ids, bodies⟩ := r
    refine (emitSlotValue_throws hcond).bind fun _ => (ih bodies hbody).bind fun _ => ?_
    split
    · exact ihElse bodies helse
    · exact Throws.pure
  case setVar | setField | changeVar =>
    intro link span name type isLocal value index times cond op body orElse command proc args hn
    simp only [Stmt.normal] at hn
    simp only [emitStmt]
    exact (assignedVariable_throws _).bind fun _ => writeWithSlots_throws (by simpa using hn)
  case showData | hideData =>
    intro link span name type isLocal value index times cond op body orElse command proc args _
    simp only [emitStmt]
    refine Throws.read.bind fun sc => ?_
    -- a list's block, or a variable's after reporting a name that is neither
    repeat' split
    all_goals first
      | exact Throws.pure.bind fun _ => (writeNode_rewritten _).bind fun _ => Throws.pure
      | exact report_bind_throws
          (Throws.pure.bind fun _ => (writeNode_rewritten _).bind fun _ => Throws.pure)
  case listAdd | listDelete | listInsert | listSet =>
    intro link span name type isLocal value index times cond op body orElse command proc args hn
    simp only [Stmt.normal, Bool.and_eq_true] at hn
    simp only [emitStmt]
    exact (changedList_throws _).bind fun _ => writeWithSlots_throws (by simp_all)
  case listDeleteAll =>
    intro link span name type isLocal value index times cond op body orElse command proc args _
    simp only [emitStmt]
    exact (changedList_throws _).bind fun _ => writeWithSlots_throws (by simp)
  case listChange =>
    intro link span name type isLocal value index times cond op body orElse command proc args hn
    simp only [Stmt.normal, Bool.and_eq_true] at hn
    simp only [emitStmt]
    exact emitListChange_throws hn.1 hn.2
  case block =>
    intro link span name type isLocal value index times cond op body orElse command proc args hn
    simp only [Stmt.normal] at hn
    simp only [emitStmt]
    refine (writePrimitive_throws _ _ _ _ _ _).bind fun r => ?_
    obtain ⟨argIds, used⟩ := r
    exact emitPrimitiveArgs_throws hn
  case procCall =>
    intro link span name type isLocal value index times cond op body orElse command proc args hn
    simp only [Stmt.normal, Expr.allNormal_iff] at hn
    simp only [emitStmt]
    refine Throws.read.bind fun sc => ?_
    -- each slot of a call takes the argument of its parameter, if there is one
    have hslots : ∀ p : Proc, ∀ sl ∈ (params sc p).map (fun q =>
        ({ name := q.id, value := args[q.arg]?, field := q.field } : Slot)),
        sl.value.all Expr.normal = true := by
      simp only [List.mem_map]
      rintro p sl ⟨q, -, rfl⟩
      cases harg : args[q.arg]? with
      | none => rfl
      | some e => simpa using hn e (List.mem_of_getElem? harg)
    split
    · exact report_bind_throws ((writeNode_rewritten _).bind fun _ => Throws.pure)
    · rename_i p _
      split
      · exact report_bind_throws (writeWithSlots_throws (hslots p))
      · exact writeWithSlots_throws (hslots p)

theorem emitBody_throws {sts : List Stmt} {ids : List Nat} {parent : Nat}
    (h : Stmt.allNormal sts = true) :
    (emitBody sts ids parent).Throws EmitError.NotUnrewritten :=
  emitStmt_chain_throws.2.1 sts ids parent h

/-! ## Scripts and targets -/

theorem emitScript_throws {opcode fields : String} {stmts : List Stmt}
    (h : Stmt.allNormal stmts = true) :
    (emitScript opcode fields stmts).Throws EmitError.NotUnrewritten := by
  unfold emitScript
  exact fresh_throws.bind fun _ => (push_throws _).bind fun _ => (take_throws _).bind fun _ =>
    (writeNode_rewritten _).bind fun _ => emitBody_throws h

theorem emitEvent_throws {ev : Event} (h : Stmt.allNormal ev.body = true) :
    (emitEvent ev).Throws EmitError.NotUnrewritten := by
  unfold emitEvent
  dsimp only
  exact Throws.guard (by simp [unrewrittenMessage, missingHat]) (emitScript_throws h)

theorem emitProcDef_throws {p : Proc} (h : Stmt.allNormal p.body = true) :
    (emitProcDef p).Throws EmitError.NotUnrewritten := by
  unfold emitProcDef
  refine Throws.withReader (Throws.read.bind fun sc => ?_)
  refine fresh_throws.bind fun _ => (push_throws _).bind fun _ => fresh_throws.bind fun _ =>
    (take_throws _).bind fun _ => (take_throws _).bind fun _ => (place_throws EmitError.notUnrewritten_layout).bind fun _ =>
    (push_throws _).bind fun _ => (push_throws _).bind fun _ => ?_
  -- one argument reporter per parameter, then the body
  refine (Throws.forIn fun x _ _ => ?_).bind fun _ => emitBody_throws h
  obtain ⟨q, rid⟩ := x
  exact (writeNode_rewritten _).bind fun _ => Throws.pure

/-- A target whose bodies are normal never stops on an operator without a block. -/
theorem emitScripts_throws {t : Sprite} (h : ∀ b ∈ t.bodies, Stmt.allNormal b = true) :
    (emitScripts t).Throws EmitError.NotUnrewritten := by
  unfold emitScripts
  refine (Throws.forIn fun ev hev _ => (emitEvent_throws ?_).bind fun _ => Throws.pure).bind
    fun _ => (Throws.forIn fun hd hhd _ => (emitScript_throws ?_).bind fun _ => Throws.pure).bind
    fun _ => (Throws.forIn fun q hq _ => (emitProcDef_throws ?_).bind fun _ => Throws.pure).bind
    fun _ => Throws.pure
  · exact h _ (Sprite.mem_bodies.2 (Or.inl ⟨ev, hev, rfl⟩))
  · exact h _ (Sprite.mem_bodies.2 (Or.inr (Or.inl ⟨hd, List.mem_mergeSort.1 hhd, rfl⟩)))
  · exact h _ (Sprite.mem_bodies.2 (Or.inr (Or.inr ⟨q, List.mem_mergeSort.1 hq, rfl⟩)))

theorem TargetRun.emit_failure {project : Project} {messages : List String} {sprite : Sprite}
    {last : Nat} {comma : Bool} {e : EmitError}
    (h : (TargetRun.emit project messages sprite last comma).1.failure = some e) :
    ∃ sc s', (emitScripts sprite sc { last } : Except EmitError Unit × EmitState) =
      (.error e, s') := by
  unfold TargetRun.emit at h
  generalize (if sprite.isStage then none else some project.stage) = stage at h
  dsimp only at h
  rcases hrun : StateT.run (ReaderT.run (emitScripts sprite) { sprite, stage }).run { last } with
    ⟨result, st⟩
  rw [hrun] at h
  cases result with
  | error e' =>
    cases h
    exact ⟨_, st, hrun⟩
  | ok u => cases h

theorem emitTargets_mem {project : Project} {messages : List String} :
    ∀ {ts : List Sprite} {last : Nat} {comma : Bool} {r : TargetRun},
      r ∈ (emitTargets project messages ts last comma).1 →
        ∃ t ∈ ts, ∃ last comma, r = (TargetRun.emit project messages t last comma).1
  | [], _, _, _, hr => by
    simp [emitTargets] at hr
  | t :: ts, last, comma, r, hr => by
    unfold emitTargets at hr
    rcases hrun : TargetRun.emit project messages t last comma with ⟨run, last', comma'⟩
    rw [hrun] at hr
    dsimp only at hr
    have hthis : r = run → ∃ t' ∈ t :: ts, ∃ last comma,
        r = (TargetRun.emit project messages t' last comma).1 := by
      rintro rfl
      exact ⟨t, List.mem_cons_self, last, comma, by rw [hrun]⟩
    split at hr
    · exact hthis (List.mem_singleton.1 hr)
    · rcases List.mem_cons.1 hr with hr | hr
      · exact hthis hr
      · obtain ⟨t', ht', last'', comma'', rfl⟩ := emitTargets_mem hr
        exact ⟨t', List.mem_cons_of_mem t ht', last'', comma'', rfl⟩

/-- When every body of a project is normal, no target of its generation stops on an operator
without a block. -/
theorem generate_never_unrewritten {p : Project}
    (h : ∀ t ∈ p.targets, ∀ b ∈ t.bodies, Stmt.allNormal b = true) :
    ∀ r ∈ (generate p).runs, ∀ e ∈ r.failure, e.NotUnrewritten := by
  intro r hr e he
  have hr' : r ∈ (emitTargets p p.messages p.targets 0 false).1 := hr
  obtain ⟨t, ht, last, comma, rfl⟩ := emitTargets_mem hr'
  obtain ⟨sc, s', hrun⟩ := TargetRun.emit_failure he
  exact emitScripts_throws (h t ht) sc _ e s' hrun

/-- After the passes, every expression the walk visited, at any depth, is normal, and so code
generation never stops on an operator that should have been rewritten. -/
theorem compiled_operators_rewritten (p : Project) (fs : FileSet) (limit : Int) :
    (∀ t ∈ (Compilation.run p fs limit).project.targets, ∀ b ∈ t.bodies,
      Stmt.allNormal b = true) ∧
    ∀ r ∈ (Compilation.run p fs limit).generation.runs, ∀ e : InternalError,
      EmitError.internal e ∈ r.failure →
        e.message ≠ "operator must be rewritten before code generation" := by
  rw [Compilation.project_run, Compilation.generation_run]
  exact ⟨resolved_bodies_normal p, fun r hr e he =>
    generate_never_unrewritten (resolved_bodies_normal p) r hr _ he⟩

end BlockGraph.Graph
