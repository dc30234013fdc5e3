import BlockGraph.Proofs.Emission.Stops
/-!
# The first construct emission cannot write

Emission writes a target's scripts in a fixed order and stops with the error of the first
construct it cannot write, in the order of `Expr.written` and `Stmt.reached`.
-/

namespace BlockGraph

open Graph

def UnOp.writeError (op : UnOp) (span : Span) : Option EmitError :=
  if op.isSugar || op.opcode == "" then some (.internal (unwritableOperator ("unary " ++ op.symbol) span))
  else none

def BinOp.writeError (op : BinOp) (span : Span) : Option EmitError :=
  if op.isSugar || op.opcode == "" then some (.internal (unwritableOperator ("binary " ++ op.symbol) span))
  else none

/-- The error of changing a list item by an operator: it has no block or picks a letter, or
there is no operator. -/
def listChangeError : Option BinOp → Span → Option EmitError
  | some o, span =>
    if o.isSugar || o.opcode == "" || o == .letterOf then some (.internal (unchangeableItem o.symbol span))
    else none
  | none, span => some (.internal (unchangeableItem "<invalid>" span))

/-- The error of applying a primitive to `given` arguments: it has no opcode, or else it takes
another number of arguments. -/
def Primitive.applyError (p : Primitive) (given : Nat) (span : Span) : Option EmitError :=
  (if p.opcode == "" then some (.internal (missingOpcode p span)) else none).or
    (if given != p.args.length then some (.internal (wrongArity p given span)) else none)

/-- Whether a literal argument fills a slot of the primitive's menu: the menu's selector then
carries it, and emission writes no argument in a menu slot. -/
def Primitive.menuLiteralUsed (p : Primitive) (args : List Expr) : Bool :=
  (p.args.zip args).any fun q => p.isMenuSlot q.1 && (menuLiteral q.2).isSome

/-- The error of the block an expression heads, before its operands are written. -/
def Expr.ownError : Expr → Option EmitError
  | .repr p args span => p.applyError args.length span
  | .unop op _ span => op.writeError span
  | .binop op _ _ span => op.writeError span
  | _ => none

mutual

/-- The expressions emission writes for an expression, in the order it writes them: the
expression itself, then its operands; of a primitive, the arguments but those in a menu slot
when a literal fills it. -/
def Expr.written : Expr → List Expr
  | .repr p args span => .repr p args span :: Expr.writtenArgs p (p.menuLiteralUsed args) p.args args
  | .unop op operand span => .unop op operand span :: operand.written
  | .binop op lhs rhs span => .binop op lhs rhs span :: (lhs.written ++ rhs.written)
  | e => [e]

/-- The expressions emission writes for the arguments of primitive `p` in `slots`; `used` is
whether a literal fills its menu slot. -/
def Expr.writtenArgs (p : Primitive) (used : Bool) : List String → List Expr → List Expr
  | slot :: slots, e :: es =>
    (if used && p.isMenuSlot slot then [] else e.written) ++ Expr.writtenArgs p used slots es
  | _, _ => []

end

/-- The error emission stops with in an expression: that of the first expression it writes
that has one. -/
def Expr.firstError (e : Expr) : Option EmitError := e.written.findSome? Expr.ownError

/-- The error of the block a statement heads, before its slots are written. -/
def Stmt.ownError (st : Stmt) : Option EmitError :=
  match st.kind with
  | .block => st.command.applyError st.args.length st.span
  | .listChange => listChangeError st.op st.span
  | _ => none

/-- The expressions emission writes in the slots of a statement of sprite `t`, at any depth and
in the order it writes them. The index of a list change is written twice, once under each
block that reads it; a call writes the arguments its procedure declares, and none when the
sprite has no such procedure. -/
def Stmt.writtenExprs (t : Sprite) (st : Stmt) : List Expr :=
  match st.kind with
  | .repeatTimes => st.times.toList.flatMap Expr.written
  | .branch | .repeatUntil => st.cond.toList.flatMap Expr.written
  | .setVar | .setField | .changeVar | .listAdd => st.value.toList.flatMap Expr.written
  | .listDelete => st.index.toList.flatMap Expr.written
  | .listInsert | .listSet => (st.index.toList ++ st.value.toList).flatMap Expr.written
  | .listChange => (st.index.toList ++ st.index.toList ++ st.value.toList).flatMap Expr.written
  | .block =>
    Expr.writtenArgs st.command (st.command.menuLiteralUsed st.args) st.command.args st.args
  | .procCall =>
    (match t.proc? st.proc with
      | some q => st.args.take q.args.length
      | none => []).flatMap Expr.written
  | .forever | .showData | .hideData | .listDeleteAll => []

mutual

/-- The statements emission writes for a statement, in the order it writes them: the
statement itself, then those of its bodies (a loop's, or a conditional's two). -/
def Stmt.reached : Stmt → List Stmt
  | st@⟨kind, _, _, _, _, _, _, _, _, _, body, orElse, _, _, _⟩ =>
    match kind with
    | .repeatTimes | .forever | .repeatUntil => st :: Stmt.chainReached body
    | .branch => st :: (Stmt.chainReached body ++ Stmt.chainReached orElse)
    | _ => [st]

def Stmt.chainReached : List Stmt → List Stmt
  | [] => []
  | st :: sts => st.reached ++ Stmt.chainReached sts

end

/-- The error of a statement of sprite `t` before its bodies: that of its own block, or else of
the first expression of its slots that has one. -/
def Stmt.localError (t : Sprite) (st : Stmt) : Option EmitError :=
  st.ownError.or ((st.writtenExprs t).findSome? Expr.ownError)

/-- The error emission stops with in a chain of statements of sprite `t`: that of the first
statement it writes that has one. -/
def Stmt.chainError (t : Sprite) (sts : List Stmt) : Option EmitError :=
  (Stmt.chainReached sts).findSome? (Stmt.localError t)

def Event.hatError (ev : Event) : Option EmitError :=
  if ev.hat.opcode == "" then some (.internal (missingHat ev)) else none

/-- The scripts of a sprite in the order emission writes them, each with the error of its hat
(an event's; a handler or a procedure has none) and its body. -/
def Sprite.scriptBodies (t : Sprite) : List (Option EmitError × List Stmt) :=
  t.events.map (fun ev => (ev.hatError, ev.body)) ++ t.sortedHandlers.map (fun h => (none, h.body)) ++
    t.sortedProcs.map (fun q => (none, q.body))

/-- The error emission stops with in the scripts of sprite `t`, the first of them placed after
`k` others: in each script in turn, its hat, then its place, then its body. -/
def Sprite.scriptsError (t : Sprite) (k : Nat) : Option EmitError :=
  seqError (fun s k => s.1.or ((placeError k).or (Stmt.chainError t s.2))) 1 t.scriptBodies k

/-- The number of scripts of a target: its events, its message handlers and its procedures. -/
def Sprite.scriptCount (t : Sprite) : Nat := t.events.length + t.handlers.length + t.procs.length

end BlockGraph

namespace BlockGraph.Graph

theorem findSome?_cons_or {α β : Type} (f : α → Option β) (a : α) (as : List α) :
    (a :: as).findSome? f = (f a).or (as.findSome? f) := by
  rw [List.findSome?_cons]
  cases f a <;> rfl

theorem any_zip_fst {α β : Type} (f : α → Bool) :
    ∀ (xs : List α) (ys : List β), xs.length ≤ ys.length → ((xs.zip ys).any fun q => f q.1) = xs.any f
  | [], _, _ => rfl
  | _ :: _, [], h => absurd h (by simp)
  | x :: xs, _ :: ys, h => by
    simp only [List.zip_cons_cons, List.any_cons]
    rw [any_zip_fst f xs ys (by simpa using h)]

open EmitM

variable {sc : EmitScope}

theorem EmitM.StopsWith.of_eq {α : Type} {m : EmitM α} {e e' : Option EmitError}
    {Q : α → Prop} (h : m.StopsWith sc e Q) (he : e = e') : m.StopsWith sc e' Q :=
  he ▸ h

theorem writePrimitive_stops (p : Primitive) (this parent next : Nat) (args : List Expr)
    (span : Span) :
    (writePrimitive p this parent next args span).StopsWith sc (p.applyError args.length span)
      fun r => r.1.length = args.length ∧ r.2 = p.menuLiteralUsed args := by
  rw [Primitive.applyError, ← Option.or_none
    (o := if (args.length != p.args.length) = true then _ else none)]
  unfold writePrimitive
  refine StopsWith.guard (StopsWith.guard ?_)
  refine StopsWith.bind_none StopsWith.take fun argIds hids => ?_
  extract_lets afterMenuId
  -- the menu flag is whether some menu slot so far took a literal
  have hafter : ∀ menuId, (afterMenuId menuId).StopsWith sc none
      fun r => r.1.length = args.length ∧ r.2 = p.menuLiteralUsed args := by
    intro menuId
    dsimp only [afterMenuId]
    refine StopsWith.bind_none (StopsWith.foldlM
      (I := fun done (r : List Input × Option String) =>
        r.2.isSome = done.any fun q => p.isMenuSlot q.1.1 && (menuLiteral q.1.2).isSome)
      (fun done x b hb => ?_) _ [] _ rfl) fun r hr => ?_
    · obtain ⟨⟨slotName, arg⟩, argId⟩ := x
      obtain ⟨inputs, menuValue⟩ := b
      dsimp only
      split
      · exact StopsWith.bind_none (slotInput_stops _ _) fun _ _ => StopsWith.pure (by simp_all)
      · split
        · exact StopsWith.pure (by simp_all)
        · exact StopsWith.bind_none (inlineValue_stops _) fun _ _ => StopsWith.pure (by simp_all)
    · obtain ⟨inputs, menuValue⟩ := r
      have hmenu : menuValue.isSome = p.menuLiteralUsed args := by
        rw [hr, List.nil_append, Primitive.menuLiteralUsed]
        exact any_zip_fst (fun q : String × Expr => p.isMenuSlot q.1 && (menuLiteral q.2).isSome) _ _
          (by rw [List.length_zip, hids]; exact Nat.min_le_right _ _)
      have hdone : (Pure.pure (argIds, menuValue.isSome) : EmitM _).StopsWith sc none
          fun r => r.1.length = args.length ∧ r.2 = p.menuLiteralUsed args :=
        StopsWith.pure ⟨hids, hmenu⟩
      refine StopsWith.bind_none StopsWith.push fun _ _ => ?_
      dsimp only
      -- the selector, of the literal option if the menu accepts it, else of its default
      have hsel : ∀ spec : NodeSpec, spec.topLevel = false →
          (writeNode spec >>= fun _ => (Pure.pure (argIds, menuValue.isSome) : EmitM _)).StopsWith sc
            none fun r => r.1.length = args.length ∧ r.2 = p.menuLiteralUsed args :=
        fun spec htop => StopsWith.bind_none (writeNode_stopsWith htop) fun _ _ => hdone
      split
      · split
        · split
          · exact StopsWith.bind_none StopsWith.pure_true fun _ _ => hsel _ rfl
          · exact StopsWith.bind_none StopsWith.report fun _ _ =>
              StopsWith.bind_none StopsWith.pure_true fun _ _ => hsel _ rfl
        · exact StopsWith.bind_none StopsWith.pure_true fun _ _ => hsel _ rfl
      · exact hdone
  split
  · exact StopsWith.bind_none StopsWith.fresh fun menuId _ => hafter menuId
  · exact StopsWith.bind_none StopsWith.pure_true fun menuId _ => hafter menuId

theorem writePrimitive_bind_stops {p : Primitive} {this parent next : Nat} {args : List Expr}
    {span : Span}
    (hargs : ∀ ids : List Nat, args.length ≤ ids.length →
      (emitPrimitiveArgs p (p.menuLiteralUsed args) this p.args args ids).StopsWith sc
        ((Expr.writtenArgs p (p.menuLiteralUsed args) p.args args).findSome? Expr.ownError)
        fun _ => True) :
    (writePrimitive p this parent next args span >>= fun r =>
      emitPrimitiveArgs p r.2 this p.args args r.1).StopsWith sc
      ((p.applyError args.length span).or
        ((Expr.writtenArgs p (p.menuLiteralUsed args) p.args args).findSome? Expr.ownError))
      fun _ => True :=
  StopsWith.bind (writePrimitive_stops p this parent next args span) fun r hr => by
    rw [hr.2]
    exact hargs r.1 (Nat.le_of_eq hr.1.symm)

theorem emitExpr_args_stops :
    (∀ field this parent e, (emitExpr field this parent e).StopsWith sc e.firstError fun _ => True) ∧
    ∀ p used this slots args ids, args.length ≤ ids.length →
      (emitPrimitiveArgs p used this slots args ids).StopsWith sc
        ((Expr.writtenArgs p used slots args).findSome? Expr.ownError) fun _ => True := by
  refine emitExpr.mutual_induct
    (fun field this parent e => (emitExpr field this parent e).StopsWith sc e.firstError fun _ => True)
    (fun p used this slots args ids => args.length ≤ ids.length →
      (emitPrimitiveArgs p used this slots args ids).StopsWith sc
        ((Expr.writtenArgs p used slots args).findSome? Expr.ownError) fun _ => True)
    ?int ?float ?str ?name ?accessor ?arg ?repr ?sugar ?unop ?binop ?argsEmit ?argsSkip ?argsEnd
  case int | float | str => intro _ _ _ _ _; exact StopsWith.pure_true
  case name => intro _ _ _ _; exact StopsWith.pure_true
  case accessor => intro _ _ _ _ _ _ _; exact StopsWith.pure_true
  case arg => intro field this parent n; exact writeArgument_stops _ _ _
  case repr =>
    intro field this parent p args span ih
    simp only [emitExpr]
    refine (writePrimitive_bind_stops fun ids h => ih ids _ h).of_eq ?_
    simp only [Expr.firstError, Expr.written, findSome?_cons_or, Expr.ownError]
  case sugar | unop =>
    intro field this parent op operand span _ ih
    simp only [emitExpr]
    refine (StopsWith.guard (StopsWith.bind_none (writeNode_stopsWith rfl) fun r _ => ih r.1)).of_eq ?_
    simp only [Expr.firstError, Expr.written, findSome?_cons_or, Expr.ownError, UnOp.writeError]
  case binop =>
    intro field this parent op lhs rhs span ihIndex ihl ihr
    simp only [emitExpr]
    refine StopsWith.bind_none StopsWith.read fun s _ => ?_
    split
    · -- the item of a list: the operator is `[]` over a name, and only the index is written
      rename_i list heq
      have ⟨hop, n, hn⟩ : op = .letterOf ∧ ∃ n, lhs = .name n := by
        split at heq
        · exact ⟨rfl, _, rfl⟩
        · cases heq
      subst hop hn
      refine StopsWith.bind_none (writeNode_stopsWith rfl) fun r _ => (ihIndex r.1).of_eq ?_
      simp [Expr.firstError, Expr.written, Expr.ownError, BinOp.writeError, findSome?_cons_or,
        BinOp.isSugar, BinOp.opcode]
    · refine (StopsWith.guard (StopsWith.bind_none (writeNode_stopsWith rfl) fun r _ =>
        StopsWith.bind (ihl r.1) fun _ _ => ihr r.1)).of_eq ?_
      simp only [Expr.firstError, Expr.written, findSome?_cons_or, Expr.ownError,
          BinOp.writeError, List.findSome?_append]
  case argsEmit =>
    intro p used this slot slots arg args id ids hemit ihs iha hlen
    have hwritten : (used && p.isMenuSlot slot) = false := Bool.not_eq_eq_eq_not.1 hemit
    simp only [emitPrimitiveArgs, hemit, if_true]
    refine (StopsWith.bind iha fun _ _ => ihs (by simpa using hlen)).of_eq ?_
    simp only [Expr.writtenArgs, hwritten, List.findSome?_append, Expr.firstError]
    rfl
  case argsSkip =>
    intro p used this slot slots arg args id ids hskip ihs hlen
    have hskipped : (used && p.isMenuSlot slot) = true := by simpa using hskip
    simp only [emitPrimitiveArgs, hskip]
    refine (ihs (by simpa using hlen)).of_eq ?_
    simp only [Expr.writtenArgs, hskipped, if_true, List.nil_append]
  case argsEnd =>
    intro args p used this slots ids hend hlen
    -- with an id for each argument, the loop ends only when the slots or the arguments do
    have hnil : Expr.writtenArgs p used slots args = [] ∧
        emitPrimitiveArgs p used this slots args ids = Pure.pure () := by
      rcases slots with _ | ⟨slot, slots⟩
      · simp only [Expr.writtenArgs, emitPrimitiveArgs, and_self]
      rcases args with _ | ⟨arg, args⟩
      · simp only [Expr.writtenArgs, emitPrimitiveArgs, and_self]
      rcases ids with _ | ⟨id, ids⟩
      · exact absurd hlen (by simp)
      exact (hend slot slots arg args id ids rfl rfl rfl).elim
    rw [hnil.1, hnil.2]
    exact StopsWith.pure_true

theorem emitExpr_stops (field : String) (this parent : Nat) (e : Expr) :
    (emitExpr field this parent e).StopsWith sc e.firstError fun _ => True :=
  emitExpr_args_stops.1 field this parent e

theorem emitPrimitiveArgs_stops {p : Primitive} {used : Bool} {this : Nat} {slots : List String}
    {args : List Expr} {ids : List Nat} (h : args.length ≤ ids.length) :
    (emitPrimitiveArgs p used this slots args ids).StopsWith sc
      ((Expr.writtenArgs p used slots args).findSome? Expr.ownError) fun _ => True :=
  emitExpr_args_stops.2 p used this slots args ids h

theorem emitSlotValue_stops (field : String) (this parent : Nat) (v : Option Expr) :
    (emitSlotValue field this parent v).StopsWith sc
      ((v.toList.flatMap Expr.written).findSome? Expr.ownError) fun _ => True := by
  cases v with
  | none => exact StopsWith.pure_true
  | some e => exact (emitExpr_stops field this parent e).of_eq (by simp [Expr.firstError])

theorem emitSlots_stops (parent : Nat) :
    ∀ (sls : List Slot) (ids : List Nat), sls.length ≤ ids.length →
      (emitSlots parent sls ids).StopsWith sc
        (((sls.flatMap (·.value.toList)).flatMap Expr.written).findSome? Expr.ownError) fun _ => True
  | [], _, _ => StopsWith.pure_true
  | _ :: _, [], h => absurd h (by simp)
  | sl :: sls, id :: ids, h => by
    rw [emitSlots]
    refine (StopsWith.bind (emitSlotValue_stops _ _ _ _) fun _ _ =>
      emitSlots_stops parent sls ids (by simpa using h)).of_eq ?_
    simp only [List.flatMap_cons, List.flatMap_append, List.findSome?_append]

theorem writeWithSlots_stops {spec : NodeSpec} (htop : spec.topLevel = false) :
    (writeWithSlots spec).StopsWith sc
      (((spec.slots.flatMap (·.value.toList)).flatMap Expr.written).findSome? Expr.ownError)
      fun _ => True := by
  unfold writeWithSlots
  exact StopsWith.bind_none (writeNode_stopsWith htop) fun r hr =>
    emitSlots_stops _ _ _ (Nat.le_of_eq hr.1.symm)

theorem emitListChange_stops (link : Link) (span : Span) (name : Name) (op : Option BinOp)
    (index value : Option Expr) :
    (emitListChange link span name op index value).StopsWith sc
      ((listChangeError op span).or
        (((index.toList ++ index.toList ++ value.toList).flatMap Expr.written).findSome?
          Expr.ownError)) fun _ => True := by
  unfold emitListChange
  split
  · rw [List.flatMap_append, List.flatMap_append, List.findSome?_append, List.findSome?_append,
      Option.or_assoc]
    refine StopsWith.guard ?_
    -- the replacing block and the index under it
    refine StopsWith.bind_none (changedList_stops _) fun _ _ => ?_
    refine StopsWith.bind_none StopsWith.fresh fun _ _ => StopsWith.bind_none StopsWith.fresh fun _ _ => ?_
    refine StopsWith.bind_none (slotInput_stops _ _) fun _ _ => StopsWith.bind_none StopsWith.push fun _ _ => ?_
    refine StopsWith.bind (emitSlotValue_stops _ _ _ _) fun _ _ => ?_
    -- the operator's block over the item of the list, and the value
    refine StopsWith.bind_none StopsWith.fresh fun _ _ => StopsWith.bind_none StopsWith.fresh fun _ _ => ?_
    refine StopsWith.bind_none (slotInput_stops _ _) fun _ _ => StopsWith.bind_none StopsWith.push fun _ _ => ?_
    refine StopsWith.bind ((writeWithSlots_stops rfl).of_eq ?_) fun _ _ => emitSlotValue_stops _ _ _ _
    simp
  · exact StopsWith.throw

/-! ## Statements -/

theorem findSome?_flatMap {α β γ : Type} (f : β → Option γ) (g : α → List β) :
    ∀ xs : List α, (xs.flatMap g).findSome? f = xs.findSome? fun x => (g x).findSome? f
  | [] => rfl
  | x :: xs => by
    rw [List.flatMap_cons, List.findSome?_append, findSome?_cons_or, findSome?_flatMap f g xs]

theorem findSome?_of_forall_eq {α β : Type} {f : α → Option β} {c : Option β} :
    ∀ {xs : List α}, xs ≠ [] → (∀ x ∈ xs, f x = c) → xs.findSome? f = c
  | [], h, _ => absurd rfl h
  | x :: xs, _, hf => by
    rw [findSome?_cons_or, hf x List.mem_cons_self]
    rcases xs with _ | ⟨y, ys⟩
    · exact Option.or_none
    · rw [findSome?_of_forall_eq (List.cons_ne_nil y ys) fun z hz => hf z (List.mem_cons_of_mem x hz),
        Option.or_self]

theorem findSome?_toList {α β : Type} (f : α → Option β) (o : Option α) :
    o.toList.findSome? f = o.bind f := by
  rcases o with _ | a
  · rfl
  · exact (findSome?_cons_or f a []).trans Option.or_none

theorem params_findSome? (s : EmitScope) (q : Proc) (F : Nat → Option EmitError) :
    (params s q).findSome? (fun r => F r.arg) = q.args.zipIdx.findSome? fun x => F x.2 := by
  unfold params
  rw [findSome?_flatMap]
  congr 1
  funext x
  obtain ⟨a, i⟩ := x
  dsimp only
  -- the plain parameter, or one per field of a struct that has fields
  repeat' split
  case h_1.isFalse hfields =>
    refine findSome?_of_forall_eq ?_ (by simp)
    simpa [List.isEmpty_iff] using hfields
  all_goals exact (findSome?_cons_or _ _ []).trans Option.or_none

theorem zipIdx_findSome? {α : Type} (args : List Expr) (f : Expr → Option EmitError) :
    ∀ (xs : List α) (k : Nat),
      (xs.zipIdx k).findSome? (fun x => args[x.2]?.bind f) = ((args.drop k).take xs.length).findSome? f
  | [], _ => by simp
  | x :: xs, k => by
    rw [List.zipIdx_cons, findSome?_cons_or, zipIdx_findSome? args f xs (k + 1)]
    rcases Nat.lt_or_ge k args.length with hk | hk
    · rw [List.drop_eq_getElem_cons hk, List.getElem?_eq_getElem hk, List.length_cons,
        List.take_succ_cons, findSome?_cons_or]
      rfl
    · rw [List.drop_eq_nil_of_le hk, List.drop_eq_nil_of_le (by omega), List.getElem?_eq_none hk]
      simp

theorem call_slots_findSome? (s : EmitScope) (q : Proc) (args : List Expr) :
    ((((params s q).map fun r => ({ name := r.id, field := r.field, value := args[r.arg]? } : Slot)).flatMap
      (·.value.toList)).flatMap Expr.written).findSome? Expr.ownError =
      ((args.take q.args.length).flatMap Expr.written).findSome? Expr.ownError := by
  simp only [findSome?_flatMap, List.findSome?_map, Function.comp_def, findSome?_toList]
  rw [params_findSome? s q fun i => args[i]?.bind fun e => e.written.findSome? Expr.ownError,
    zipIdx_findSome?, List.drop_zero]

theorem WritesNode.first_branch {spec : NodeSpec} {r : List Nat × List (List Nat)}
    (h : WritesNode spec r) {input : String} {n : Nat} {rest : List (String × Nat)}
    (hb : spec.branches = (input, n) :: rest) : n ≤ (r.2.headD []).length := by
  have h2 := h.2
  rw [hb] at h2
  rcases r with ⟨_, _ | ⟨ids, _⟩⟩
  · cases h2
  · simp only [List.map_cons, List.cons.injEq] at h2
    simp [h2.1]

theorem WritesNode.second_branch {spec : NodeSpec} {r : List Nat × List (List Nat)}
    (h : WritesNode spec r) {input input' : String} {n n' : Nat}
    (hb : spec.branches = [(input, n), (input', n')]) : n' ≤ ((r.2.drop 1).headD []).length := by
  have h2 := h.2
  rw [hb] at h2
  rcases r with ⟨_, _ | ⟨ids, _ | ⟨ids', _⟩⟩⟩
  · cases h2
  · simp at h2
  · simp only [List.map_cons, List.cons.injEq] at h2
    simp [h2.2.1]

@[simp] theorem Stmt.chainError_nil (t : Sprite) : Stmt.chainError t [] = none := rfl

theorem Stmt.reached_loop {st : Stmt}
    (h : st.kind = .repeatTimes ∨ st.kind = .forever ∨ st.kind = .repeatUntil) :
    st.reached = st :: Stmt.chainReached st.body := by
  obtain ⟨kind, _, _, _, _, _, _, _, _, _, body, orElse, _, _, _⟩ := st
  rcases h with h | h | h <;> (dsimp only at h; subst h; rfl)

theorem Stmt.reached_branch {st : Stmt} (h : st.kind = .branch) :
    st.reached = st :: (Stmt.chainReached st.body ++ Stmt.chainReached st.orElse) := by
  obtain ⟨kind, _, _, _, _, _, _, _, _, _, body, orElse, _, _, _⟩ := st
  dsimp only at h
  subst h
  rfl

theorem Stmt.reached_single {st : Stmt} (h : st.kind ≠ .repeatTimes ∧ st.kind ≠ .forever ∧
    st.kind ≠ .repeatUntil ∧ st.kind ≠ .branch) : st.reached = [st] := by
  obtain ⟨kind, _, _, _, _, _, _, _, _, _, body, orElse, _, _, _⟩ := st
  cases kind <;> simp_all [Stmt.reached]

theorem Stmt.reached_findSome?_single {t : Sprite} {st : Stmt} (h : st.kind ≠ .repeatTimes ∧
    st.kind ≠ .forever ∧ st.kind ≠ .repeatUntil ∧ st.kind ≠ .branch) :
    st.reached.findSome? (Stmt.localError t) = st.localError t := by
  rw [Stmt.reached_single h, findSome?_cons_or]
  exact Option.or_none

section StmtForms

/-! Each form of statement, its bodies' emission given: a loop or a conditional writes its
node, its slot, then its bodies; other statements write their node and its slots. -/

variable {link : Link} {st : Stmt}

def ChainStops (sc : EmitScope) (parent : Nat) (body : List Stmt) : Prop :=
  ∀ ids, body.length ≤ ids.length →
    (emitBody body ids parent).StopsWith sc (Stmt.chainError sc.sprite body) fun _ => True

theorem emitStmt_repeat_stops (hk : st.kind = .repeatTimes ∨ st.kind = .repeatUntil)
    (hbody : ChainStops sc link.id st.body) :
    (emitStmt link st).StopsWith sc (st.reached.findSome? (Stmt.localError sc.sprite))
      fun _ => True := by
  rw [Stmt.reached_loop (by rcases hk with hk | hk <;> simp [hk]), findSome?_cons_or]
  obtain ⟨kind, span, name, type, isLocal, value, index, times, cond, op, body, orElse, command,
    proc, args⟩ := st
  rcases hk with rfl | rfl
  all_goals
    simp only [emitStmt]
    refine (StopsWith.bind_none (writeNode_stopsWith rfl) fun r hr =>
      StopsWith.bind (emitSlotValue_stops _ _ _ _) fun _ _ => hbody _ (hr.first_branch rfl)).of_eq ?_
    simp only [Stmt.localError, Stmt.ownError, Stmt.writtenExprs, Stmt.chainError, Option.none_or]

theorem emitStmt_forever_stops (hk : st.kind = .forever) (hbody : ChainStops sc link.id st.body) :
    (emitStmt link st).StopsWith sc (st.reached.findSome? (Stmt.localError sc.sprite))
      fun _ => True := by
  rw [Stmt.reached_loop (by simp [hk]), findSome?_cons_or]
  obtain ⟨kind, span, name, type, isLocal, value, index, times, cond, op, body, orElse, command,
    proc, args⟩ := st
  dsimp only at hk
  subst hk
  simp only [emitStmt]
  refine (StopsWith.bind_none (writeNode_stopsWith rfl) fun r hr =>
    hbody _ (hr.first_branch rfl)).of_eq ?_
  simp only [Stmt.localError, Stmt.ownError, Stmt.writtenExprs, Stmt.chainError, Option.none_or,
    List.findSome?_nil]

theorem emitStmt_branch_stops (hk : st.kind = .branch) (hbody : ChainStops sc link.id st.body)
    (helse : ChainStops sc link.id st.orElse) :
    (emitStmt link st).StopsWith sc (st.reached.findSome? (Stmt.localError sc.sprite))
      fun _ => True := by
  rw [Stmt.reached_branch hk, findSome?_cons_or, List.findSome?_append]
  obtain ⟨kind, span, name, type, isLocal, value, index, times, cond, op, body, orElse, command,
    proc, args⟩ := st
  dsimp only at hk hbody helse
  subst hk
  simp only [Stmt.localError, Stmt.ownError, Stmt.writtenExprs, Option.none_or]
  -- the else branch is written when there is one
  rcases orElse with _ | ⟨s, ss⟩
  · simp only [emitStmt, List.isEmpty_nil, Bool.not_true]
    refine (StopsWith.bind_none (writeNode_stopsWith rfl) fun r hr =>
      StopsWith.bind (emitSlotValue_stops _ _ _ _) fun _ _ =>
        StopsWith.bind (hbody _ (hr.first_branch rfl)) fun _ _ => StopsWith.pure_true).of_eq ?_
    simp only [Stmt.chainReached, List.findSome?_nil, Option.or_none, Stmt.chainError]
  · simp only [emitStmt, List.isEmpty_cons, Bool.not_false]
    exact StopsWith.bind_none (writeNode_stopsWith rfl) fun r hr =>
      StopsWith.bind (emitSlotValue_stops _ _ _ _) fun _ _ =>
        StopsWith.bind (hbody _ (hr.first_branch rfl)) fun _ _ => helse _ (hr.second_branch rfl)

theorem emitStmt_assign_stops
    (hk : st.kind = .setVar ∨ st.kind = .setField ∨ st.kind = .changeVar) :
    (emitStmt link st).StopsWith sc (st.reached.findSome? (Stmt.localError sc.sprite))
      fun _ => True := by
  rw [Stmt.reached_findSome?_single (by rcases hk with hk | hk | hk <;> simp [hk])]
  obtain ⟨kind, span, name, type, isLocal, value, index, times, cond, op, body, orElse, command,
    proc, args⟩ := st
  rcases hk with rfl | rfl | rfl
  all_goals
    simp only [emitStmt]
    refine StopsWith.bind_none (assignedVariable_stops _) fun _ _ => (writeWithSlots_stops rfl).of_eq ?_
    simp [Stmt.localError, Stmt.ownError, Stmt.writtenExprs]

theorem emitStmt_showHide_stops (hk : st.kind = .showData ∨ st.kind = .hideData) :
    (emitStmt link st).StopsWith sc (st.reached.findSome? (Stmt.localError sc.sprite))
      fun _ => True := by
  rw [Stmt.reached_findSome?_single (by rcases hk with hk | hk <;> simp [hk])]
  obtain ⟨kind, span, name, type, isLocal, value, index, times, cond, op, body, orElse, command,
    proc, args⟩ := st
  rcases hk with rfl | rfl
  all_goals
    refine StopsWith.of_eq (e := none) ?_ rfl
    simp only [emitStmt, pure_bind]
    refine StopsWith.bind_none StopsWith.read fun s _ => ?_
    have hnode : ∀ spec : NodeSpec, spec.topLevel = false →
        (writeNode spec >>= fun _ => (Pure.pure () : EmitM Unit)).StopsWith sc none fun _ => True :=
      fun spec h => StopsWith.bind_none (writeNode_stopsWith h) fun _ _ => StopsWith.pure_true
    -- a list's block, or a variable's after reporting a name that is neither
    split
    · exact hnode _ rfl
    · split
      · exact StopsWith.bind_none StopsWith.report fun _ _ => hnode _ rfl
      · exact hnode _ rfl

theorem emitStmt_list_stops (hk : st.kind = .listAdd ∨ st.kind = .listDelete ∨
    st.kind = .listDeleteAll ∨ st.kind = .listInsert ∨ st.kind = .listSet) :
    (emitStmt link st).StopsWith sc (st.reached.findSome? (Stmt.localError sc.sprite))
      fun _ => True := by
  rw [Stmt.reached_findSome?_single (by rcases hk with hk | hk | hk | hk | hk <;> simp [hk])]
  obtain ⟨kind, span, name, type, isLocal, value, index, times, cond, op, body, orElse, command,
    proc, args⟩ := st
  rcases hk with rfl | rfl | rfl | rfl | rfl
  all_goals
    simp only [emitStmt]
    refine StopsWith.bind_none (changedList_stops _) fun _ _ => (writeWithSlots_stops rfl).of_eq ?_
    simp [Stmt.localError, Stmt.ownError, Stmt.writtenExprs]

theorem emitStmt_listChange_stops (hk : st.kind = .listChange) :
    (emitStmt link st).StopsWith sc (st.reached.findSome? (Stmt.localError sc.sprite))
      fun _ => True := by
  rw [Stmt.reached_findSome?_single (by simp [hk])]
  obtain ⟨kind, span, name, type, isLocal, value, index, times, cond, op, body, orElse, command,
    proc, args⟩ := st
  dsimp only at hk
  subst hk
  simp only [emitStmt]
  exact (emitListChange_stops _ _ _ _ _ _).of_eq rfl

theorem emitStmt_block_stops (hk : st.kind = .block) :
    (emitStmt link st).StopsWith sc (st.reached.findSome? (Stmt.localError sc.sprite))
      fun _ => True := by
  rw [Stmt.reached_findSome?_single (by simp [hk])]
  obtain ⟨kind, span, name, type, isLocal, value, index, times, cond, op, body, orElse, command,
    proc, args⟩ := st
  dsimp only at hk
  subst hk
  simp only [emitStmt]
  exact (writePrimitive_bind_stops fun ids h => emitPrimitiveArgs_stops h).of_eq rfl

theorem emitStmt_procCall_stops (hk : st.kind = .procCall) :
    (emitStmt link st).StopsWith sc (st.reached.findSome? (Stmt.localError sc.sprite))
      fun _ => True := by
  rw [Stmt.reached_findSome?_single (by simp [hk])]
  obtain ⟨kind, span, name, type, isLocal, value, index, times, cond, op, body, orElse, command,
    proc, args⟩ := st
  dsimp only at hk
  subst hk
  simp only [emitStmt, Stmt.localError, Stmt.ownError, Stmt.writtenExprs, Option.none_or]
  refine StopsWith.bind_none StopsWith.read fun s hs => ?_
  subst hs
  split
  · rename_i hproc
    rw [hproc]
    exact StopsWith.bind_none StopsWith.report fun _ _ =>
      StopsWith.bind_none (writeNode_stopsWith rfl) fun _ _ => StopsWith.pure_true
  · rename_i q hproc
    rw [hproc, ← call_slots_findSome? s q args]
    split
    · exact StopsWith.bind_none StopsWith.report fun _ _ => writeWithSlots_stops rfl
    · exact writeWithSlots_stops rfl

end StmtForms

theorem emitStmt_chain_stops :
    (∀ link st, (emitStmt link st).StopsWith sc (st.reached.findSome? (Stmt.localError sc.sprite))
      fun _ => True) ∧
    (∀ sts ids parent, sts.length ≤ ids.length →
      (emitBody sts ids parent).StopsWith sc (Stmt.chainError sc.sprite sts) fun _ => True) ∧
    ∀ sts ids parent, sts.length ≤ ids.length →
      (emitChain sts ids parent).StopsWith sc (Stmt.chainError sc.sprite sts) fun _ => True := by
  refine And.imp id (fun h => ⟨h, h⟩) <| emitStmt.mutual_induct
    (fun link st => (emitStmt link st).StopsWith sc (st.reached.findSome? (Stmt.localError sc.sprite))
      fun _ => True)
    (fun sts ids parent => sts.length ≤ ids.length →
      (emitChain sts ids parent).StopsWith sc (Stmt.chainError sc.sprite sts) fun _ => True)
    ?repeatTimes ?forever ?branch ?repeatUntil ?setVar ?setField ?changeVar ?showData ?hideData
    ?listAdd ?listDelete ?listDeleteAll ?listInsert ?listSet ?listChange ?block ?procCall
    ?chainCons ?chainEnd
  case repeatTimes | repeatUntil =>
    intro _ _ _ _ _ _ _ _ _ _ _ _ _ _ _ ih
    exact emitStmt_repeat_stops (by simp) fun ids => ih [ids]
  case forever =>
    intro _ _ _ _ _ _ _ _ _ _ _ _ _ _ _ ih
    exact emitStmt_forever_stops rfl fun ids => ih [ids]
  case branch =>
    intro _ _ _ _ _ _ _ _ _ _ _ _ _ _ _ ih ihElse
    exact emitStmt_branch_stops rfl (fun ids => ih [ids]) fun ids => ihElse [[], ids]
  case setVar | setField | changeVar =>
    intro _ _ _ _ _ _ _ _ _ _ _ _ _ _ _
    exact emitStmt_assign_stops (by simp)
  case showData | hideData =>
    intro _ _ _ _ _ _ _ _ _ _ _ _ _ _ _
    exact emitStmt_showHide_stops (by simp)
  case listAdd | listDelete | listDeleteAll | listInsert | listSet =>
    intro _ _ _ _ _ _ _ _ _ _ _ _ _ _ _
    exact emitStmt_list_stops (by simp)
  case listChange =>
    intro _ _ _ _ _ _ _ _ _ _ _ _ _ _ _
    exact emitStmt_listChange_stops rfl
  case block =>
    intro _ _ _ _ _ _ _ _ _ _ _ _ _ _ _
    exact emitStmt_block_stops rfl
  case procCall =>
    intro _ _ _ _ _ _ _ _ _ _ _ _ _ _ _
    exact emitStmt_procCall_stops rfl
  case chainCons =>
    intro st sts id ids parent ihst ihsts hlen
    rw [emitChain]
    refine (StopsWith.bind ihst fun _ _ => ihsts (by simpa using hlen)).of_eq ?_
    simp only [Stmt.chainError, Stmt.chainReached, List.findSome?_append]
  case chainEnd =>
    intro sts ids parent hend hlen
    -- with an id for each statement, the chain ends only with its statements
    have hnil : Stmt.chainReached sts = [] ∧ emitChain sts ids parent = Pure.pure () := by
      rcases sts with _ | ⟨st, sts⟩
      · simp only [Stmt.chainReached, emitChain, and_self]
      rcases ids with _ | ⟨id, ids⟩
      · exact absurd hlen (by simp)
      exact (hend st sts id ids rfl rfl).elim
    rw [Stmt.chainError, hnil.1, hnil.2]
    exact StopsWith.pure_true

theorem emitBody_stops {sts : List Stmt} {ids : List Nat} {parent : Nat}
    (h : sts.length ≤ ids.length) :
    (emitBody sts ids parent).StopsWith sc (Stmt.chainError sc.sprite sts) fun _ => True :=
  emitStmt_chain_stops.2.1 sts ids parent h

/-! ## Scripts and targets -/

theorem seqError_append {γ : Type} (err : γ → Nat → Option EmitError) (n : Nat) :
    ∀ (xs ys : List γ) (k : Nat),
      seqError err n (xs ++ ys) k = (seqError err n xs k).or (seqError err n ys (k + n * xs.length))
  | [], ys, k => by simp [seqError]
  | x :: xs, ys, k => by
    rw [List.cons_append, seqError, seqError, seqError_append err n xs ys (k + n), Option.or_assoc,
      List.length_cons, Nat.mul_succ, Nat.add_assoc, Nat.add_comm n]

theorem seqError_map {γ δ : Type} (err : δ → Nat → Option EmitError) (f : γ → δ) (n : Nat) :
    ∀ (xs : List γ) (k : Nat), seqError err n (xs.map f) k = seqError (fun x => err (f x)) n xs k
  | [], _ => rfl
  | x :: xs, k => by rw [List.map_cons, seqError, seqError, seqError_map err f n xs (k + n)]

theorem EmitM.Stops.withReader {α : Type} {f : EmitScope → EmitScope} {m : EmitM α}
    {err : Nat → Option EmitError} {n : Nat} {Q : α → Prop} (h : m.Stops (f sc) err n Q) :
    (withReader f m).Stops sc err n Q :=
  h

theorem EmitM.Stops.guard {α : Type} {c : Prop} [Decidable c] {e : EmitError} {m : EmitM α}
    {err : Nat → Option EmitError} {n : Nat} {Q : α → Prop} (hm : m.Stops sc err n Q) :
    (if c then (MonadExcept.throw e : EmitM PUnit) >>= (fun _ => m) else m).Stops sc
      (fun k => (if c then some e else none).or (err k)) n Q := by
  by_cases hc : c
  · simp only [if_pos hc, Option.some_or]
    exact (Stops.bind (StopsWith.throw (Q := fun _ => True)) fun _ _ => hm).congr
      (fun _ => Option.some_or) (Nat.zero_add n) fun _ h => h
  · simp only [if_neg hc, Option.none_or]
    exact hm

theorem emitScript_stops (opcode fields : String) (stmts : List Stmt) :
    (emitScript opcode fields stmts).Stops sc
      (fun k => (placeError k).or (Stmt.chainError sc.sprite stmts)) 1 fun _ => True := by
  unfold emitScript
  exact Stops.none_bind StopsWith.fresh fun _ _ => Stops.none_bind StopsWith.push fun _ _ =>
    Stops.none_bind StopsWith.take fun _ hids =>
      Stops.bind (writeNode_stops rfl) fun _ _ => emitBody_stops (Nat.le_of_eq hids.symm)

theorem emitEvent_stops (ev : Event) :
    (emitEvent ev).Stops sc
      (fun k => ev.hatError.or ((placeError k).or (Stmt.chainError sc.sprite ev.body))) 1
      fun _ => True := by
  unfold emitEvent
  exact Stops.guard (emitScript_stops _ _ _)

theorem emitProcDef_stops (q : Proc) :
    (emitProcDef q).Stops sc (fun k => (placeError k).or (Stmt.chainError sc.sprite q.body)) 1
      fun _ => True := by
  unfold emitProcDef
  refine Stops.withReader (Stops.none_bind StopsWith.read fun s hs => ?_)
  subst hs
  refine Stops.none_bind StopsWith.fresh fun _ _ => Stops.none_bind StopsWith.push fun _ _ =>
    Stops.none_bind StopsWith.fresh fun _ _ => Stops.none_bind StopsWith.take fun _ _ =>
    Stops.none_bind StopsWith.take fun bodyIds hbody => ?_
  refine (Stops.bind Stops.place fun _ _ =>
    StopsWith.bind_none StopsWith.push fun _ _ => StopsWith.bind_none StopsWith.push fun _ _ =>
    StopsWith.bind_none (StopsWith.forIn (fun x _ _ => ?_) _) fun _ _ =>
      emitBody_stops (Nat.le_of_eq hbody.symm)).congr (fun _ => rfl) rfl fun _ h => h
  -- one argument reporter per parameter
  obtain ⟨r, rid⟩ := x
  exact StopsWith.bind_none ((writeNode_stopsWith rfl).imp fun _ _ => trivial) fun _ _ =>
    StopsWith.pure ⟨_, rfl⟩

theorem emitScripts_stops {t : Sprite} (ht : sc.sprite = t) :
    (emitScripts t).Stops sc t.scriptsError t.scriptCount fun _ => True := by
  subst ht
  unfold emitScripts
  refine (Stops.bind (Stops.forIn (fun ev _ _ => Stops.bind_none (emitEvent_stops ev) fun _ _ =>
      StopsWith.pure ⟨_, rfl⟩) _) fun _ _ =>
    Stops.bind (Stops.forIn (fun h _ _ => Stops.bind_none (emitScript_stops _ _ h.body) fun _ _ =>
      StopsWith.pure ⟨_, rfl⟩) _) fun _ _ =>
    Stops.bind (Stops.forIn (fun q _ _ => Stops.bind_none (emitProcDef_stops q) fun _ _ =>
      StopsWith.pure ⟨_, rfl⟩) _) fun _ _ => StopsWith.pure_true).congr ?_ ?_ fun _ h => h
  · intro k
    simp only [Sprite.scriptsError, Sprite.scriptBodies, seqError_append, seqError_map,
      List.length_append, List.length_map, Option.or_none, Option.none_or, Option.or_assoc,
      Nat.one_mul, Nat.add_assoc]
  · simp only [Sprite.scriptCount, Sprite.sortedHandlers, Sprite.sortedProcs, List.length_mergeSort]
    omega

theorem TargetRun.emit_name (project : Project) (messages : List String) (sprite : Sprite)
    (last : Nat) (comma : Bool) : (TargetRun.emit project messages sprite last comma).1.name = sprite.name :=
  rfl

theorem TargetRun.emit_failure_eq (project : Project) (messages : List String) (sprite : Sprite)
    (last : Nat) (comma : Bool) :
    (TargetRun.emit project messages sprite last comma).1.failure = sprite.scriptsError 0 := by
  unfold TargetRun.emit
  generalize (if sprite.isStage then none else some project.stage) = stage
  have hstops : (emitScripts sprite).Stops { sprite, stage } sprite.scriptsError sprite.scriptCount
      fun _ => True := emitScripts_stops rfl
  obtain ⟨hstop, hend⟩ := hstops { last }
  dsimp only
  rcases hrun : StateT.run (ReaderT.run (emitScripts sprite) { sprite, stage }).run { last } with
    ⟨result, st⟩
  cases herr : sprite.scriptsError 0 with
  | none =>
    obtain ⟨a, s', hr, -, -⟩ := hend herr
    have hres : (result, st) = (.ok a, s') := hrun.symm.trans hr
    cases hres
    rfl
  | some e =>
    obtain ⟨s', hs'⟩ := hstop e herr
    have hres : (result, st) = (.error e, s') := hrun.symm.trans hs'
    cases hres
    rfl

def Sprite.failure (t : Sprite) : Option (String × EmitError) := (t.scriptsError 0).map (t.name, ·)

theorem emitTargets_failure? (project : Project) (messages : List String) :
    ∀ (ts : List Sprite) (last : Nat) (comma : Bool),
      (emitTargets project messages ts last comma).1.findSome? (fun r => r.failure.map (r.name, ·)) =
        ts.findSome? Sprite.failure
  | [], _, _ => rfl
  | t :: ts, last, comma => by
    have hfail := TargetRun.emit_failure_eq project messages t last comma
    have hname := TargetRun.emit_name project messages t last comma
    unfold emitTargets
    rcases hrun : TargetRun.emit project messages t last comma with ⟨run, last', comma'⟩
    rw [hrun] at hfail hname
    dsimp only at hfail hname ⊢
    rw [findSome?_cons_or, Sprite.failure, ← hfail, ← hname]
    split
    · rename_i hsome
      obtain ⟨e, he⟩ := Option.isSome_iff_exists.1 hsome
      simp [he]
    · rename_i hnone
      have hn := Option.not_isSome_iff_eq_none.1 hnone
      simp only [findSome?_cons_or, hn, Option.map_none, Option.none_or,
        emitTargets_failure? project messages ts last' comma']

theorem emitTargets_done (project : Project) (messages : List String) :
    ∀ (ts : List Sprite) (last : Nat) (comma : Bool),
      ((emitTargets project messages ts last comma).1.filter (·.failure.isNone)).length =
        (ts.takeWhile fun t => (t.scriptsError 0).isNone).length
  | [], _, _ => rfl
  | t :: ts, last, comma => by
    have hfail := TargetRun.emit_failure_eq project messages t last comma
    unfold emitTargets
    rcases hrun : TargetRun.emit project messages t last comma with ⟨run, last', comma'⟩
    rw [hrun] at hfail
    dsimp only at hfail ⊢
    rw [List.takeWhile_cons, ← hfail]
    split
    · rename_i hsome
      simp [Option.isSome_iff_ne_none.1 hsome]
    · rename_i hnone
      have hn := Option.not_isSome_iff_eq_none.1 hnone
      simp [hn, emitTargets_done project messages ts last' comma']

theorem generate_failure? (p : Project) : (generate p).failure? = p.targets.findSome? Sprite.failure :=
  emitTargets_failure? p p.messages p.targets 0 false

theorem generate_targetsDone (p : Project) :
    (generate p).targetsDone = (p.targets.takeWhile fun t => (t.scriptsError 0).isNone).length :=
  emitTargets_done p p.messages p.targets 0 false

end BlockGraph.Graph
