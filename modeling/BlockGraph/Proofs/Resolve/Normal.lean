import BlockGraph.Proofs.Resolve.Meaning
import BlockGraph.Proofs.Program.Primitives
/-!
# Resolved bodies are in normal form

After the walk no expression holds an operator without a block, a negation of a negation, or
`+ - *` of two numeric literals, at any depth.
-/

namespace BlockGraph

def Expr.isNumeral : Expr → Bool
  | .int .. | .float .. => true
  | _ => false

def Expr.isNot : Expr → Bool
  | .unop .not _ _ => true
  | _ => false

/-- Whether the operator is folded over two numeric literals. -/
def BinOp.folds : BinOp → Bool
  | .add | .sub | .mul => true
  | _ => false

mutual

/-- Whether an expression is in the form the walk leaves: no operator without a block, no
negation of a negation, no `+ - *` of two numeric literals, and its operands likewise. -/
def Expr.normal : Expr → Bool
  | .repr _ args _ => Expr.allNormal args
  | .unop .not operand _ => !operand.isNot && operand.normal
  | .unop op operand _ => !op.isSugar && operand.normal
  | .binop op lhs rhs _ =>
    !op.isSugar && !(op.folds && lhs.isNumeral && rhs.isNumeral) && lhs.normal && rhs.normal
  | _ => true

/-- Whether every expression of a list is normal. -/
def Expr.allNormal : List Expr → Bool
  | [] => true
  | e :: es => e.normal && Expr.allNormal es

end

mutual

/-- Whether the expressions the walk visits in a statement, those its kind gives it, are
normal, and the statements of its bodies likewise. -/
def Stmt.normal : Stmt → Bool
  | ⟨kind, _, _, _, _, value, index, times, cond, _, body, orElse, _, _, args⟩ =>
    match kind with
    | .repeatTimes => times.all Expr.normal && Stmt.allNormal body
    | .forever => Stmt.allNormal body
    | .branch => cond.all Expr.normal && Stmt.allNormal body && Stmt.allNormal orElse
    | .repeatUntil => cond.all Expr.normal && Stmt.allNormal body
    | .setVar | .changeVar | .setField | .listAdd => value.all Expr.normal
    | .listDelete => index.all Expr.normal
    | .listInsert | .listSet | .listChange => index.all Expr.normal && value.all Expr.normal
    | .block | .procCall => Expr.allNormal args
    | .showData | .hideData | .listDeleteAll => true

def Stmt.allNormal : List Stmt → Bool
  | [] => true
  | st :: sts => st.normal && Stmt.allNormal sts

end

theorem Expr.allNormal_iff {es : List Expr} :
    Expr.allNormal es = true ↔ ∀ e ∈ es, e.normal = true := by
  induction es with
  | nil => simp [Expr.allNormal]
  | cons e es ih => simp [Expr.allNormal, ih]

theorem Stmt.allNormal_iff {sts : List Stmt} :
    Stmt.allNormal sts = true ↔ ∀ st ∈ sts, st.normal = true := by
  induction sts with
  | nil => simp [Stmt.allNormal]
  | cons st sts ih => simp [Stmt.allNormal, ih]

theorem Expr.isNot_eq_false {o : Expr} (h : ∀ inner span, o ≠ .unop .not inner span) :
    o.isNot = false := by
  unfold Expr.isNot
  split
  · exact absurd rfl (h _ _)
  · rfl

theorem Expr.normal_subFromZero {o : Expr} (span : Span) (h : o.isNumeral = false) :
    (Expr.binop .sub (.int 0 span) o span).normal = o.normal := by
  simp [Expr.normal, BinOp.isSugar, BinOp.folds, Expr.isNumeral.eq_1, h]

theorem negate_normal {o : Expr} (span : Span) (h : o.normal = true) : (negate o span).normal = true := by
  unfold negate
  split
  · rfl
  · rfl
  · -- `0 - r` is `r`; otherwise the subtraction from zero is kept
    split
    · simp only [Expr.normal, Bool.and_eq_true] at h
      exact h.2
    · rw [Expr.normal_subFromZero span rfl]
      exact h
  · have hnum : o.isNumeral = false := by
      cases o <;> simp_all [Expr.isNumeral]
    rw [Expr.normal_subFromZero span hnum]
    exact h

theorem foldArith_getD_normal {op : BinOp} {l r : Expr} (span : Span) (hop : op.folds = true)
    (hl : l.normal = true) (hr : r.normal = true) :
    ((foldArith op l r span).getD (.binop op l r span)).normal = true := by
  have hsugar : op.isSugar = false := by
    cases op <;> simp_all [BinOp.folds, BinOp.isSugar]
  -- two numerals fold into a literal; anything else stays, and is then no fold of two numerals
  cases l <;> cases r <;> simp_all [foldArith, Expr.normal, Expr.isNumeral]

theorem rewritten_normal (sc : Scope) (e : Expr) : ∀ w : Walk, (rewritten sc w e).normal = true := by
  induction e using Expr.rec
    (motive_2 := fun es => ∀ w : Walk, Expr.allNormal (visitExprs es sc w).1 = true) with
  | int | float | str | name | arg | accessor => intro w; rfl
  | repr p args span ih =>
    intro w
    simp only [rewritten, visitExpr, WalkM.bind_apply, WalkM.pure_apply, Expr.normal]
    exact ih w
  | unop op operand span ih =>
    intro w
    have ho := ih w
    rw [rewritten_unop]
    cases op
    case neg => exact negate_normal span ho
    case not =>
      dsimp only
      split
      · -- the negation of a negation is its operand's operand
        rename_i inner _ heq
        rw [heq] at ho
        simp only [Expr.normal, Bool.and_eq_true] at ho
        exact ho.2
      · rename_i hno
        simp [Expr.normal, Expr.isNot_eq_false hno, ho]
    all_goals simp [Expr.normal, UnOp.isSugar, ho]
  | binop op l r span ihl ihr =>
    intro w
    have hl := ihl w
    have hr := ihr (visitExpr l sc w).2
    rw [rewritten_binop]
    cases op
    case add | sub | mul => exact foldArith_getD_normal span rfl hl hr
    all_goals simp [Expr.normal, Expr.isNot, BinOp.isSugar, BinOp.folds, UnOp.isSugar, hl, hr]
  | nil => rfl
  | cons e es ih ihs w =>
    simp only [visitExprs, WalkM.bind_apply, WalkM.pure_apply, Expr.allNormal, Bool.and_eq_true]
    exact ⟨ih w, ihs _⟩

theorem visitExpr_normal (e : Expr) : (visitExpr e).Yields fun e' => e'.normal = true :=
  fun sc w => rewritten_normal sc e w

theorem visitExprs_normal (es : List Expr) :
    (visitExprs es).Yields fun es' => Expr.allNormal es' = true := by
  induction es with
  | nil => exact WalkM.Yields.pure rfl
  | cons e es ih =>
    rw [visitExprs]
    exact (visitExpr_normal e).bind fun e' he => ih.bind fun es' hes =>
      WalkM.Yields.pure (by simp [Expr.allNormal, he, hes])

theorem visitExprOption_normal (o : Option Expr) :
    (visitExprOption o).Yields fun o' => o'.all Expr.normal = true := by
  cases o with
  | none => exact WalkM.Yields.pure rfl
  | some e => exact (visitExpr_normal e).map fun e' he => by simp [he]

theorem expandStructAssign_kind {sc : Scope} {st : Stmt} {expanded : List Stmt}
    (hex : expandStructAssign sc st = some expanded) : ∀ s ∈ expanded, s.kind = .setField := by
  unfold expandStructAssign at hex
  split at hex
  · cases hex
  simp only [bind, Option.bind_eq_some_iff] at hex
  obtain ⟨_, -, _, -, def_, -, hex⟩ := hex
  split at hex
  · cases hex
  cases hex
  intro s hs
  obtain ⟨f, -, rfl⟩ := List.mem_map.1 hs
  rfl

theorem visitFieldAssign_normal {st : Stmt} (hk : st.kind = .setField) :
    (visitFieldAssign st).Yields fun st' => st'.normal = true := by
  obtain ⟨kind, span, name, type, isLocal, value, index, times, cond, op, body, orElse, command,
    proc, args⟩ := st
  cases hk
  unfold visitFieldAssign
  exact (visitExprOption_normal value).bind fun _ hv => WalkM.Yields.pure (by simpa [Stmt.normal] using hv)

mutual

theorem visitStmt_normal : ∀ st : Stmt, (visitStmt st).Yields fun st' => st'.normal = true
  | ⟨kind, span, name, type, isLocal, value, index, times, cond, op, body, orElse, command, proc,
      args⟩ => by
    have hbody := visitStmts_normal body
    have helse := visitStmts_normal orElse
    unfold visitStmt
    -- each kind walks the expressions and bodies its normal form reads
    cases kind
    case repeatTimes =>
      exact (visitExprOption_normal times).bind fun _ ht => hbody.bind fun _ hb =>
        WalkM.Yields.pure (by simp [Stmt.normal, ht, hb])
    case forever =>
      exact hbody.bind fun _ hb => WalkM.Yields.pure (by simp [Stmt.normal, hb])
    case branch =>
      exact (visitExprOption_normal cond).bind fun _ hc => hbody.bind fun _ hb =>
        helse.bind fun _ he => WalkM.Yields.pure (by simp [Stmt.normal, hc, hb, he])
    case repeatUntil =>
      exact (visitExprOption_normal cond).bind fun _ hc => hbody.bind fun _ hb =>
        WalkM.Yields.pure (by simp [Stmt.normal, hc, hb])
    case setVar | changeVar | setField =>
      exact (visitExprOption_normal value).bind fun _ hv =>
        WalkM.Yields.pure (by simp [Stmt.normal, hv])
    case showData | hideData => exact WalkM.Yields.pure (by simp [Stmt.normal])
    case listAdd =>
      exact (WalkM.Yields.any _).bind fun _ _ => (visitExprOption_normal value).bind fun _ hv =>
        WalkM.Yields.pure (by simp [Stmt.normal, hv])
    case listDelete =>
      exact (WalkM.Yields.any _).bind fun _ _ => (visitExprOption_normal index).bind fun _ hi =>
        WalkM.Yields.pure (by simp [Stmt.normal, hi])
    case listDeleteAll =>
      exact (WalkM.Yields.any _).bind fun _ _ => WalkM.Yields.pure (by simp [Stmt.normal])
    case listInsert | listSet | listChange =>
      exact (WalkM.Yields.any _).bind fun _ _ => (visitExprOption_normal index).bind fun _ hi =>
        (visitExprOption_normal value).bind fun _ hv =>
          WalkM.Yields.pure (by simp [Stmt.normal, hi, hv])
    case block =>
      dsimp only
      -- a block that sends a message records the message before walking its arguments
      have hargs : (visitExprs args >>= fun args' => pure
          ({ kind := .block, span, name, type, isLocal, value, index, times, cond, op, body,
             orElse, command, proc, args := args' } : Stmt)).Yields fun st' => st'.normal = true :=
        (visitExprs_normal args).bind fun _ ha => WalkM.Yields.pure (by simp [Stmt.normal, ha])
      split
      · split
        · exact (WalkM.Yields.any _).bind fun _ _ => hargs
        · exact hargs
      · exact hargs
    case procCall =>
      exact (WalkM.Yields.any _).bind fun _ _ => (visitExprs_normal args).bind fun _ ha =>
        WalkM.Yields.pure (by simp [Stmt.normal, ha])

theorem visitStmts_normal : ∀ sts : List Stmt, (visitStmts sts).Yields fun sts' => Stmt.allNormal sts' = true
  | [] => WalkM.Yields.pure rfl
  | st :: sts => by
    have hrest := visitStmts_normal sts
    rw [visitStmts]
    refine (WalkM.Yields.any _).bind fun sc _ => ?_
    split
    · -- a whole struct assignment becomes field assignments, each walked
      rename_i expanded hex
      exact (WalkM.Yields.mapM fun s hs => visitFieldAssign_normal
        (expandStructAssign_kind hex s hs)).bind fun _ hfirst => hrest.bind fun _ hrest' =>
          WalkM.Yields.pure (Stmt.allNormal_iff.2 (List.forall_mem_append.2
            ⟨hfirst, Stmt.allNormal_iff.1 hrest'⟩))
    · exact (visitStmt_normal st).bind fun _ hst => hrest.bind fun _ hrest' =>
        WalkM.Yields.pure (by simp [Stmt.allNormal, hst, hrest'])

end

theorem walkBody_normal (sc : Scope) (w : Walk) (body : List Stmt) :
    Stmt.allNormal (walkBody sc w body).1 = true :=
  visitStmts_normal body sc w

/-- After the passes, every body of every target is normal: each expression the walk visits,
at any depth, has no operator without a block, no negation of a negation and no arithmetic on
two numeric literals. -/
theorem resolved_bodies_normal (p : Project) :
    ∀ t ∈ p.declareAssigned.resolve.1.targets, ∀ b ∈ t.bodies, Stmt.allNormal b = true := by
  intro t ht b hb
  obtain ⟨t₀, -, stage, rfl⟩ := Project.targets_resolve _ t ht
  obtain ⟨b₀, -, sc, w, rfl⟩ := Sprite.bodies_resolve t₀ stage b hb
  exact walkBody_normal sc w b₀

end BlockGraph
