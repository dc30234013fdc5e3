import BlockGraph.Analysis.Resolve
/-!
# Rewritten expressions keep their meaning

On the integer and condition fragment, evaluated with 64-bit wrapping arithmetic, an expression
and its rewriting have the same value.
-/

namespace BlockGraph

/-- The value of an integer expression, `env` giving each variable's value; the operators wrap
as 64-bit words. -/
def Expr.evalInt (env : String → Int64) : Expr → Int64
  | .int v _ => Int64.ofInt v
  | .name n => env n.render
  | .unop .neg e _ => -e.evalInt env
  | .binop .add l r _ => l.evalInt env + r.evalInt env
  | .binop .sub l r _ => l.evalInt env - r.evalInt env
  | .binop .mul l r _ => l.evalInt env * r.evalInt env
  | _ => 0

def Expr.evalBool (env : String → Int64) : Expr → Bool
  | .unop .not e _ => !e.evalBool env
  | .binop .lt l r _ => decide (l.evalInt env < r.evalInt env)
  | .binop .gt l r _ => decide (r.evalInt env < l.evalInt env)
  | .binop .eq l r _ => decide (l.evalInt env = r.evalInt env)
  | .binop .le l r _ => decide (l.evalInt env ≤ r.evalInt env)
  | .binop .ge l r _ => decide (r.evalInt env ≤ l.evalInt env)
  | .binop .ne l r _ => decide (l.evalInt env ≠ r.evalInt env)
  | .binop .and l r _ => l.evalBool env && r.evalBool env
  | .binop .or l r _ => l.evalBool env || r.evalBool env
  | _ => false

/-- Integer expressions: literals, variables, negation and `+ - *` of integer expressions. -/
inductive IntExpr : Expr → Prop
  | int (v : Int) (span : Span) : IntExpr (.int v span)
  | name (n : Name) : IntExpr (.name n)
  | neg {e : Expr} (span : Span) : IntExpr e → IntExpr (.unop .neg e span)
  | arith {op : BinOp} {l r : Expr} (span : Span) : op = .add ∨ op = .sub ∨ op = .mul →
      IntExpr l → IntExpr r → IntExpr (.binop op l r span)

/-- Conditions: comparisons of integer expressions, and `not`, `and`, `or` of conditions. -/
inductive BoolExpr : Expr → Prop
  | not {e : Expr} (span : Span) : BoolExpr e → BoolExpr (.unop .not e span)
  | compare {op : BinOp} {l r : Expr} (span : Span) : op ∈ [.lt, .gt, .eq, .le, .ge, .ne] →
      IntExpr l → IntExpr r → BoolExpr (.binop op l r span)
  | connect {op : BinOp} {l r : Expr} (span : Span) : op = .and ∨ op = .or →
      BoolExpr l → BoolExpr r → BoolExpr (.binop op l r span)

theorem WalkM.bind_apply {α β : Type} (x : WalkM α) (f : α → WalkM β) (sc : Scope) (w : Walk) :
    (x >>= f) sc w = f (x sc w).1 sc (x sc w).2 := rfl

theorem WalkM.pure_apply {α : Type} (a : α) (sc : Scope) (w : Walk) :
    (pure a : WalkM α) sc w = (a, w) := rfl

def rewritten (sc : Scope) (w : Walk) (e : Expr) : Expr := (visitExpr e sc w).1

theorem rewritten_unop (sc : Scope) (w : Walk) (op : UnOp) (e : Expr) (span : Span) :
    rewritten sc w (.unop op e span) =
      match op with
      | .neg => negate (rewritten sc w e) span
      | .not =>
        match rewritten sc w e with
        | .unop .not inner _ => inner
        | o => .unop .not o span
      | _ => .unop op (rewritten sc w e) span := by
  simp only [rewritten, visitExpr, WalkM.bind_apply]
  cases op <;> try rfl
  dsimp only
  split <;> simp_all [WalkM.pure_apply]

theorem rewritten_binop (sc : Scope) (w : Walk) (op : BinOp) (l r : Expr) (span : Span) :
    rewritten sc w (.binop op l r span) =
      let l' := rewritten sc w l
      let r' := rewritten sc (visitExpr l sc w).2 r
      match op with
      | .add | .sub | .mul => (foldArith op l' r' span).getD (.binop op l' r' span)
      | .le => .unop .not (.binop .lt r' l' span) span
      | .ge => .unop .not (.binop .gt r' l' span) span
      | .ne => .unop .not (.binop .eq l' r' span) span
      | .floorDiv => .unop .floor (.binop .div l' r' span) span
      | _ => .binop op l' r' span := by
  simp only [rewritten, visitExpr, WalkM.bind_apply]
  cases op <;> try rfl
  dsimp only
  generalize (visitExpr l sc w).1 = l'
  cases l' <;> try rfl
  simp only [WalkM.bind_apply]
  split <;> rfl

theorem Int64.ofInt_wrapWord (n : Int) : Int64.ofInt (wrapWord n) = Int64.ofInt n := by
  apply Int64.toInt_inj.1
  simp only [Int64.toInt_ofInt, wrapWord]
  exact Int.bmod_bmod

theorem Int64.decide_lt_eq_not_le (a b : Int64) : decide (a < b) = !decide (b ≤ a) := by
  simp only [← decide_not, Int64.not_le]

theorem IntExpr.evalInt_of_isZero {e : Expr} (he : IntExpr e) (hz : e.isZero = true)
    (env : String → Int64) : e.evalInt env = 0 := by
  cases he with
  | int v span =>
      simp only [Expr.isZero, beq_iff_eq] at hz
      simp [Expr.evalInt, hz]
  | _ => simp [Expr.isZero] at hz

theorem foldArith_evalInt {op : BinOp} {l r : Expr} (span : Span)
    (hop : op = .add ∨ op = .sub ∨ op = .mul) (hl : IntExpr l) (hr : IntExpr r)
    (env : String → Int64) :
    IntExpr ((foldArith op l r span).getD (.binop op l r span)) ∧
      ((foldArith op l r span).getD (.binop op l r span)).evalInt env =
        (Expr.binop op l r span).evalInt env := by
  have hkept := IntExpr.arith span hop hl hr
  rcases hop with rfl | rfl | rfl <;> cases hl <;> cases hr <;>
    simp [foldArith, Expr.evalInt, Int64.ofInt_wrapWord, IntExpr.int, hkept]

theorem negate_evalInt {o : Expr} (span : Span) (ho : IntExpr o) (env : String → Int64) :
    IntExpr (negate o span) ∧ (negate o span).evalInt env = -o.evalInt env := by
  have hsub := IntExpr.arith span (Or.inr (Or.inl rfl)) (IntExpr.int 0 span) ho
  cases ho with
  | int v _ => simp [negate, Expr.evalInt, Int64.ofInt_wrapWord, IntExpr.int]
  | name n => simp [negate, hsub, Expr.evalInt]
  | neg _ he => simp [negate, hsub, Expr.evalInt]
  | @arith op l r _ hop hl hr =>
      rcases hop with rfl | rfl | rfl
      · simp [negate, hsub, Expr.evalInt]
      · by_cases hz : l.isZero = true
        · simp [negate, hz, Expr.evalInt, hl.evalInt_of_isZero hz env, hr]
        · simp [negate, hz, hsub, Expr.evalInt]
      · simp [negate, hsub, Expr.evalInt]

theorem rewritten_evalInt (sc : Scope) (env : String → Int64) {e : Expr} (he : IntExpr e) :
    ∀ w : Walk, IntExpr (rewritten sc w e) ∧ (rewritten sc w e).evalInt env = e.evalInt env := by
  induction he with
  | int v span => exact fun _ => ⟨IntExpr.int v span, rfl⟩
  | name n => exact fun _ => ⟨IntExpr.name n, rfl⟩
  | neg span _ ih =>
      intro w
      obtain ⟨hty, hval⟩ := ih w
      obtain ⟨hty', hval'⟩ := negate_evalInt span hty env
      rw [rewritten_unop]
      exact ⟨hty', by rw [hval', hval]; rfl⟩
  | @arith op l r span hop _ _ ihl ihr =>
      intro w
      obtain ⟨htl, hvl⟩ := ihl w
      obtain ⟨htr, hvr⟩ := ihr (visitExpr l sc w).2
      obtain ⟨hty, hval⟩ := foldArith_evalInt span hop htl htr env
      rw [rewritten_binop]
      rcases hop with rfl | rfl | rfl <;>
        exact ⟨hty, by rw [hval]; simp only [Expr.evalInt, hvl, hvr]⟩

theorem rewritten_evalBool (sc : Scope) (env : String → Int64) {e : Expr} (he : BoolExpr e) :
    ∀ w : Walk, BoolExpr (rewritten sc w e) ∧ (rewritten sc w e).evalBool env = e.evalBool env := by
  induction he with
  | @not e span _ ih =>
      intro w
      obtain ⟨hty, hval⟩ := ih w
      rw [rewritten_unop]
      dsimp only
      split
      · rename_i inner _ heq
        rw [heq] at hty hval
        cases hty with
        | not _ hinner =>
            refine ⟨hinner, ?_⟩
            simp only [Expr.evalBool] at hval ⊢
            rw [← hval, Bool.not_not]
      · exact ⟨BoolExpr.not span hty, by simp only [Expr.evalBool, hval]⟩
  | @compare op l r span hop hl hr =>
      intro w
      obtain ⟨htl, hvl⟩ := rewritten_evalInt sc env hl w
      obtain ⟨htr, hvr⟩ := rewritten_evalInt sc env hr (visitExpr l sc w).2
      rw [rewritten_binop]
      simp only [List.mem_cons, List.not_mem_nil, or_false] at hop
      rcases hop with rfl | rfl | rfl | rfl | rfl | rfl
      · exact ⟨BoolExpr.compare span (by simp) htl htr, by simp [Expr.evalBool, hvl, hvr]⟩
      · exact ⟨BoolExpr.compare span (by simp) htl htr, by simp [Expr.evalBool, hvl, hvr]⟩
      · exact ⟨BoolExpr.compare span (by simp) htl htr, by simp [Expr.evalBool, hvl, hvr]⟩
      · exact ⟨BoolExpr.not span (BoolExpr.compare span (by simp) htr htl),
          by simp [Expr.evalBool, hvl, hvr, Int64.decide_lt_eq_not_le]⟩
      · exact ⟨BoolExpr.not span (BoolExpr.compare span (by simp) htr htl),
          by simp [Expr.evalBool, hvl, hvr, Int64.decide_lt_eq_not_le]⟩
      · exact ⟨BoolExpr.not span (BoolExpr.compare span (by simp) htl htr),
          by simp [Expr.evalBool, hvl, hvr]⟩
  | @connect op l r span hop _ _ ihl ihr =>
      intro w
      obtain ⟨htl, hvl⟩ := ihl w
      obtain ⟨htr, hvr⟩ := ihr (visitExpr l sc w).2
      rw [rewritten_binop]
      rcases hop with rfl | rfl <;>
        exact ⟨BoolExpr.connect span (by simp) htl htr, by simp only [Expr.evalBool, hvl, hvr]⟩

theorem rewritten_walk (sc : Scope) (e : Expr) : ∀ w w' : Walk, rewritten sc w e = rewritten sc w' e := by
  induction e using Expr.rec
    (motive_2 := fun es => ∀ w w' : Walk, (visitExprs es sc w).1 = (visitExprs es sc w').1) with
  | int | float | str | name | arg | accessor => intro w w'; rfl
  | repr p args span ih =>
      intro w w'
      simp only [rewritten, visitExpr, WalkM.bind_apply, WalkM.pure_apply]
      rw [ih w w']
  | unop op operand span ih =>
      intro w w'
      simp only [rewritten_unop]
      rw [ih w w']
  | binop op l r span ihl ihr =>
      intro w w'
      simp only [rewritten_binop]
      rw [ihl w w', ihr _ (visitExpr l sc w').2]
  | nil => rfl
  | cons e es ih ihs w w' =>
      simp only [visitExprs, WalkM.bind_apply, WalkM.pure_apply]
      rw [show (visitExpr e sc w).1 = (visitExpr e sc w').1 from ih w w', ihs _ (visitExpr e sc w').2]

/-- Rewriting keeps the value of every integer expression and every condition, and the
rewritten expression is the same whatever the walk gathered before it, so a value walked once
for each field of a struct assignment is rewritten alike each time. -/
theorem rewriting_keeps_meaning (sc : Scope) (env : String → Int64) (e : Expr) (w : Walk) :
    (IntExpr e → IntExpr (rewritten sc w e) ∧ (rewritten sc w e).evalInt env = e.evalInt env) ∧
      (BoolExpr e → BoolExpr (rewritten sc w e) ∧
        (rewritten sc w e).evalBool env = e.evalBool env) ∧
      ∀ w' : Walk, rewritten sc w' e = rewritten sc w e :=
  ⟨fun he => rewritten_evalInt sc env he w, fun he => rewritten_evalBool sc env he w,
    fun w' => rewritten_walk sc e w' w⟩

end BlockGraph
