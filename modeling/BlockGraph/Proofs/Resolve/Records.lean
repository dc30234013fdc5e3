import BlockGraph.Proofs.Emission.Reads
import BlockGraph.Proofs.Emission.Keys
import BlockGraph.Proofs.Emission.Faults

namespace BlockGraph

theorem mem_insertNew {α : Type} [BEq α] [LawfulBEq α] {xs : List α} {x y : α} :
    y ∈ insertNew xs x ↔ y ∈ xs ∨ y = x := by
  unfold insertNew
  split
  · rename_i hx
    constructor
    · exact Or.inl
    · rintro (hy | rfl)
      · exact hy
      · exact List.contains_iff_mem.1 hx
  · simp

/-- Every variable, list, procedure and message of `R` is one of `R'`. -/
structure References.Sub (R R' : References) : Prop where
  vars : ∀ v ∈ R.vars, v ∈ R'.vars
  lists : ∀ l ∈ R.lists, l ∈ R'.lists
  procs : ∀ q ∈ R.procs, q ∈ R'.procs
  messages : ∀ m ∈ R.messages, m ∈ R'.messages

namespace References.Sub

theorem refl (R : References) : R.Sub R := ⟨fun _ h => h, fun _ h => h, fun _ h => h, fun _ h => h⟩

theorem trans {R₁ R₂ R₃ : References} (h₁ : R₁.Sub R₂) (h₂ : R₂.Sub R₃) : R₁.Sub R₃ :=
  ⟨fun v hv => h₂.vars v (h₁.vars v hv), fun l hl => h₂.lists l (h₁.lists l hl),
    fun q hq => h₂.procs q (h₁.procs q hq), fun m hm => h₂.messages m (h₁.messages m hm)⟩

end References.Sub

namespace WalkM

/-- In scope `sc`, every run of `x` only adds references, and ends with a value that `Q` accepts
under all references holding those it ends with. -/
def Adds {α : Type} (sc : Scope) (Q : α → References → Prop) (x : WalkM α) : Prop :=
  ∀ w, w.refs.Sub (x sc w).2.refs ∧ ∀ R, (x sc w).2.refs.Sub R → Q (x sc w).1 R

namespace Adds

variable {α β γ : Type} {sc : Scope} {Q : α → References → Prop} {Q' : β → References → Prop}

theorem pure {a : α} (h : ∀ R, Q a R) : (Pure.pure a : WalkM α).Adds sc Q :=
  fun _ => ⟨References.Sub.refl _, fun R _ => h R⟩

theorem bind {x : WalkM α} {f : α → WalkM β} (hx : x.Adds sc Q)
    (hf : ∀ a, (f a).Adds sc fun b R => Q a R → Q' b R) : (x >>= f).Adds sc Q' := by
  intro w
  obtain ⟨hsub₁, hQ⟩ := hx w
  obtain ⟨hsub₂, hQ'⟩ := hf (x sc w).1 (x sc w).2
  exact ⟨hsub₁.trans hsub₂, fun R hR => hQ' R hR (hQ R (hsub₂.trans hR))⟩

theorem imp {x : WalkM α} {Q₁ : α → References → Prop} (hx : x.Adds sc Q)
    (h : ∀ a R, Q a R → Q₁ a R) : x.Adds sc Q₁ :=
  fun w => ⟨(hx w).1, fun R hR => h _ R ((hx w).2 R hR)⟩

theorem map {x : WalkM α} {f : α → β} (hx : x.Adds sc Q) (h : ∀ a R, Q a R → Q' (f a) R) :
    (f <$> x).Adds sc Q' :=
  fun w => ⟨(hx w).1, fun R hR => h _ R ((hx w).2 R hR)⟩

theorem read_bind {f : Scope → WalkM α} (h : (f sc).Adds sc Q) : (read >>= f).Adds sc Q := h

theorem seq {x : WalkM α} {f : α → WalkM β} (hx : x.Adds sc fun _ _ => True)
    (hf : ∀ a, (f a).Adds sc Q') : (x >>= f).Adds sc Q' :=
  hx.bind fun a => (hf a).imp fun _ _ h _ => h

theorem of_sub {x : WalkM α} (h : ∀ w : Walk, w.refs.Sub (x sc w).2.refs) : x.Adds sc fun _ _ => True :=
  fun w => ⟨h w, fun _ _ => trivial⟩

theorem mapM {f : γ → WalkM α} {xs : List γ} (hf : ∀ x ∈ xs, (f x).Adds sc Q) :
    (xs.mapM f).Adds sc fun ys R => ∀ y ∈ ys, Q y R := by
  induction xs with
  | nil =>
    rw [List.mapM_nil]
    exact pure fun _ => by simp
  | cons x xs ih =>
    rw [List.mapM_cons]
    refine (hf x List.mem_cons_self).bind fun y => (ih fun x' hx' =>
      hf x' (List.mem_cons_of_mem _ hx')).bind fun ys => pure fun R hys hy => ?_
    intro z hz
    rcases List.mem_cons.1 hz with rfl | hz
    · exact hy
    · exact hys z hz

theorem and_yields {x : WalkM α} {P : α → Prop} (hx : x.Adds sc Q) (hy : x.Yields P) :
    x.Adds sc fun a R => Q a R ∧ P a :=
  fun w => ⟨(hx w).1, fun R hR => ⟨(hx w).2 R hR, hy sc w⟩⟩

end Adds

variable {sc : Scope}

theorem addVar_adds (n : String) : (addVar n).Adds sc fun _ R => n ∈ R.vars := fun _ =>
  ⟨⟨fun _ hv => mem_insertNew.2 (Or.inl hv), fun _ h => h, fun _ h => h, fun _ h => h⟩,
    fun _ hR => hR.vars n (mem_insertNew.2 (Or.inr rfl))⟩

theorem addList_adds (n : String) : (addList n).Adds sc fun _ R => n ∈ R.lists := fun _ =>
  ⟨⟨fun _ h => h, fun _ hl => mem_insertNew.2 (Or.inl hl), fun _ h => h, fun _ h => h⟩,
    fun _ hR => hR.lists n (mem_insertNew.2 (Or.inr rfl))⟩

theorem addProc_adds (n : String) : (addProc n).Adds sc fun _ R => n ∈ R.procs := fun _ =>
  ⟨⟨fun _ h => h, fun _ h => h, fun _ hq => mem_insertNew.2 (Or.inl hq), fun _ h => h⟩,
    fun _ hR => hR.procs n (mem_insertNew.2 (Or.inr rfl))⟩

theorem addMessage_adds (n : String) : (addMessage n).Adds sc fun _ R => n ∈ R.messages := fun _ =>
  ⟨⟨fun _ h => h, fun _ h => h, fun _ h => h, fun _ hm => mem_insertNew.2 (Or.inl hm)⟩,
    fun _ hR => hR.messages n (mem_insertNew.2 (Or.inr rfl))⟩

theorem addVariant_adds (e v : String) : (addVariant e v).Adds sc fun _ _ => True :=
  Adds.of_sub fun _ => ⟨fun _ h => h, fun _ h => h, fun _ h => h, fun _ h => h⟩

theorem addField_adds (s f : String) : (addField s f).Adds sc fun _ _ => True :=
  Adds.of_sub fun _ => ⟨fun _ h => h, fun _ h => h, fun _ h => h, fun _ h => h⟩

theorem report_adds (d : Diagnostic) : (report d).Adds sc fun _ _ => True :=
  Adds.of_sub fun _ => References.Sub.refl _

theorem markRead_adds (n : String) : (markRead n).Adds sc fun _ _ => True :=
  Adds.of_sub fun _ => References.Sub.refl _

end WalkM

variable {sc : Scope}

theorem recordName_adds (n : Name) :
    (recordName n).Adds sc fun _ R => if (sc.var? n.base).isSome then n.base ∈ R.vars else n.base ∈ R.lists := by
  unfold recordName
  refine WalkM.Adds.read_bind ?_
  cases hv : sc.var? n.base with
  | some v =>
    simp only [Option.isSome_some, ↓reduceIte]
    -- a variable, and the struct field it names, if any
    refine (WalkM.addVar_adds n.base).bind fun _ => WalkM.Adds.imp (Q := fun _ _ => True) ?_
      fun _ _ _ h => h
    split
    · split
      · exact WalkM.addField_adds _ _
      · exact WalkM.Adds.pure fun _ => trivial
    · exact WalkM.Adds.pure fun _ => trivial
  | none =>
    simp only [Option.isSome_none, Bool.false_eq_true, ↓reduceIte]
    refine (WalkM.addList_adds n.base).bind fun _ => WalkM.Adds.imp (Q := fun _ _ => True) ?_
      fun _ _ _ h => h
    split
    · exact WalkM.report_adds _
    · exact WalkM.Adds.pure fun _ => trivial

theorem recordAccessor_adds (symbol property : String) :
    (recordAccessor symbol property).Adds sc fun _ R =>
      ∀ v, sc.enum? symbol = none → sc.struct? symbol = none → sc.var? symbol = some v →
        v.type.structName?.isSome = true → symbol ∈ R.vars := by
  unfold recordAccessor
  refine WalkM.Adds.read_bind ?_
  split
  · rename_i henum
    exact (WalkM.addVariant_adds _ _).imp fun _ _ _ v h => absurd h (Option.isSome_iff_ne_none.1 henum)
  split
  · rename_i hstruct
    exact (WalkM.addField_adds _ _).imp fun _ _ _ v _ h => absurd h (Option.isSome_iff_ne_none.1 hstruct)
  cases hv : sc.var? symbol with
  | none => exact WalkM.Adds.pure fun _ v _ _ h => by cases h
  | some v =>
    dsimp only
    cases hsn : v.type.structName? with
    | none =>
      refine WalkM.Adds.pure fun _ v' _ _ hv' hs => ?_
      cases hv'
      simp [hsn] at hs
    | some sn =>
      exact (WalkM.addVar_adds symbol).bind fun _ =>
        (WalkM.addField_adds _ _).imp fun _ _ _ h _ _ _ _ _ => h

/-- Emission in `es` resolves names as the walk in `sc` does: it finds the same variables, enums
and structs. -/
structure Graph.EmitScope.Agrees (es : Graph.EmitScope) (sc : Scope) : Prop where
  var : ∀ n, es.var? n = sc.var? n
  enum : ∀ n, es.enum? n = sc.enum? n
  struct : ∀ n, es.struct? n = sc.struct? n

/-- No struct in scope `es` has the name of a variable in it. -/
def Graph.EmitScope.StructsApart (es : Graph.EmitScope) : Prop :=
  ∀ d ∈ es.sprite.structs ++ (es.stage.map Sprite.structs).getD [], (es.var? d.name).isNone = true

instance : DecidablePred Graph.EmitScope.StructsApart := fun es =>
  inferInstanceAs (Decidable (∀ d ∈ es.sprite.structs ++ (es.stage.map Sprite.structs).getD [],
    (es.var? d.name).isNone = true))

theorem Graph.EmitScope.StructsApart.var_none {es : Graph.EmitScope} (h : es.StructsApart) {n : String}
    {d : StructDecl} (hd : es.struct? n = some d) : es.var? n = none := by
  have hname : d.name = n ∧ d ∈ es.sprite.structs ++ (es.stage.map Sprite.structs).getD [] := by
    unfold Graph.EmitScope.struct? at hd
    cases hs : es.sprite.struct? n with
    | some d' =>
      rw [hs, Option.orElse_some] at hd
      cases hd
      exact ⟨by simpa using List.find?_some hs, List.mem_append_left _ (List.mem_of_find?_eq_some hs)⟩
    | none =>
      rw [hs, Option.orElse_none] at hd
      obtain ⟨st, hst, hfind⟩ := Option.bind_eq_some_iff.1 hd
      rw [hst]
      exact ⟨by simpa using List.find?_some hfind, List.mem_append_right _ (List.mem_of_find?_eq_some hfind)⟩
  rw [← hname.1]
  simpa using h d hname.2

theorem Graph.EmitScope.Agrees.structFields {es : Graph.EmitScope} {sc : Scope} (h : es.Agrees sc)
    (v : Var) : es.structFields v = sc.structFields v := by
  unfold Graph.EmitScope.structFields Scope.structFields
  cases v.type.structName? with
  | none => rfl
  | some n => simp only [h.struct n]

theorem foldArith_ne_str {op : BinOp} {l r : Expr} {span s : Span} {m : String} :
    foldArith op l r span ≠ some (.str m s) := by
  intro he
  unfold foldArith at he
  split at he <;> dsimp only at he <;> split at he <;> cases he

theorem rewritten_str {sc : Scope} {w : Walk} {e : Expr} {m : String} {span : Span}
    (h : rewritten sc w e = .str m span) : e = .str m span ∨ ∃ op o s, e = .unop op o s := by
  cases e with
  | str t s => exact Or.inl h
  | unop op o s => exact Or.inr ⟨op, o, s, rfl⟩
  | binop op l r s =>
    rw [rewritten_binop] at h
    generalize rewritten sc w l = l' at h
    generalize rewritten sc (visitExpr l sc w).2 r = r' at h
    dsimp only at h
    -- folded arithmetic gives a number, every other rewriting an operation
    cases op <;> try cases h
    all_goals
      cases hf : foldArith _ l' r' s with
      | none => rw [hf] at h; cases h
      | some e => rw [hf, Option.getD_some] at h; subst h; exact absurd hf foldArith_ne_str
  | _ => cases h

/-- Whether an expression is a unary operation. -/
def Expr.isUnop : Expr → Bool
  | .unop .. => true
  | _ => false

/-- A statement that sends a message is not given it as a unary operation. -/
def Stmt.SendsPlainly (st : Stmt) : Prop :=
  st.kind = .block → st.command.sendsMessage = true → st.args.head?.any Expr.isUnop = false

instance : DecidablePred Stmt.SendsPlainly := fun st =>
  inferInstanceAs (Decidable (st.kind = .block → st.command.sendsMessage = true →
    st.args.head?.any Expr.isUnop = false))

section Agreeing

variable {es : Graph.EmitScope} {sc : Scope} {R : References}

theorem negate_recorded {o : Expr} (span : Span) (h : o.Recorded es R) :
    (negate o span).Recorded es R := by
  unfold negate
  split
  · trivial
  · trivial
  · split
    · exact h.2
    · exact ⟨trivial, h⟩
  · exact ⟨trivial, h⟩

theorem foldArith_recorded {op : BinOp} {l r : Expr} {span : Span} :
    ∀ e ∈ foldArith op l r span, e.Recorded es R := by
  intro e he
  unfold foldArith at he
  -- whatever the operator, a folded value is a literal
  split at he <;> dsimp only at he <;> split at he <;> cases he <;> trivial

theorem foldArith_getD_recorded {op : BinOp} {l r : Expr} {span : Span} (hl : l.Recorded es R)
    (hr : r.Recorded es R) : ((foldArith op l r span).getD (.binop op l r span)).Recorded es R := by
  cases hf : foldArith op l r span with
  | none => exact ⟨hl, hr⟩
  | some e => exact foldArith_recorded e hf

theorem name_recorded (hagree : es.Agrees sc) {n : Name}
    (h : if (sc.var? n.base).isSome then n.base ∈ R.vars else n.base ∈ R.lists) :
    (Expr.name n).Recorded es R := by
  simpa only [Expr.Recorded, hagree.var] using h

theorem accessor_recorded (hagree : es.Agrees sc) (hapart : es.StructsApart) {symbol property : String}
    {s1 s2 : Span}
    (h : ∀ v, sc.enum? symbol = none → sc.struct? symbol = none → sc.var? symbol = some v →
      v.type.structName?.isSome = true → symbol ∈ R.vars) :
    (Expr.accessor symbol s1 property s2).Recorded es R := by
  intro v henum hv hfields
  have hstruct : sc.struct? symbol = none := by
    rw [← hagree.struct]
    cases hd : es.struct? symbol with
    | none => rfl
    | some d => rw [hapart.var_none hd] at hv; cases hv
  refine h v (by rwa [← hagree.enum]) hstruct (by rwa [← hagree.var]) ?_
  unfold Graph.EmitScope.structFields at hfields
  cases hsn : v.type.structName? with
  | none => simp [hsn] at hfields
  | some _ => rfl

/-- What the walk returns for an expression is recorded in what it gathered, as emission
resolves it, and so is what it returns for a list of expressions. -/
theorem visitExpr_recorded (hagree : es.Agrees sc) (hapart : es.StructsApart) :
    (∀ e : Expr, (visitExpr e).Adds sc fun e' R => e'.Recorded es R) ∧
      ∀ args : List Expr, (visitExprs args).Adds sc fun args' R => Expr.AllRecorded es R args' := by
  refine visitExpr.mutual_induct (fun e => (visitExpr e).Adds sc fun e' R => e'.Recorded es R)
    (fun args => (visitExprs args).Adds sc fun args' R => Expr.AllRecorded es R args')
    ?accessor ?name ?arg ?repr ?unop ?binop ?other ?nil ?cons
  case accessor =>
    intro sym s1 prop s2
    rw [visitExpr]
    exact (recordAccessor_adds sym prop).bind fun _ =>
      WalkM.Adds.pure fun _ h => accessor_recorded hagree hapart h
  case name =>
    intro n
    rw [visitExpr]
    exact (recordName_adds n).bind fun _ => WalkM.Adds.pure fun _ h => name_recorded hagree h
  case arg =>
    intro n
    rw [visitExpr]
    exact WalkM.Adds.seq (WalkM.markRead_adds _) fun _ => WalkM.Adds.pure fun _ => trivial
  case repr =>
    intro p args span ih
    rw [visitExpr]
    exact ih.bind fun _ => WalkM.Adds.pure fun _ h => h
  case unop =>
    intro op operand span ih
    rw [visitExpr]
    refine ih.bind fun o => ?_
    -- a negation is folded or rewritten as a subtraction, a double `not` dropped
    split
    · exact WalkM.Adds.pure fun _ h => negate_recorded span h
    · split
      · exact WalkM.Adds.pure fun _ h => h
      · exact WalkM.Adds.pure fun _ h => h
    · exact WalkM.Adds.pure fun _ h => h
  case binop =>
    intro op lhs rhs span ihl ihr
    rw [visitExpr]
    refine ihl.bind fun l => ihr.bind fun r => ?_
    -- every rewriting keeps both operands, folded arithmetic only literals
    split
    · split
      · refine WalkM.Adds.read_bind ?_
        dsimp only
        split
        · exact WalkM.Adds.seq ((WalkM.addList_adds _).imp fun _ _ _ => trivial) fun _ =>
            WalkM.Adds.pure fun _ hr hl => ⟨hl, hr⟩
        · exact WalkM.Adds.pure fun _ hr hl => ⟨hl, hr⟩
      · exact WalkM.Adds.pure fun _ hr hl => ⟨hl, hr⟩
    · exact WalkM.Adds.pure fun _ hr hl => foldArith_getD_recorded hl hr
    · exact WalkM.Adds.pure fun _ hr hl => foldArith_getD_recorded hl hr
    · exact WalkM.Adds.pure fun _ hr hl => foldArith_getD_recorded hl hr
    · exact WalkM.Adds.pure fun _ hr hl => ⟨hr, hl⟩
    · exact WalkM.Adds.pure fun _ hr hl => ⟨hr, hl⟩
    · exact WalkM.Adds.pure fun _ hr hl => ⟨hl, hr⟩
    · exact WalkM.Adds.pure fun _ hr hl => ⟨hl, hr⟩
    · exact WalkM.Adds.pure fun _ hr hl => ⟨hl, hr⟩
  case other =>
    intro e hacc hname harg hrepr hunop hbinop
    cases e with
    | int v span => exact WalkM.Adds.pure (a := Expr.int v span) fun _ => trivial
    | float v span => exact WalkM.Adds.pure (a := Expr.float v span) fun _ => trivial
    | str t span => exact WalkM.Adds.pure (a := Expr.str t span) fun _ => trivial
    | name n => exact (hname n rfl).elim
    | arg n => exact (harg n rfl).elim
    | accessor sym s1 prop s2 => exact (hacc sym s1 prop s2 rfl).elim
    | repr p args span => exact (hrepr p args span rfl).elim
    | unop op o span => exact (hunop op o span rfl).elim
    | binop op l r span => exact (hbinop op l r span rfl).elim
  case nil =>
    rw [visitExprs]
    exact WalkM.Adds.pure fun _ => trivial
  case cons =>
    intro e args ihe ihargs
    rw [visitExprs]
    exact ihe.bind fun _ => ihargs.bind fun _ => WalkM.Adds.pure fun _ hargs he => ⟨he, hargs⟩

theorem visitExprOption_recorded (hagree : es.Agrees sc) (hapart : es.StructsApart) (o : Option Expr) :
    (visitExprOption o).Adds sc fun o' R => ∀ e ∈ o', e.Recorded es R := by
  cases o with
  | none => exact WalkM.Adds.pure fun _ _ h => by cases h
  | some e =>
    exact ((visitExpr_recorded hagree hapart).1 e).map fun e' _ he e'' h => by cases h; exact he

theorem visitExprs_head (args : List Expr) :
    (visitExprs args).Yields fun args' => ∀ m s, args'.head? = some (.str m s) →
      args.head? = some (.str m s) ∨ args.head?.any Expr.isUnop = true := by
  intro sc w m s h
  cases args with
  | nil => simp [visitExprs, WalkM.pure_apply] at h
  | cons e args =>
    simp only [visitExprs, WalkM.bind_apply, WalkM.pure_apply, List.head?_cons,
      Option.some.injEq] at h
    rcases rewritten_str h with rfl | ⟨op, o, s', rfl⟩
    · exact Or.inl rfl
    · exact Or.inr rfl

theorem expandStructAssign_setField {st : Stmt} {expanded : List Stmt}
    (h : expandStructAssign sc st = some expanded) : ∀ s ∈ expanded, s.kind = .setField := by
  rw [expandStructAssign_eq] at h
  obtain ⟨D, -, rfl⟩ := Option.map_eq_some_iff.1 h
  intro s hs
  obtain ⟨f, -, rfl⟩ := List.mem_map.1 hs
  rfl

theorem visitFieldAssign_recorded (hagree : es.Agrees sc) (hapart : es.StructsApart) {st : Stmt}
    (hk : st.kind = .setField) :
    (visitFieldAssign st).Adds sc fun st' R => ∀ x ∈ st'.reached, x.Recorded es R := by
  unfold visitFieldAssign
  refine (visitExprOption_recorded hagree hapart st.value).bind fun value' =>
    WalkM.Adds.pure fun R hvalue => ?_
  rw [Graph.Stmt.reached_single (by simp [hk]), List.forall_mem_singleton]
  exact ⟨fun e he => hvalue e (by simpa [Stmt.walked, hk] using he),
    fun h => by simp [hk, StmtKind.changesList] at h, fun h => by simp [hk] at h,
    fun h => by simp [hk] at h⟩

theorem visitStmt_recorded (hagree : es.Agrees sc) (hapart : es.StructsApart) :
    (∀ st : Stmt, (∀ x ∈ st.reached, x.SendsPlainly) →
      (visitStmt st).Adds sc fun st' R => ∀ x ∈ st'.reached, x.Recorded es R) ∧
    ∀ sts : List Stmt, (∀ x ∈ Stmt.chainReached sts, x.SendsPlainly) →
      (visitStmts sts).Adds sc fun out R => ∀ x ∈ Stmt.chainReached out, x.Recorded es R := by
  have hexprs := (visitExpr_recorded hagree hapart).2
  have hopt := visitExprOption_recorded hagree hapart
  refine visitStmt.mutual_induct
    (fun st => (∀ x ∈ st.reached, x.SendsPlainly) →
      (visitStmt st).Adds sc fun st' R => ∀ x ∈ st'.reached, x.Recorded es R)
    (fun sts => (∀ x ∈ Stmt.chainReached sts, x.SendsPlainly) →
      (visitStmts sts).Adds sc fun out R => ∀ x ∈ Stmt.chainReached out, x.Recorded es R)
    ?repeatTimes ?forever ?branch ?repeatUntil ?setVar ?changeVar ?setField ?showData ?hideData
    ?listAdd ?listDelete ?listDeleteAll ?listInsert ?listSet ?listChange ?blockText ?blockOther
    ?blockSilent ?procCall ?nil ?cons
  case repeatTimes =>
    intro span name type isLocal value index times cond op body orElse command proc args _ ih hsends
    simp only [Stmt.reached, List.forall_mem_cons] at hsends
    rw [visitStmt]
    refine (hopt times).bind fun times' => (ih hsends.2).bind fun body' =>
      WalkM.Adds.pure fun R hbody htimes => ?_
    simp only [Stmt.reached, List.forall_mem_cons]
    exact ⟨⟨fun e he => htimes e (by simpa [Stmt.walked] using he), fun h => (by cases h),
      fun h => (by cases h), fun h => (by cases h)⟩, hbody⟩
  case forever =>
    intro span name type isLocal value index times cond op body orElse command proc args _ ih hsends
    simp only [Stmt.reached, List.forall_mem_cons] at hsends
    rw [visitStmt]
    refine (ih hsends.2).bind fun body' => WalkM.Adds.pure fun R hbody => ?_
    simp only [Stmt.reached, List.forall_mem_cons]
    exact ⟨⟨fun e he => by simp [Stmt.walked] at he, fun h => (by cases h),
      fun h => (by cases h), fun h => (by cases h)⟩, hbody⟩
  case branch =>
    intro span name type isLocal value index times cond op body orElse command proc args _ ih ihElse
      hsends
    simp only [Stmt.reached, List.forall_mem_cons, List.forall_mem_append] at hsends
    rw [visitStmt]
    refine (hopt cond).bind fun cond' => (ih hsends.2.1).bind fun body' =>
      (ihElse hsends.2.2).bind fun orElse' => WalkM.Adds.pure fun R helse hbody hcond => ?_
    simp only [Stmt.reached, List.forall_mem_cons, List.forall_mem_append]
    exact ⟨⟨fun e he => hcond e (by simpa [Stmt.walked] using he), fun h => (by cases h),
      fun h => (by cases h), fun h => (by cases h)⟩, hbody, helse⟩
  case repeatUntil =>
    intro span name type isLocal value index times cond op body orElse command proc args _ ih hsends
    simp only [Stmt.reached, List.forall_mem_cons] at hsends
    rw [visitStmt]
    refine (hopt cond).bind fun cond' => (ih hsends.2).bind fun body' =>
      WalkM.Adds.pure fun R hbody hcond => ?_
    simp only [Stmt.reached, List.forall_mem_cons]
    exact ⟨⟨fun e he => hcond e (by simpa [Stmt.walked] using he), fun h => (by cases h),
      fun h => (by cases h), fun h => (by cases h)⟩, hbody⟩
  case setVar | changeVar | setField =>
    intro span name type isLocal value index times cond op body orElse command proc args _ _
    rw [visitStmt]
    refine (hopt value).bind fun value' => WalkM.Adds.pure fun R hvalue => ?_
    simp only [Stmt.reached, List.forall_mem_singleton]
    exact ⟨fun e he => hvalue e (by simpa [Stmt.walked] using he), fun h => (by cases h),
      fun h => (by cases h), fun h => (by cases h)⟩
  case showData | hideData =>
    intro span name type isLocal value index times cond op body orElse command proc args _ _
    rw [visitStmt]
    refine WalkM.Adds.pure fun R => ?_
    simp only [Stmt.reached, List.forall_mem_singleton]
    exact ⟨fun e he => by simp [Stmt.walked] at he, fun h => (by cases h),
      fun h => (by cases h), fun h => (by cases h)⟩
  case listAdd =>
    intro span name type isLocal value index times cond op body orElse command proc args _ _
    rw [visitStmt]
    refine (WalkM.addList_adds name.base).bind fun _ => (hopt value).bind fun value' =>
      WalkM.Adds.pure fun R hvalue hlist => ?_
    simp only [Stmt.reached, List.forall_mem_singleton]
    exact ⟨fun e he => hvalue e (by simpa [Stmt.walked] using he), fun _ => hlist,
      fun h => (by cases h), fun h => (by cases h)⟩
  case listDelete =>
    intro span name type isLocal value index times cond op body orElse command proc args _ _
    rw [visitStmt]
    refine (WalkM.addList_adds name.base).bind fun _ => (hopt index).bind fun index' =>
      WalkM.Adds.pure fun R hindex hlist => ?_
    simp only [Stmt.reached, List.forall_mem_singleton]
    exact ⟨fun e he => hindex e (by simpa [Stmt.walked] using he), fun _ => hlist,
      fun h => (by cases h), fun h => (by cases h)⟩
  case listDeleteAll =>
    intro span name type isLocal value index times cond op body orElse command proc args _ _
    rw [visitStmt]
    refine (WalkM.addList_adds name.base).bind fun _ => WalkM.Adds.pure fun R hlist => ?_
    simp only [Stmt.reached, List.forall_mem_singleton]
    exact ⟨fun e he => by simp [Stmt.walked] at he, fun _ => hlist,
      fun h => (by cases h), fun h => (by cases h)⟩
  case listInsert | listSet | listChange =>
    intro span name type isLocal value index times cond op body orElse command proc args _ _
    rw [visitStmt]
    refine (WalkM.addList_adds name.base).bind fun _ => (hopt index).bind fun index' =>
      (hopt value).bind fun value' => WalkM.Adds.pure fun R hvalue hindex hlist => ?_
    simp only [Stmt.reached, List.forall_mem_singleton]
    refine ⟨fun e he => ?_, fun _ => hlist, fun h => (by cases h), fun h => (by cases h)⟩
    simp only [Stmt.walked, List.mem_append, Option.mem_toList] at he
    rcases he with he | he
    · exact hindex e he
    · exact hvalue e he
  case blockText =>
    intro span name type isLocal value index times cond op body orElse command proc hsend m mspan
      tail _ _
    rw [visitStmt, if_pos hsend]
    refine (WalkM.addMessage_adds m).bind fun _ =>
      ((hexprs _).and_yields (visitExprs_head _)).bind fun args' =>
        WalkM.Adds.pure fun R hargs hmsg => ?_
    simp only [Stmt.reached, List.forall_mem_singleton]
    refine ⟨fun e he => (Expr.allRecorded_iff.1 hargs.1) e he, fun h => (by cases h),
      fun h => (by cases h), fun _ _ m' s' hm' => ?_⟩
    rcases hargs.2 m' s' hm' with h | h
    · simp only [List.head?_cons, Option.some.injEq, Expr.str.injEq] at h
      exact h.1 ▸ hmsg
    · cases h
  case blockOther =>
    intro span name type isLocal value index times cond op body orElse command proc args hsend hother
      _ hsends
    simp only [Stmt.reached, List.forall_mem_singleton] at hsends
    have hplain : args.head?.any Expr.isUnop = false := hsends rfl hsend
    rw [visitStmt.eq_def]
    dsimp only
    rw [if_pos hsend]
    split
    · exact absurd rfl (hother _ _ _)
    refine ((hexprs _).and_yields (visitExprs_head _)).bind fun args' =>
      WalkM.Adds.pure fun R hargs => ?_
    simp only [Stmt.reached, List.forall_mem_singleton]
    refine ⟨fun e he => (Expr.allRecorded_iff.1 hargs.1) e he, fun h => (by cases h),
      fun h => (by cases h), fun _ _ m' s' hm' => ?_⟩
    rcases hargs.2 m' s' hm' with h | h
    · cases args with
      | nil => cases h
      | cons a tail =>
        simp only [List.head?_cons, Option.some.injEq] at h
        exact absurd (h ▸ rfl) (hother m' s' tail)
    · rw [h] at hplain
      cases hplain
  case blockSilent =>
    intro span name type isLocal value index times cond op body orElse command proc args hsilent _ _
    rw [visitStmt.eq_def]
    dsimp only
    rw [if_neg hsilent]
    refine (hexprs _).bind fun args' => WalkM.Adds.pure fun R hargs => ?_
    simp only [Stmt.reached, List.forall_mem_singleton]
    exact ⟨fun e he => (Expr.allRecorded_iff.1 hargs) e he, fun h => (by cases h),
      fun h => (by cases h), fun _ h => absurd h hsilent⟩
  case procCall =>
    intro span name type isLocal value index times cond op body orElse command proc args _ _
    rw [visitStmt]
    refine (WalkM.addProc_adds proc).bind fun _ => (hexprs _).bind fun args' =>
      WalkM.Adds.pure fun R hargs hproc => ?_
    simp only [Stmt.reached, List.forall_mem_singleton]
    exact ⟨fun e he => (Expr.allRecorded_iff.1 hargs) e he, fun h => (by cases h),
      fun _ => hproc, fun h => (by cases h)⟩
  case nil =>
    intro _
    rw [visitStmts]
    exact WalkM.Adds.pure fun _ x hx => by simp [Stmt.chainReached] at hx
  case cons =>
    intro st sts ihsts ihst hsends
    rw [Stmt.chainReached, List.forall_mem_append] at hsends
    rw [visitStmts]
    refine WalkM.Adds.read_bind ?_
    split
    · -- an assignment of a whole struct: field assignments, each with its value walked
      rename_i expanded hexp
      refine (WalkM.Adds.mapM fun x hx => visitFieldAssign_recorded hagree hapart
        (expandStructAssign_setField hexp x hx)).bind fun first =>
          (ihsts hsends.2).bind fun rest => WalkM.Adds.pure fun R hrest hfirst => ?_
      intro x hx
      rw [Stmt.chainReached_eq_flatMap, List.flatMap_append, List.mem_append,
        List.mem_flatMap] at hx
      rcases hx with ⟨y, hy, hx⟩ | hx
      · exact hfirst y hy x hx
      · exact hrest x (by rwa [Stmt.chainReached_eq_flatMap])
    · refine (ihst hsends.1).bind fun st' => (ihsts hsends.2).bind fun rest =>
        WalkM.Adds.pure fun R hrest hst => ?_
      rw [Stmt.chainReached, List.forall_mem_append]
      exact ⟨hst, hrest⟩

theorem walkBody_recorded (hagree : es.Agrees sc) (hapart : es.StructsApart) (w : Walk)
    {body : List Stmt} (hsends : ∀ x ∈ Stmt.chainReached body, x.SendsPlainly) :
    ∀ x ∈ Stmt.chainReached (walkBody sc w body).1, x.Recorded es (walkBody sc w body).2.refs :=
  ((visitStmt_recorded hagree hapart).2 body hsends w).2 _ (References.Sub.refl _)

end Agreeing

/-- Two sprites that declare the same variables, enums and structs. -/
def Sprite.SameDecls (a b : Sprite) : Prop := a.vars = b.vars ∧ a.enums = b.enums ∧ a.structs = b.structs

theorem Sprite.sameDecls_resolve (t : Sprite) (stage : Option Sprite) :
    (t.resolve stage).1.SameDecls t := by
  unfold Sprite.resolve
  exact ⟨rfl, rfl, rfl⟩

theorem Sprite.isStage_resolve (t : Sprite) (stage : Option Sprite) :
    (t.resolve stage).1.isStage = t.isStage := by
  unfold Sprite.resolve
  rfl

theorem Sprite.isStage_declareAssigned (t : Sprite) (globals : List Var) :
    (t.declareAssigned globals).isStage = t.isStage := by
  unfold Sprite.declareAssigned
  rfl

/-- An emission scope sees what a walk's scope sees when their sprites and stages declare alike
and the procedure it is in has the walk's locals. -/
theorem Graph.EmitScope.agrees_of {es : Graph.EmitScope} {sc : Scope}
    (hsprite : es.sprite.SameDecls sc.sprite) (hstage : Option.Rel Sprite.SameDecls es.stage sc.stage)
    (hlocals : (es.proc.map Proc.locals).getD [] = sc.locals) : es.Agrees sc := by
  obtain ⟨t, stage, proc⟩ := es
  obtain ⟨t', stage', locals⟩ := sc
  obtain ⟨hv, he, hs⟩ := hsprite
  dsimp only at hv he hs hstage hlocals
  subst hlocals
  -- a lookup in the stage agrees whenever it reads only the declarations
  have hst : ∀ {α : Type} (f : Sprite → Option α), (∀ a b, a.SameDecls b → f a = f b) →
      stage.bind f = stage'.bind f := by
    intro α f hf
    cases hstage with
    | none => rfl
    | some h => exact hf _ _ h
  refine ⟨fun n => ?_, fun n => ?_, fun n => ?_⟩
  · have hvar : t.var? n = t'.var? n := by unfold Sprite.var?; rw [hv]
    unfold Graph.EmitScope.var? Scope.var?
    dsimp only
    rw [hvar, hst (·.var? n) fun a b h => by unfold Sprite.var?; rw [h.1]]
    cases proc <;> rfl
  · have henum : t.enum? n = t'.enum? n := by unfold Sprite.enum?; rw [he]
    unfold Graph.EmitScope.enum? Scope.enum?
    dsimp only
    rw [henum, hst (·.enum? n) fun a b h => by unfold Sprite.enum?; rw [h.2.1]]
  · have hstruct : t.struct? n = t'.struct? n := by unfold Sprite.struct?; rw [hs]
    unfold Graph.EmitScope.struct? Scope.struct?
    dsimp only
    rw [hstruct, hst (·.struct? n) fun a b h => by unfold Sprite.struct?; rw [h.2.2]]

/-- Every body of a resolved sprite, emitted in a scope that sees the declarations its walk saw,
reads only what its walk recorded: an event's and a handler's statements in the sprite's scope,
a procedure's in the scope of the procedure. -/
theorem resolved_bodies_recorded {t : Sprite} {stage : Option Sprite} {es : Graph.EmitScope}
    (hsprite : es.sprite = (t.resolve stage).1) (hstage : Option.Rel Sprite.SameDecls es.stage stage)
    (hproc : es.proc = none) (hapart : es.StructsApart)
    (hapartProcs : ∀ q ∈ es.sprite.procs, { es with proc := some q }.StructsApart)
    (hsends : ∀ b ∈ t.bodies, ∀ x ∈ Stmt.chainReached b, x.SendsPlainly) :
    (∀ ev ∈ es.sprite.events, ∀ x ∈ Stmt.chainReached ev.body, x.Recorded es ev.refs) ∧
    (∀ h ∈ es.sprite.handlers, ∀ x ∈ Stmt.chainReached h.body, x.Recorded es h.refs) ∧
    ∀ q ∈ es.sprite.procs, ∀ x ∈ Stmt.chainReached q.body,
      x.Recorded { es with proc := some q } q.refs := by
  have hdecls : es.sprite.SameDecls t := hsprite ▸ Sprite.sameDecls_resolve t stage
  have hagree : es.Agrees { sprite := t, stage } :=
    Graph.EmitScope.agrees_of hdecls hstage (by rw [hproc]; rfl)
  refine ⟨fun ev hev => ?_, fun h hh => ?_, fun q hq => ?_⟩
  · rw [hsprite, Sprite.resolve_events] at hev
    obtain ⟨ev₀, hev₀, rfl⟩ := List.mem_map.1 hev
    exact walkBody_recorded hagree hapart {}
      (hsends _ (Sprite.mem_bodies.2 (Or.inl ⟨ev₀, hev₀, rfl⟩)))
  · rw [hsprite, Sprite.resolve_handlers] at hh
    obtain ⟨h₀, hh₀, rfl⟩ := List.mem_map.1 hh
    exact walkBody_recorded hagree hapart _
      (hsends _ (Sprite.mem_bodies.2 (Or.inr (Or.inl ⟨h₀, List.mem_mergeSort.1 hh₀, rfl⟩))))
  · have hq' := hq
    rw [hsprite, Sprite.resolve_procs] at hq'
    obtain ⟨q₀, hq₀, rfl⟩ := List.mem_map.1 hq'
    -- the procedure keeps the locals its body was walked with
    have hagreeq : { es with proc := some (Proc.resolveIn t stage q₀) }.Agrees
        { sprite := t, stage, locals := q₀.locals } :=
      Graph.EmitScope.agrees_of hdecls hstage rfl
    exact walkBody_recorded hagreeq (hapartProcs _ hq) _
      (hsends _ (Sprite.mem_bodies.2 (Or.inr (Or.inr ⟨q₀, List.mem_mergeSort.1 hq₀, rfl⟩))))

theorem Project.stage_resolve (p : Project) : p.resolve.1.stage = (p.stage.resolve none).1 := by
  unfold Project.resolve
  rfl

theorem Project.declareAssigned_roles {p : Project}
    (h : p.stage.isStage = true ∧ ∀ t ∈ p.sprites, t.isStage = false) :
    p.declareAssigned.stage.isStage = true ∧ ∀ t ∈ p.declareAssigned.sprites, t.isStage = false := by
  unfold Project.declareAssigned
  refine ⟨by rw [Sprite.isStage_declareAssigned]; exact h.1, fun t ht => ?_⟩
  obtain ⟨t₀, ht₀, rfl⟩ := List.mem_map.1 ht
  rw [Sprite.isStage_declareAssigned]
  exact h.2 t₀ ht₀

/-- Each target of a resolved project is a resolved target, emitted in a scope whose stage
declares what the stage its walk saw declares: none for the stage, the stage for a sprite. -/
theorem Project.resolve_scopes {p : Project}
    (hroles : p.stage.isStage = true ∧ ∀ t ∈ p.sprites, t.isStage = false) :
    ∀ t ∈ p.resolve.1.targets, ∃ t₀ ∈ p.targets, ∃ stage, t = (t₀.resolve stage).1 ∧
      Option.Rel Sprite.SameDecls (p.resolve.1.scope t).stage stage := by
  intro t ht
  rw [Project.resolve_targets] at ht
  rcases List.mem_cons.1 ht with rfl | ht
  · refine ⟨p.stage, List.mem_cons_self, none, rfl, ?_⟩
    unfold Project.scope
    rw [if_pos (by rw [Sprite.isStage_resolve]; exact hroles.1)]
    exact .none
  · obtain ⟨t₀, ht₀, rfl⟩ := List.mem_map.1 ht
    refine ⟨t₀, List.mem_cons_of_mem _ ht₀, some p.stage, rfl, ?_⟩
    unfold Project.scope
    rw [if_neg (by rw [Sprite.isStage_resolve, hroles.2 t₀ ht₀]; decide), Project.stage_resolve]
    exact .some (Sprite.sameDecls_resolve _ _)

/-- In a project built from a dump and analysed, every block that code generation emits for a
body reads only what the body's references record: the variables and lists its inputs name,
the list of a list block, the procedure of a call and the message of a broadcast. This holds
when no struct a target sees is named like a variable it sees, and no broadcast is given its
message through a unary operation; each can break it. -/
theorem compiled_reads_recorded {doc : Dump.Document} {origin : String} {p : Project}
    {fs : FileSet} (hbuild : Project.build doc origin = .ok (p, fs)) (limit : Int)
    (hsends : ∀ t ∈ p.targets, ∀ b ∈ t.bodies, ∀ st ∈ Stmt.chainReached b, st.SendsPlainly)
    (hapart : ∀ t ∈ (Compilation.run p fs limit).project.targets,
      ((Compilation.run p fs limit).project.scope t).StructsApart ∧
      ∀ q ∈ t.procs, { (Compilation.run p fs limit).project.scope t with proc := some q }.StructsApart) :
    ∀ t ∈ (Compilation.run p fs limit).project.targets,
      (∀ ev ∈ t.events, (Graph.emitEvent ev).EmitsIn ((Compilation.run p fs limit).project.scope t)
        (Graph.Emitted.Recorded ev.refs) fun _ => True) ∧
      (∀ h ∈ t.handlers, (Graph.emitHandler h).EmitsIn
        ((Compilation.run p fs limit).project.scope t) (Graph.Emitted.Recorded h.refs) fun _ => True) ∧
      ∀ q ∈ t.procs, (Graph.emitProcDef q).EmitsIn ((Compilation.run p fs limit).project.scope t)
        (Graph.Emitted.Recorded q.refs) fun _ => True := by
  rw [Compilation.project_run] at hapart ⊢
  intro t ht
  have hroles := Project.declareAssigned_roles
    (build_roles (P := fun b t => t.isStage = b) buildSprite_isStage hbuild)
  obtain ⟨t₁, ht₁, stage, rfl, hstage⟩ := Project.resolve_scopes hroles t ht
  obtain ⟨t₀, ht₀, globals, rfl⟩ := Project.targets_declareAssigned p t₁ ht₁
  -- what the walk records, and what the build guarantees of every emitted statement
  obtain ⟨hev, hh, hq⟩ := resolved_bodies_recorded rfl hstage rfl (hapart _ ht).1 (hapart _ ht).2
    fun b hb => hsends t₀ ht₀ b (Sprite.bodies_declareAssigned t₀ globals b hb)
  obtain ⟨hbodies, hhats⟩ := analysed_targets_sourced hbuild _ ht
  have hsourced : ∀ b ∈ ((t₀.declareAssigned globals).resolve stage).1.bodies,
      ∀ x ∈ Stmt.chainReached b, x.Sourced := fun b hb x hx =>
    (Stmt.chainReached_analysed b (hbodies b hb).1 (hbodies b hb).2 x hx).2
  refine ⟨fun ev hev' => ?_, fun h hh' => ?_, fun q hq' => ?_⟩
  · exact Graph.emitEvent_recorded (hhats ev hev') fun x hx =>
      ⟨hev ev hev' x hx, hsourced _ (Sprite.mem_bodies.2 (Or.inl ⟨ev, hev', rfl⟩)) x hx⟩
  · exact Graph.emitHandler_recorded fun x hx =>
      ⟨hh h hh' x hx, hsourced _ (Sprite.mem_bodies.2 (Or.inr (Or.inl ⟨h, hh', rfl⟩))) x hx⟩
  · exact Graph.emitProcDef_recorded fun x hx =>
      ⟨hq q hq' x hx, hsourced _ (Sprite.mem_bodies.2 (Or.inr (Or.inr ⟨q, hq', rfl⟩))) x hx⟩

theorem compiled_reads_recorded_broadcast : ∃ doc p fs,
    Project.build doc "game.json" = .ok (p, fs) ∧
    (∀ t ∈ p.targets, ∀ b ∈ t.bodies, ∀ st ∈ Stmt.chainReached b, st.SendsPlainly) ∧
    (∀ t ∈ (Compilation.run p fs 0).project.targets,
      ((Compilation.run p fs 0).project.scope t).StructsApart ∧
      ∀ q ∈ t.procs, { (Compilation.run p fs 0).project.scope t with proc := some q }.StructsApart) ∧
    ∀ t ∈ (Compilation.run p fs 0).project.targets,
      (∀ ev ∈ t.events, (Graph.emitEvent ev).EmitsIn ((Compilation.run p fs 0).project.scope t)
        (Graph.Emitted.Recorded ev.refs) fun _ => True) ∧
      (∀ h ∈ t.handlers, (Graph.emitHandler h).EmitsIn
        ((Compilation.run p fs 0).project.scope t) (Graph.Emitted.Recorded h.refs) fun _ => True) ∧
      ∀ q ∈ t.procs, (Graph.emitProcDef q).EmitsIn ((Compilation.run p fs 0).project.scope t)
        (Graph.Emitted.Recorded q.refs) fun _ => True := by
  -- a flag script that adds a variable to a list and broadcasts a message
  have hrun : (match Project.build
      { stage :=
          { vars := [{ name := "score" }]
            lists := [{ name := "items" }]
            events := [{ hat := "flag"
                         body := [{ kind := "list_add", name := "items"
                                    value := some { kind := "name", name := "score" } },
                                  { kind := "block", block := "broadcast"
                                    args := [{ kind := "str", str := "go" }] }] }] } }
      "game.json" with
      | .ok (p, fs) => decide ((∀ t ∈ p.targets, ∀ b ∈ t.bodies, ∀ st ∈ Stmt.chainReached b,
            st.SendsPlainly) ∧
          ∀ t ∈ (Compilation.run p fs 0).project.targets,
            ((Compilation.run p fs 0).project.scope t).StructsApart ∧
            ∀ q ∈ t.procs, { (Compilation.run p fs 0).project.scope t with proc := some q }.StructsApart)
      | .error _ => false) = true := by decide +kernel
  split at hrun
  · rename_i p fs hb
    rw [decide_eq_true_eq] at hrun
    exact ⟨_, p, fs, hb, hrun.1, hrun.2, compiled_reads_recorded hb 0 hrun.1 hrun.2⟩
  · cases hrun

end BlockGraph
