import BlockGraph.Proofs.Program.Building
import Mathlib.Tactic.Set
/-!
# Which dumps build

A dump builds into a program exactly when it has no structural fault and every identifier it
names is valid once put in composed normal form.
-/

namespace BlockGraph

open BuildM

/-! ## Identifiers and spans of a program -/

def ValueType.identifiers : ValueType → List String
  | .struct n => [n]
  | _ => []

mutual

/-- The identifiers an expression stores, in order: the name and field of a name or argument,
the symbol and property of an accessor, and those of its operands. -/
def Expr.identifiers : Expr → List String
  | .name n | .arg n => [n.base, n.field]
  | .accessor symbol _ property _ => [symbol, property]
  | .repr _ args _ => Expr.identifiersOf args
  | .unop _ operand _ => operand.identifiers
  | .binop _ lhs rhs _ => lhs.identifiers ++ rhs.identifiers
  | .int .. | .float .. | .str .. => []

def Expr.identifiersOf : List Expr → List String
  | [] => []
  | e :: es => e.identifiers ++ Expr.identifiersOf es

end

mutual

def Expr.spans : Expr → List Span
  | .int _ s | .float _ s | .str _ s => [s]
  | .name n | .arg n => [n.span]
  | .accessor _ s₁ _ s₂ => [s₁, s₂]
  | .repr _ args s => s :: Expr.spansOf args
  | .unop _ operand s => s :: operand.spans
  | .binop _ lhs rhs s => s :: (lhs.spans ++ rhs.spans)

def Expr.spansOf : List Expr → List Span
  | [] => []
  | e :: es => e.spans ++ Expr.spansOf es

end

namespace Dump

/-- The identifiers a type text names: none for the empty text and the built-in types, the
struct's name otherwise. -/
def typeIdents (s : String) : List String :=
  if s = "" ∨ s = "int" ∨ s = "float" ∨ s = "str" then [] else [s]

def leafKinds : List String := ["int", "float", "str", "name", "arg", "accessor"]

mutual

/-- An expression without structural fault: a leaf kind; a reporter of the catalogue applied
to expressions without fault; a known operator with every operand it takes present and
without fault. -/
def Expr.WellFormed : Expr → Prop
  | ⟨kind, _, _, _, _, _, _, repr, args, op, operand, lhs, rhs, _⟩ =>
    if kind = "repr" then (lookupReporter repr).isSome ∧ Expr.AllWellFormed args
    else if kind = "unop" then (UnOp.parse? op).isSome ∧ Expr.Present operand
    else if kind = "binop" then (BinOp.parse? op).isSome ∧ Expr.Present lhs ∧ Expr.Present rhs
    else kind ∈ leafKinds

def Expr.AllWellFormed : List Expr → Prop
  | [] => True
  | e :: es => e.WellFormed ∧ Expr.AllWellFormed es

def Expr.Present : Option Expr → Prop
  | none => False
  | some e => e.WellFormed

end

mutual

def Expr.idents : Expr → List String
  | ⟨kind, _, _, _, _, name, field, _, args, _, operand, lhs, rhs, _⟩ =>
    if kind = "name" ∨ kind = "arg" ∨ kind = "accessor" then [name, field]
    else if kind = "repr" then Expr.identsOf args
    else if kind = "unop" then Expr.identsOpt operand
    else if kind = "binop" then Expr.identsOpt lhs ++ Expr.identsOpt rhs
    else []

def Expr.identsOf : List Expr → List String
  | [] => []
  | e :: es => e.idents ++ Expr.identsOf es

def Expr.identsOpt : Option Expr → List String
  | none => []
  | some e => e.idents

end

end Dump

theorem mapSpan_forward (files : List Nat) (s : Span) : (mapSpan files s).Forward := by
  unfold mapSpan Span.Forward
  dsimp only
  split <;> omega

theorem parseType_builds (s : String) :
    (parseType s).Builds True (Dump.typeIdents s)
      (fun t => t.identifiers = (Dump.typeIdents s).map Unicode.nfc) := by
  unfold parseType Dump.typeIdents
  by_cases h₀ : s = ""
  · simpa [h₀] using Builds.pure (P := fun t : ValueType => t.identifiers = []) rfl
  by_cases h₁ : s = "int"
  · simpa [h₁] using Builds.pure (P := fun t : ValueType => t.identifiers = []) rfl
  by_cases h₂ : s = "float"
  · simpa [h₂] using Builds.pure (P := fun t : ValueType => t.identifiers = []) rfl
  by_cases h₃ : s = "str"
  · simpa [h₃] using Builds.pure (P := fun t : ValueType => t.identifiers = []) rfl
  simp only [h₀, h₁, h₂, h₃, if_false, or_self]
  exact ((ident_builds s).bind fun n hn => Builds.pure (P := fun t : ValueType =>
    t.identifiers = [Unicode.nfc s]) (by simp [ValueType.identifiers, hn])).congr (by simp) rfl
    (fun _ h => by simpa using h)

namespace BuildM.Builds

variable {β : Type} {ok : Prop} {ids : List String} {Q : β → Prop}

theorem parseType_bind {s : String} {f : ValueType → BuildM β}
    (hf : ∀ t, t.identifiers = (Dump.typeIdents s).map Unicode.nfc → (f t).Builds ok ids Q) :
    (parseType s >>= f).Builds ok (Dump.typeIdents s ++ ids) Q :=
  ((parseType_builds s).bind hf).congr (by simp) rfl fun _ h => h

end BuildM.Builds

/-- An expression built from the dump expression `d`: it stores the composed forms of the
dump's identifiers, in order, and spans that run forwards. -/
def Expr.BuiltFrom (e : Expr) (d : Dump.Expr) : Prop :=
  e.identifiers = d.idents.map Unicode.nfc ∧ ∀ s ∈ e.spans, s.Forward

def Expr.AllBuiltFrom (es : List Expr) (ds : List Dump.Expr) : Prop :=
  Expr.identifiersOf es = (Dump.Expr.identsOf ds).map Unicode.nfc ∧ ∀ s ∈ Expr.spansOf es, s.Forward

theorem Expr.identifiersOf_append (es fs : List Expr) :
    Expr.identifiersOf (es ++ fs) = Expr.identifiersOf es ++ Expr.identifiersOf fs := by
  induction es with
  | nil => rfl
  | cons e es ih => simp [Expr.identifiersOf, ih]

theorem Expr.spansOf_append (es fs : List Expr) :
    Expr.spansOf (es ++ fs) = Expr.spansOf es ++ Expr.spansOf fs := by
  induction es with
  | nil => rfl
  | cons e es ih => simp [Expr.spansOf, ih]

theorem Dump.Expr.identsOf_append (ds ds' : List Dump.Expr) :
    Dump.Expr.identsOf (ds ++ ds') = Dump.Expr.identsOf ds ++ Dump.Expr.identsOf ds' := by
  induction ds with
  | nil => rfl
  | cons d ds ih => simp [Dump.Expr.identsOf, ih]

namespace Expr.AllBuiltFrom

theorem append {es es' : List Expr} {ds ds' : List Dump.Expr} (h : AllBuiltFrom es ds)
    (h' : AllBuiltFrom es' ds') : AllBuiltFrom (es ++ es') (ds ++ ds') := by
  refine ⟨?_, ?_⟩
  · rw [Expr.identifiersOf_append, Dump.Expr.identsOf_append, h.1, h'.1, List.map_append]
  · rw [Expr.spansOf_append]
    intro s hs
    rcases List.mem_append.1 hs with hs | hs
    · exact h.2 s hs
    · exact h'.2 s hs

theorem cons {e : Expr} {es : List Expr} {d : Dump.Expr} {ds : List Dump.Expr}
    (h : e.BuiltFrom d) (hs : AllBuiltFrom es ds) : AllBuiltFrom (e :: es) (d :: ds) := by
  refine ⟨by rw [Expr.identifiersOf, Dump.Expr.identsOf, h.1, hs.1, List.map_append], ?_⟩
  intro s hsp
  rcases List.mem_append.1 hsp with hsp | hsp
  · exact h.2 s hsp
  · exact hs.2 s hsp

end Expr.AllBuiltFrom

mutual

theorem buildExpr_builds (files : List Nat) :
    ∀ d : Dump.Expr, (buildExpr files d).Builds d.WellFormed d.idents (Expr.BuiltFrom · d)
  | ⟨kind, span, int, float, str, name, field, repr, args, op, operand, lhs, rhs, spare⟩ => by
    have hargs := buildExprs_builds files args
    have hoperand := buildExprOpt_builds files operand
    have hlhs := buildExprOpt_builds files lhs
    have hrhs := buildExprOpt_builds files rhs
    have hsp := mapSpan_forward files span
    rw [buildExpr]
    simp only [Dump.Expr.WellFormed, Dump.Expr.idents]
    -- a literal reads no identifier
    by_cases hint : kind = "int"
    · subst hint
      exact (Builds.pure ⟨rfl, by simpa [Expr.spans] using hsp⟩).congr (by simp [Dump.leafKinds]) rfl fun _ h => h
    by_cases hfloat : kind = "float"
    · subst hfloat
      exact (Builds.pure ⟨rfl, by simpa [Expr.spans] using hsp⟩).congr (by simp [Dump.leafKinds]) rfl fun _ h => h
    by_cases hstr : kind = "str"
    · subst hstr
      exact (Builds.pure ⟨rfl, by simpa [Expr.spans] using hsp⟩).congr (by simp [Dump.leafKinds]) rfl fun _ h => h
    -- a name, an argument or an accessor reads its two identifiers
    by_cases hname : kind = "name"
    · subst hname
      refine ((ident_builds name).bind fun b hb => (ident_builds field).bind fun f hf =>
        Builds.pure (P := (Expr.BuiltFrom · ⟨"name", span, int, float, str, name, field, repr, args,
          op, operand, lhs, rhs, spare⟩)) ?_).congr (by simp [Dump.leafKinds]) (by simp) fun _ h => h
      subst hb hf
      exact ⟨by simp [Expr.identifiers, Dump.Expr.idents], by simpa [Expr.spans] using hsp⟩
    by_cases harg : kind = "arg"
    · subst harg
      refine ((ident_builds name).bind fun b hb => (ident_builds field).bind fun f hf =>
        Builds.pure (P := (Expr.BuiltFrom · ⟨"arg", span, int, float, str, name, field, repr, args,
          op, operand, lhs, rhs, spare⟩)) ?_).congr (by simp [Dump.leafKinds]) (by simp) fun _ h => h
      subst hb hf
      exact ⟨by simp [Expr.identifiers, Dump.Expr.idents], by simpa [Expr.spans] using hsp⟩
    by_cases hacc : kind = "accessor"
    · subst hacc
      refine ((ident_builds name).bind fun b hb => (ident_builds field).bind fun f hf =>
        Builds.pure (P := (Expr.BuiltFrom · ⟨"accessor", span, int, float, str, name, field, repr,
          args, op, operand, lhs, rhs, spare⟩)) ?_).congr (by simp [Dump.leafKinds]) (by simp) fun _ h => h
      subst hb hf
      exact ⟨by simp [Expr.identifiers, Dump.Expr.idents], by simp [Expr.spans, hsp]⟩
    simp only [hint, hfloat, hstr, hname, harg, hacc, if_false, or_self]
    -- a reporter of the catalogue, and its arguments
    by_cases hrepr : kind = "repr"
    · subst hrepr
      simp only [if_true]
      split
      · rename_i hp
        exact Builds.throw.stops not_false (by simp [hp])
      · rename_i p hp
        refine (hargs.bind fun es hes => Builds.pure ?_).congr ?_ ?_ fun _ h => h
        · exact ⟨by simpa [Expr.identifiers, Dump.Expr.idents] using hes.1,
            List.forall_mem_cons.2 ⟨hsp, hes.2⟩⟩
        · simp [hp]
        · simp
    simp only [hrepr, if_false]
    -- an operator, present operands, and the operands
    by_cases hunop : kind = "unop"
    · subst hunop
      simp only [if_true]
      split
      · rename_i ho
        exact Builds.throw.stops not_false (by simp [ho])
      · rename_i o ho
        split
        · exact Builds.throw.stops not_false (by simp [Dump.Expr.Present])
        · rename_i x
          refine ((hoperand x rfl).bind fun e he => Builds.pure ?_).congr ?_ ?_ fun _ h => h
          · exact ⟨by simpa [Expr.identifiers, Dump.Expr.idents, Dump.Expr.identsOpt] using he.1,
              List.forall_mem_cons.2 ⟨hsp, he.2⟩⟩
          · simp [ho, Dump.Expr.Present]
          · simp [Dump.Expr.identsOpt]
    simp only [hunop, if_false]
    by_cases hbinop : kind = "binop"
    · subst hbinop
      simp only [if_true]
      split
      · rename_i ho
        exact Builds.throw.stops not_false (by simp [ho])
      · rename_i o ho
        split
        · rename_i l r
          refine ((hlhs l rfl).bind fun el hl => (hrhs r rfl).bind fun er hr =>
            Builds.pure ?_).congr ?_ ?_ fun _ h => h
          · refine ⟨by simp [Expr.identifiers, Dump.Expr.idents, Dump.Expr.identsOpt, hl.1, hr.1],
              List.forall_mem_cons.2 ⟨hsp, fun s hs => ?_⟩⟩
            rcases List.mem_append.1 hs with hs | hs
            · exact hl.2 s hs
            · exact hr.2 s hs
          · simp [ho, Dump.Expr.Present]
          · simp [Dump.Expr.identsOpt]
        · rename_i hmiss
          refine Builds.throw.stops not_false ?_
          cases lhs <;> cases rhs <;> simp_all [Dump.Expr.Present]
    simp only [hbinop, if_false]
    exact Builds.throw.stops not_false (by simp [Dump.leafKinds, *])
  
theorem buildExprs_builds (files : List Nat) :
    ∀ ds : List Dump.Expr, (buildExprs files ds).Builds (Dump.Expr.AllWellFormed ds)
      (Dump.Expr.identsOf ds) (Expr.AllBuiltFrom · ds)
  | [] => (Builds.pure ⟨rfl, by simp [Expr.spansOf]⟩).congr Iff.rfl rfl fun _ h => h
  | d :: ds => by
    rw [buildExprs]
    refine ((buildExpr_builds files d).bind fun e he => (buildExprs_builds files ds).bind fun es hes =>
      Builds.pure (P := (Expr.AllBuiltFrom · (d :: ds))) (Expr.AllBuiltFrom.cons he hes)).congr ?_ ?_
        fun _ h => h
    · simp [Dump.Expr.AllWellFormed]
    · simp [Dump.Expr.identsOf]

theorem buildExprOpt_builds (files : List Nat) :
    ∀ o : Option Dump.Expr, ∀ d ∈ o, (buildExpr files d).Builds d.WellFormed d.idents (Expr.BuiltFrom · d)
  | none => by simp
  | some d => by
    intro d' hd'
    cases hd'
    exact buildExpr_builds files d

end

theorem buildExprOption_builds (files : List Nat) (o : Option Dump.Expr) :
    (buildExprOption files o).Builds (∀ d ∈ o, d.WellFormed) (Dump.Expr.identsOf o.toList)
      (fun v => Expr.AllBuiltFrom v.toList o.toList) := by
  cases o with
  | none => exact (Builds.pure ⟨rfl, by simp [Expr.spansOf]⟩).congr (by simp) rfl fun _ h => h
  | some d =>
    rw [buildExprOption]
    refine ((buildExpr_builds files d).map fun e he => ?_).congr (by simp) ?_ fun _ h => h
    · exact Expr.AllBuiltFrom.cons he ⟨rfl, by simp [Expr.spansOf]⟩
    · simp [Dump.Expr.identsOf]

/-- Whether a dump statement of kind `k` has the operands that kind cannot do without: the
count of a repeat, the condition of a branch or of an until loop, the index of deleting,
inserting, setting or changing an item, and the value of an assignment or of adding,
inserting, setting or changing an item. -/
def StmtKind.Supplied (k : StmtKind) (d : Dump.Stmt) : Prop :=
  (k = .repeatTimes → d.times.isSome) ∧
  (k = .branch ∨ k = .repeatUntil → d.cond.isSome) ∧
  (k = .listDelete ∨ k = .listInsert ∨ k = .listSet ∨ k = .listChange → d.index.isSome) ∧
  (k = .setVar ∨ k = .changeVar ∨ k = .setField ∨ k = .listAdd ∨ k = .listInsert ∨
    k = .listSet ∨ k = .listChange → d.value.isSome)

theorem StmtKind.missing_eq_none (k : StmtKind) (d : Dump.Stmt) :
    (k.requiredOperands.find? fun o => !d.hasOperand o) = none ↔ k.Supplied d := by
  cases k <;> simp [StmtKind.requiredOperands, StmtKind.Supplied, Dump.Stmt.hasOperand,
    Option.isSome_iff_ne_none]

namespace Dump

mutual

/-- A statement without structural fault: a known kind with the operands it needs; operands,
arguments and bodies without fault; a known operator for a list change and a command of the
catalogue for a block statement. -/
def Stmt.WellFormed : Stmt → Prop
  | d@⟨kind, _, _, _, _, _, value, index, times, cond, op, body, orElse, block, _, args, _, _, _⟩ =>
    ∃ k, StmtKind.parse? kind = some k ∧ k.Supplied d ∧
      (∀ e ∈ times, e.WellFormed) ∧ (∀ e ∈ cond, e.WellFormed) ∧ (∀ e ∈ value, e.WellFormed) ∧
      (∀ e ∈ index, e.WellFormed) ∧ Expr.AllWellFormed args ∧ Stmt.AllWellFormed body ∧
      Stmt.AllWellFormed orElse ∧ (k = .listChange → (BinOp.parse? op).isSome) ∧
      (k = .block → (lookupCommand block).isSome)

def Stmt.AllWellFormed : List Stmt → Prop
  | [] => True
  | d :: ds => d.WellFormed ∧ Stmt.AllWellFormed ds

end

mutual

/-- The identifiers a statement names, in the order building reads them: its name and field,
its type, its procedure, then those of its operands, arguments and bodies. -/
def Stmt.idents : Stmt → List String
  | ⟨_, _, name, field, type, _, value, index, times, cond, _, body, orElse, _, proc, args, _, _, _⟩ =>
    [name, field] ++ typeIdents type ++ [proc] ++
      Expr.identsOf (times.toList ++ cond.toList ++ value.toList ++ index.toList ++ args) ++
      Stmt.identsOf body ++ Stmt.identsOf orElse

def Stmt.identsOf : List Stmt → List String
  | [] => []
  | d :: ds => d.idents ++ Stmt.identsOf ds

end

end Dump

mutual

def Stmt.identifiers : Stmt → List String
  | ⟨_, _, name, type, _, value, index, times, cond, _, body, orElse, _, proc, args⟩ =>
    [name.base, name.field] ++ type.identifiers ++ [proc] ++
      Expr.identifiersOf (times.toList ++ cond.toList ++ value.toList ++ index.toList ++ args) ++
      Stmt.identifiersOf body ++ Stmt.identifiersOf orElse

def Stmt.identifiersOf : List Stmt → List String
  | [] => []
  | st :: sts => st.identifiers ++ Stmt.identifiersOf sts

end

mutual

def Stmt.spans : Stmt → List Span
  | ⟨_, span, name, _, _, value, index, times, cond, _, body, orElse, _, _, args⟩ =>
    span :: name.span :: (Expr.spansOf (times.toList ++ cond.toList ++ value.toList ++ index.toList ++
      args) ++ Stmt.spansOf body ++ Stmt.spansOf orElse)

def Stmt.spansOf : List Stmt → List Span
  | [] => []
  | st :: sts => st.spans ++ Stmt.spansOf sts

end

/-- A statement built from the dump statement `d`: it stores the composed forms of the dump's
identifiers, in order, and spans that run forwards. -/
def Stmt.BuiltFrom (st : Stmt) (d : Dump.Stmt) : Prop :=
  st.identifiers = d.idents.map Unicode.nfc ∧ ∀ s ∈ st.spans, s.Forward

def Stmt.AllBuiltFrom (sts : List Stmt) (ds : List Dump.Stmt) : Prop :=
  Stmt.identifiersOf sts = (Dump.Stmt.identsOf ds).map Unicode.nfc ∧ ∀ s ∈ Stmt.spansOf sts, s.Forward

theorem Stmt.AllBuiltFrom.cons {st : Stmt} {sts : List Stmt} {d : Dump.Stmt} {ds : List Dump.Stmt}
    (h : st.BuiltFrom d) (hs : Stmt.AllBuiltFrom sts ds) : Stmt.AllBuiltFrom (st :: sts) (d :: ds) := by
  refine ⟨by rw [Stmt.identifiersOf, Dump.Stmt.identsOf, h.1, hs.1, List.map_append], ?_⟩
  intro s hsp
  rcases List.mem_append.1 hsp with hsp | hsp
  · exact h.2 s hsp
  · exact hs.2 s hsp

theorem Stmt.builtFrom_mk (files : List Nat) {d : Dump.Stmt} {base fd pr : String} {ty : ValueType}
    {t c v ix : Option Expr} {as : List Expr} {bs es : List Stmt} (k : StmtKind) (isLocal : Bool)
    (op : Option BinOp) (command : Primitive) (hbase : base = Unicode.nfc d.name)
    (hfd : fd = Unicode.nfc d.field) (hty : ty.identifiers = (Dump.typeIdents d.type).map Unicode.nfc)
    (hpr : pr = Unicode.nfc d.proc) (ht : Expr.AllBuiltFrom t.toList d.times.toList)
    (hc : Expr.AllBuiltFrom c.toList d.cond.toList) (hv : Expr.AllBuiltFrom v.toList d.value.toList)
    (hix : Expr.AllBuiltFrom ix.toList d.index.toList) (has : Expr.AllBuiltFrom as d.args)
    (hbs : Stmt.AllBuiltFrom bs d.body) (hes : Stmt.AllBuiltFrom es d.orElse) :
    Stmt.BuiltFrom
      { kind := k, span := mapSpan files d.span, name := { base, field := fd, span := mapSpan files d.span },
        type := ty, isLocal, value := v, index := ix, times := t, cond := c, op, body := bs,
        orElse := es, command, proc := pr, args := as } d := by
  have hexprs := ((((ht.append hc).append hv).append hix).append has)
  obtain ⟨kindText, span, name, field, type, isLocal', value, index, times, cond, op', body, orElse,
    block, proc, args, s₁, s₂, s₃⟩ := d
  refine ⟨?_, ?_⟩
  · simp only [Stmt.identifiers, Dump.Stmt.idents, List.map_append, hexprs.1, hbs.1, hes.1, hty,
      hbase, hfd, hpr]
    simp
  · simp only [Stmt.spans, List.mem_cons, List.mem_append]
    rintro s (rfl | rfl | (hs | hs) | hs)
    · exact mapSpan_forward files span
    · exact mapSpan_forward files span
    · exact hexprs.2 s hs
    · exact hbs.2 s hs
    · exact hes.2 s hs

theorem stmtParts_builds (files : List Nat) (d : Dump.Stmt) {ok : Prop} {Q : Stmt → Prop}
    (hbody : (buildStmts files 0 d.body).Builds (Dump.Stmt.AllWellFormed d.body)
      (Dump.Stmt.identsOf d.body) (Stmt.AllBuiltFrom · d.body))
    (helse : (buildStmts files 0 d.orElse).Builds (Dump.Stmt.AllWellFormed d.orElse)
      (Dump.Stmt.identsOf d.orElse) (Stmt.AllBuiltFrom · d.orElse))
    (tail : String → String → ValueType → String → Option Expr → Option Expr → Option Expr →
      Option Expr → List Expr → List Stmt → List Stmt → BuildM Stmt)
    (htail : ∀ base fd ty pr t c v ix as bs es, base = Unicode.nfc d.name → fd = Unicode.nfc d.field →
      ty.identifiers = (Dump.typeIdents d.type).map Unicode.nfc → pr = Unicode.nfc d.proc →
      Expr.AllBuiltFrom t.toList d.times.toList → Expr.AllBuiltFrom c.toList d.cond.toList →
      Expr.AllBuiltFrom v.toList d.value.toList → Expr.AllBuiltFrom ix.toList d.index.toList →
      Expr.AllBuiltFrom as d.args → Stmt.AllBuiltFrom bs d.body → Stmt.AllBuiltFrom es d.orElse →
      (tail base fd ty pr t c v ix as bs es).Builds ok [] Q) :
    (do
      let base ← ident d.name
      let fd ← ident d.field
      let ty ← parseType d.type
      let pr ← ident d.proc
      let t ← buildExprOption files d.times
      let c ← buildExprOption files d.cond
      let v ← buildExprOption files d.value
      let ix ← buildExprOption files d.index
      let as ← buildExprs files d.args
      let bs ← buildStmts files 0 d.body
      let es ← buildStmts files 0 d.orElse
      tail base fd ty pr t c v ix as bs es).Builds
      ((∀ e ∈ d.times, e.WellFormed) ∧ (∀ e ∈ d.cond, e.WellFormed) ∧
        (∀ e ∈ d.value, e.WellFormed) ∧ (∀ e ∈ d.index, e.WellFormed) ∧
        Dump.Expr.AllWellFormed d.args ∧ Dump.Stmt.AllWellFormed d.body ∧
        Dump.Stmt.AllWellFormed d.orElse ∧ ok)
      ([d.name, d.field] ++ Dump.typeIdents d.type ++ [d.proc] ++
        Dump.Expr.identsOf (d.times.toList ++ d.cond.toList ++ d.value.toList ++ d.index.toList ++
          d.args) ++ Dump.Stmt.identsOf d.body ++ Dump.Stmt.identsOf d.orElse) Q := by
  refine ((ident_builds d.name).bind fun base hbase => (ident_builds d.field).bind fun fd hfd =>
    (parseType_builds d.type).bind fun ty hty => (ident_builds d.proc).bind fun pr hpr =>
    (buildExprOption_builds files d.times).bind fun t ht =>
    (buildExprOption_builds files d.cond).bind fun c hc =>
    (buildExprOption_builds files d.value).bind fun v hv =>
    (buildExprOption_builds files d.index).bind fun ix hix =>
    (buildExprs_builds files d.args).bind fun as has => hbody.bind fun bs hbs =>
    helse.bind fun es hes => htail base fd ty pr t c v ix as bs es hbase hfd hty hpr ht hc hv hix
      has hbs hes).congr ?_ ?_ fun _ h => h
  · simp
  · simp [Dump.Expr.identsOf_append]

mutual

theorem buildStmt_builds (files : List Nat) :
    ∀ d : Dump.Stmt, (buildStmt files d).Builds d.WellFormed d.idents (Stmt.BuiltFrom · d)
  | ⟨kindText, span, name, field, type, isLocal, value, index, times, cond, op, body, orElse, block,
      proc, args, s₁, s₂, s₃⟩ => by
    have hbody := buildStmts_builds files 0 body
    have helse := buildStmts_builds files 0 orElse
    rw [buildStmt]
    split
    · rename_i hkind
      exact Builds.throw.stops not_false (by simp [Dump.Stmt.WellFormed, hkind])
    rename_i kind hkind
    set d : Dump.Stmt := ⟨kindText, span, name, field, type, isLocal, value, index, times, cond, op,
      body, orElse, block, proc, args, s₁, s₂, s₃⟩ with hd
    have hwf : d.WellFormed ↔ kind.Supplied d ∧ (∀ e ∈ d.times, e.WellFormed) ∧
        (∀ e ∈ d.cond, e.WellFormed) ∧ (∀ e ∈ d.value, e.WellFormed) ∧
        (∀ e ∈ d.index, e.WellFormed) ∧ Dump.Expr.AllWellFormed d.args ∧
        Dump.Stmt.AllWellFormed d.body ∧ Dump.Stmt.AllWellFormed d.orElse ∧
        (kind = .listChange → (BinOp.parse? op).isSome) ∧
        (kind = .block → (lookupCommand block).isSome) := by
      simp only [hd, Dump.Stmt.WellFormed, hkind, Option.some.injEq, exists_eq_left']
    rcases hmiss : (kind.requiredOperands.find? fun o => !d.hasOperand o) with _ | o
    rotate_left
    -- a missing operand stops the build once the identifiers are read
    · simp only
      refine ((ident_builds name).bind fun _ _ => (ident_builds field).bind fun _ _ =>
        (parseType_builds type).bind fun _ _ => (ident_builds proc).bind fun _ _ =>
          Builds.throw).stops (by simp) ?_
      rw [hwf, ← StmtKind.missing_eq_none, hmiss]
      simp
    have hsup := (StmtKind.missing_eq_none kind d).1 hmiss
    simp only
    -- the operator of a list change and the command of a block statement are looked up last
    by_cases hlc : kind = .listChange
    · subst hlc
      rcases hop : BinOp.parse? op with _ | o
      · simp only [if_true]
        refine (stmtParts_builds files d hbody helse _ fun _ _ _ _ _ _ _ _ _ _ _ _ _ _ _ _ _ _ _ _ _ _ =>
          Builds.throw).stops (by simp) ?_
        simp [hwf, hop]
      · simp only [if_true]
        refine (stmtParts_builds files d hbody helse _ fun _ _ _ _ _ _ _ _ _ _ _ hbase hfd hty hpr ht hc hv
          hix has hbs hes => Builds.pure (Stmt.builtFrom_mk files _ _ _ _ hbase hfd hty hpr ht hc hv hix
            has hbs hes)).congr ?_ ?_ fun _ h => h
        · simp [hwf, hop, hsup]
        · simp [hd, Dump.Stmt.idents]
    by_cases hblock : kind = .block
    · subst hblock
      rcases hcmd : lookupCommand block with _ | ⟨n, p⟩
      · simp only [if_true, reduceCtorEq, if_false]
        refine (stmtParts_builds files d hbody helse _ fun _ _ _ _ _ _ _ _ _ _ _ _ _ _ _ _ _ _ _ _ _ _ =>
          Builds.throw).stops (by simp) ?_
        simp [hwf, hcmd]
      · simp only [if_true, reduceCtorEq, if_false]
        refine (stmtParts_builds files d hbody helse _ fun _ _ _ _ _ _ _ _ _ _ _ hbase hfd hty hpr ht hc hv
          hix has hbs hes => Builds.pure (Stmt.builtFrom_mk files _ _ _ _ hbase hfd hty hpr ht hc hv hix
            has hbs hes)).congr ?_ ?_ fun _ h => h
        · simp [hwf, hcmd, hsup]
        · simp [hd, Dump.Stmt.idents]
    simp only [hlc, hblock, if_false]
    refine (stmtParts_builds files d hbody helse _ fun _ _ _ _ _ _ _ _ _ _ _ hbase hfd hty hpr ht hc hv
      hix has hbs hes => Builds.pure (Stmt.builtFrom_mk files _ _ _ _ hbase hfd hty hpr ht hc hv hix
        has hbs hes)).congr ?_ ?_ fun _ h => h
    · simp [hwf, hsup, hlc, hblock]
    · simp [hd, Dump.Stmt.idents]

theorem buildStmts_builds (files : List Nat) :
    ∀ (i : Nat) (ds : List Dump.Stmt), (buildStmts files i ds).Builds (Dump.Stmt.AllWellFormed ds)
      (Dump.Stmt.identsOf ds) (Stmt.AllBuiltFrom · ds)
  | _, [] => (Builds.pure ⟨rfl, by simp [Stmt.spansOf]⟩).congr Iff.rfl rfl fun _ h => h
  | i, d :: ds => by
    rw [buildStmts]
    refine ((buildStmt_builds files d).within.bind fun st hst => (buildStmts_builds files (i + 1) ds).bind
      fun sts hsts => Builds.pure ?_).congr ?_ ?_ fun _ h => h
    · exact Stmt.AllBuiltFrom.cons hst hsts
    · simp [Dump.Stmt.AllWellFormed]
    · simp [Dump.Stmt.identsOf]

end

namespace Dump

def VarEntry.idents (v : VarEntry) : List String := v.name :: typeIdents v.type

def ListEntry.idents (l : ListEntry) : List String := l.name :: typeIdents l.type

def EnumEntry.idents (e : EnumEntry) : List String := e.name :: e.variants.map (·.name)

def StructEntry.idents (s : StructEntry) : List String := s.name :: s.fields.map (·.name)

def ArgEntry.idents (a : ArgEntry) : List String := a.name :: typeIdents a.type

def ProcEntry.idents (p : ProcEntry) : List String :=
  p.name :: (p.args.flatMap ArgEntry.idents ++ Stmt.identsOf p.body)

/-- Every identifier position of a sprite entry, in the order building reads them. -/
def SpriteEntry.idents (d : SpriteEntry) : List String :=
  d.vars.flatMap VarEntry.idents ++ d.lists.flatMap ListEntry.idents ++
    d.enums.flatMap EnumEntry.idents ++ d.structs.flatMap StructEntry.idents ++
    d.procs.flatMap ProcEntry.idents ++ d.events.flatMap (fun e => Stmt.identsOf e.body) ++
    d.handlers.flatMap (fun h => Stmt.identsOf h.body)

/-- A procedure without structural fault: distinct argument names once composed, and a body
without fault. -/
def ProcEntry.Structured (p : ProcEntry) : Prop :=
  (p.args.map fun a => Unicode.nfc a.name).Nodup ∧ Stmt.AllWellFormed p.body

/-- A sprite entry without structural fault: within each kind of declaration the composed
names are distinct (the messages of handlers as written), procedures, events and handlers are
without fault, and every event's hat exists. -/
def SpriteEntry.Structured (d : SpriteEntry) : Prop :=
  (d.vars.map fun v => Unicode.nfc v.name).Nodup ∧
  (d.lists.map fun l => Unicode.nfc l.name).Nodup ∧
  (d.enums.map fun e => Unicode.nfc e.name).Nodup ∧
  (d.structs.map fun s => Unicode.nfc s.name).Nodup ∧
  (∀ p ∈ d.procs, p.Structured) ∧ (d.procs.map fun p => Unicode.nfc p.name).Nodup ∧
  (∀ e ∈ d.events, (lookupHat e.hat).isSome ∧ Stmt.AllWellFormed e.body) ∧
  (∀ h ∈ d.handlers, Stmt.AllWellFormed h.body) ∧ (d.handlers.map (·.message)).Nodup

end Dump

def Var.identifiers (v : Var) : List String := v.name :: v.type.identifiers

def ListDecl.identifiers (l : ListDecl) : List String := l.name :: l.type.identifiers

def EnumDecl.identifiers (e : EnumDecl) : List String := e.name :: e.variants.map (·.name)

def StructDecl.identifiers (s : StructDecl) : List String := s.name :: s.fields.map (·.name)

def Arg.identifiers (a : Arg) : List String := a.name :: a.type.identifiers

def Proc.identifiers (p : Proc) : List String :=
  p.name :: (p.args.flatMap Arg.identifiers ++ Stmt.identifiersOf p.body)

def Proc.spans (p : Proc) : List Span := p.span :: (p.args.map (·.span) ++ Stmt.spansOf p.body)

def Sprite.identifiers (t : Sprite) : List String :=
  t.vars.flatMap Var.identifiers ++ t.lists.flatMap ListDecl.identifiers ++
    t.enums.flatMap EnumDecl.identifiers ++ t.structs.flatMap StructDecl.identifiers ++
    t.procs.flatMap Proc.identifiers ++ t.events.flatMap (fun e => Stmt.identifiersOf e.body) ++
    t.handlers.flatMap (fun h => Stmt.identifiersOf h.body)

def Sprite.spans (t : Sprite) : List Span :=
  t.vars.map (·.span) ++ t.lists.map (·.span) ++
    t.enums.flatMap (fun e => e.span :: e.variants.map (·.span)) ++
    t.structs.flatMap (fun s => s.span :: s.fields.map (·.span)) ++ t.procs.flatMap Proc.spans ++
    t.events.flatMap (fun e => e.span :: Stmt.spansOf e.body) ++
    t.handlers.flatMap (fun h => h.span :: Stmt.spansOf h.body)

/-- What building a procedure gives: its name and identifiers composed, its spans forwards. -/
def Proc.BuiltFrom (p : Proc) (d : Dump.ProcEntry) : Prop :=
  p.name = Unicode.nfc d.name ∧ p.identifiers = d.idents.map Unicode.nfc ∧ ∀ s ∈ p.spans, s.Forward

theorem buildProc_builds (files : List Nat) (d : Dump.ProcEntry) :
    (buildProc files d).Builds d.Structured d.idents (Proc.BuiltFrom · d) := by
  unfold buildProc
  refine (Builds.ident_bind ((declFold_builds Arg.name Arg.identifiers (fun a => [a.span])
    (fun a => Unicode.nfc a.name) Dump.ArgEntry.idents (P := fun _ => True) (fun acc a => ?_)
    d.args).bind fun args hargs => (buildStmts_builds files 0 d.body).bind fun body hbody =>
      Builds.pure (P := (Proc.BuiltFrom · d)) ?_)).congr ?_ ?_ fun _ h => h
  -- an argument's composed name is checked before its type is read
  · exact (Builds.ident_bind (Builds.guard (Builds.parseType_bind fun t ht =>
      Builds.pure ⟨_, rfl, rfl, by simp [Arg.identifiers, Dump.ArgEntry.idents, ht],
        by simp [mapSpan_forward]⟩))).congr (by simp) (by simp [Dump.ArgEntry.idents]) fun _ h => h
  · refine ⟨rfl, by simp [Proc.identifiers, Dump.ProcEntry.idents, hargs.2.1, hbody.1], ?_⟩
    simp only [Proc.spans, List.mem_cons, List.mem_append]
    rintro s (rfl | hs | hs)
    · exact mapSpan_forward files d.span
    · exact hargs.forward s (by simpa [eq_comm] using hs)
    · exact hbody.2 s hs
  · simp [Dump.ProcEntry.Structured]
  · simp [Dump.ProcEntry.idents]

/-- What building a sprite gives: the sprite of that name, storing the composed forms of the
entry's identifiers in order, with spans that run forwards. -/
def Sprite.BuiltFrom (t : Sprite) (name : String) (d : Dump.SpriteEntry) : Prop :=
  t.name = name ∧ t.identifiers = d.idents.map Unicode.nfc ∧ ∀ s ∈ t.spans, s.Forward

theorem buildSprite_checks (files : List Nat) (name : String) (isStage : Bool)
    (d : Dump.SpriteEntry) (st : Option String) :
    (d.Structured ∧ firstInvalid d.idents = none →
      ∃ t, buildSprite files name isStage d st = .ok (t, none) ∧ t.BuiltFrom name d) ∧
    (¬(d.Structured ∧ firstInvalid d.idents = none) →
      ∃ e, buildSprite files name isStage d st = .error e) := by
  unfold buildSprite
  refine Checks.set_none_bind ?_ st
  refine ((declFold_builds Var.name Var.identifiers (fun v => [v.span]) (fun v => Unicode.nfc v.name)
      Dump.VarEntry.idents (P := fun _ => True) (fun acc v => ?_) d.vars).bind_checks fun vars hvars =>
    (declFold_builds ListDecl.name ListDecl.identifiers (fun l => [l.span])
      (fun l => Unicode.nfc l.name) Dump.ListEntry.idents (P := fun _ => True) (fun acc l => ?_)
      d.lists).bind_checks fun lists hlists =>
    (declFold_builds EnumDecl.name EnumDecl.identifiers (fun e => e.span :: e.variants.map (·.span))
      (fun e => Unicode.nfc e.name) Dump.EnumEntry.idents (P := fun _ => True) (fun acc e => ?_)
      d.enums).bind_checks fun enums henums =>
    (declFold_builds StructDecl.name StructDecl.identifiers (fun s => s.span :: s.fields.map (·.span))
      (fun s => Unicode.nfc s.name) Dump.StructEntry.idents (P := fun _ => True) (fun acc s => ?_)
      d.structs).bind_checks fun structs hstructs =>
    (declFold_builds Proc.name Proc.identifiers Proc.spans (fun p => Unicode.nfc p.name)
      Dump.ProcEntry.idents (P := Dump.ProcEntry.Structured) (fun acc p => ?_)
      d.procs).bind_checks fun procs hprocs =>
    (Builds.foldlM (c := fun _ e => (lookupHat e.hat).isSome ∧ Dump.Stmt.AllWellFormed e.body)
      (n := fun e => Dump.Stmt.identsOf e.body)
      (fun done b => DeclsBuilt (fun ev : Event => some ev.hat) (fun ev => Stmt.identifiersOf ev.body)
        (fun ev => ev.span :: Stmt.spansOf ev.body) (fun e : Dump.EventEntry => lookupHat e.hat)
        (fun e => Dump.Stmt.identsOf e.body) done b.1)
      (fun done e b hb => ?_) d.events [] ([], 0) ⟨rfl, rfl, by simp⟩).bind_checks
      fun ⟨events, _⟩ hevents =>
    (declFold_builds Handler.message (fun h => Stmt.identifiersOf h.body)
      (fun h => h.span :: Stmt.spansOf h.body) Dump.HandlerEntry.message
      (fun h => Dump.Stmt.identsOf h.body) (P := fun h => Dump.Stmt.AllWellFormed h.body)
      (fun acc h => ?_) d.handlers).bind_checks fun handlers hhandlers =>
    Checks.get_bind ?_ ?_).congr ?_ ?_ fun _ h => h
  · refine (Builds.ident_bind (Builds.parseType_bind fun t ht => (declare_builds _ _ _ _ _).congr
      Iff.rfl rfl fun acc' h => ⟨_, h, rfl, ?_, ?_⟩)).congr (by simp) (by simp [Dump.VarEntry.idents])
      fun _ h => h
    · simp [Var.identifiers, Dump.VarEntry.idents, ht]
    · simp [mapSpan_forward]
  · refine (Builds.ident_bind (Builds.parseType_bind fun t ht => (declare_builds _ _ _ _ _).congr
      Iff.rfl rfl fun acc' h => ⟨_, h, rfl, ?_, ?_⟩)).congr (by simp) (by simp [Dump.ListEntry.idents])
      fun _ h => h
    · simp [ListDecl.identifiers, Dump.ListEntry.idents, ht]
    · simp [mapSpan_forward]
  · refine (Builds.ident_bind ((Builds.mapM (g := Variant.name) (h := fun v => Unicode.nfc v.name)
      (S := fun v => v.span.Forward) (fun v => Builds.ident_bind (Builds.pure ⟨rfl, mapSpan_forward _ _⟩))
      e.variants).bind fun variants hvariants => (declare_builds _ _ _ _ _).congr Iff.rfl rfl
        fun acc' h => ⟨_, h, rfl, ?_, ?_⟩)).congr (by simp) (by simp [Dump.EnumEntry.idents, List.map_eq_flatMap]) fun _ h => h
    · simp [EnumDecl.identifiers, Dump.EnumEntry.idents, hvariants.1]
    · simpa [mapSpan_forward] using hvariants.2
  · refine (Builds.ident_bind ((Builds.mapM (g := Field.name) (h := fun f => Unicode.nfc f.name)
      (S := fun f => f.span.Forward) (fun f => Builds.ident_bind (Builds.pure ⟨rfl, mapSpan_forward _ _⟩))
      s.fields).bind fun fields hfields => (declare_builds _ _ _ _ _).congr Iff.rfl rfl
        fun acc' h => ⟨_, h, rfl, ?_, ?_⟩)).congr (by simp) (by simp [Dump.StructEntry.idents, List.map_eq_flatMap])
        fun _ h => h
    · simp [StructDecl.identifiers, Dump.StructEntry.idents, hfields.1]
    · simpa [mapSpan_forward] using hfields.2
  · exact ((buildProc_builds files p).within.bind fun proc hproc => (declare_builds _ _ _ _ _).congr
      (by rw [hproc.1]) rfl fun acc' h => ⟨proc, h, hproc.1, hproc.2.1, hproc.2.2⟩).congr Iff.rfl
      (by simp) fun _ h => h
  -- an event needs its hat; its position only labels errors
  · obtain ⟨acc, i⟩ := b
    rcases hh : lookupHat e.hat with _ | hat
    · exact (Builds.throw.within.bind fun _ _ => Builds.pure (P := fun _ => True) trivial).stops
        (by simp) (by simp)
    · refine (((buildStmts_builds files 0 e.body).bind fun body hbody => Builds.pure
        (P := fun ev : Event => some ev.hat = lookupHat e.hat ∧ Stmt.AllBuiltFrom ev.body e.body ∧
          ev.span.Forward) ?_).within.bind fun ev hev => Builds.pure ?_).congr (by simp) (by simp)
          fun _ h => h
      · exact ⟨hh.symm, hbody, mapSpan_forward _ _⟩
      · refine hb.snoc ⟨ev, rfl, hev.1, hev.2.1.1, ?_⟩
        simp only [List.mem_cons]
        rintro s (rfl | hs)
        · exact hev.2.2
        · exact hev.2.1.2 s hs
  · refine ((buildStmts_builds files 0 h.body).within.bind fun body hbody =>
      (declare_builds _ _ _ _ _).congr Iff.rfl rfl fun acc' h' => ⟨_, h', rfl, hbody.1, ?_⟩).congr
      Iff.rfl (by simp) fun _ h => h
    simp only [List.mem_cons]
    rintro s (rfl | hs)
    · exact mapSpan_forward _ _
    · exact hbody.2 s hs
  · refine Builds.pure ⟨rfl, ?_, ?_⟩
    · simp [Sprite.identifiers, Dump.SpriteEntry.idents, hvars.2.1, hlists.2.1, henums.2.1,
        hstructs.2.1, hprocs.2.1, hevents.2.1, hhandlers.2.1]
    · simp only [Sprite.spans, List.mem_append]
      rintro s ((((((hs | hs) | hs) | hs) | hs) | hs) | hs)
      · exact hvars.forward s (by simpa [eq_comm] using hs)
      · exact hlists.forward s (by simpa [eq_comm] using hs)
      · exact henums.forward s hs
      · exact hstructs.forward s hs
      · exact hprocs.forward s hs
      · exact hevents.forward s hs
      · exact hhandlers.forward s hs
  · intro _ _
    exact ⟨_, rfl⟩
  · simp [Dump.SpriteEntry.Structured, stepsOk_each, and_assoc]
  · simp [Dump.SpriteEntry.idents]

theorem buildSprite_run (files : List Nat) (name : String) (isStage : Bool) (d : Dump.SpriteEntry)
    (wrap : BuildError → BuildError) :
    Gives (((buildSprite files name isStage d).within wrap).run none)
      (d.Structured ∧ firstInvalid d.idents = none) (fun r => r.1.BuiltFrom name d) := by
  obtain ⟨hrun, hstop⟩ := buildSprite_checks files name isStage d none
  refine ⟨fun h => ?_, fun h => ?_⟩
  · obtain ⟨t, ht, hP⟩ := hrun h
    exact ⟨(t, none), by simp only [StateT.run, BuildM.within, ht], hP⟩
  · obtain ⟨e, he⟩ := hstop h
    exact ⟨wrap e, by simp only [StateT.run, BuildM.within, he]⟩

namespace Dump

def Document.idents (doc : Document) : List String :=
  doc.stage.idents ++ doc.sprites.flatMap fun s => s.2.idents

/-- A document without structural fault: the stage and every sprite are without fault, no
sprite's composed name is the stage's, and the sprites' composed names are distinct. -/
def Document.Structured (doc : Document) : Prop :=
  doc.stage.Structured ∧ (∀ s ∈ doc.sprites, Unicode.nfc s.1 ≠ stageName ∧ s.2.Structured) ∧
    (doc.sprites.map fun s => Unicode.nfc s.1).Nodup

end Dump

def Project.identifiers (p : Project) : List String := p.targets.flatMap Sprite.identifiers

def Project.spans (p : Project) : List Span := p.targets.flatMap Sprite.spans

/-- What building a document gives: the stage built from the stage entry, and every sprite
built from a sprite entry under its composed name. -/
def Project.BuiltFrom (p : Project) (doc : Dump.Document) : Prop :=
  p.stage.BuiltFrom stageName doc.stage ∧
    ∀ t ∈ p.sprites, ∃ s ∈ doc.sprites, t.BuiltFrom (Unicode.nfc s.1) s.2

def SpritesBuilt (done : List (String × Dump.SpriteEntry)) (acc : List Sprite) : Prop :=
  acc.map (·.name) = done.map (fun s => Unicode.nfc s.1) ∧
    ∀ t ∈ acc, ∃ s ∈ done, t.BuiltFrom (Unicode.nfc s.1) s.2

theorem SpritesBuilt.snoc {done : List (String × Dump.SpriteEntry)} {acc : List Sprite}
    {s : String × Dump.SpriteEntry} {t : Sprite} (h : SpritesBuilt done acc)
    (ht : t.BuiltFrom (Unicode.nfc s.1) s.2) : SpritesBuilt (done ++ [s]) (acc ++ [t]) := by
  obtain ⟨hnames, hbuilt⟩ := h
  refine ⟨by simp [hnames, ht.1], ?_⟩
  simp only [List.mem_append, List.mem_singleton]
  rintro t' (ht' | rfl)
  · obtain ⟨s', hs', h'⟩ := hbuilt t' ht'
    exact ⟨s', Or.inl hs', h'⟩
  · exact ⟨s, Or.inr rfl, ht⟩

theorem Dump.Document.firstInvalid_eq_none (doc : Dump.Document) :
    firstInvalid doc.idents = none ↔ firstInvalid doc.stage.idents = none ∧
      ∀ s ∈ doc.sprites, firstInvalid s.2.idents = none := by
  simp only [BlockGraph.firstInvalid_eq_none, Dump.Document.idents, List.mem_append, List.mem_flatMap]
  constructor
  · intro h
    exact ⟨fun x hx => h x (Or.inl hx), fun s hs x hx => h x (Or.inr ⟨s, hs, hx⟩)⟩
  · rintro ⟨hstage, hsprites⟩ x (hx | ⟨s, hs, hx⟩)
    · exact hstage x hx
    · exact hsprites s hs x hx

theorem Project.build_gives (doc : Dump.Document) (origin : String) :
    Gives (Project.build doc origin) (doc.Structured ∧ firstInvalid doc.idents = none)
      (fun r => r.1.BuiltFrom doc) := by
  unfold Project.build
  rcases loadFiles origin doc.files with ⟨fs, files⟩
  dsimp only
  -- a sprite is refused when its composed name is the stage's or taken, before it is built
  refine ((buildSprite_run files stageName true doc.stage .inStage).bind fun r hr =>
    (Gives.foldlM (c := fun done s => (Unicode.nfc s.1 ≠ stageName ∧ s.2.Structured ∧
      firstInvalid s.2.idents = none) ∧ Unicode.nfc s.1 ∉ done.map fun s => Unicode.nfc s.1)
      SpritesBuilt (fun done s acc hacc => ?_) _ [] [] ⟨rfl, by simp⟩).bind
      fun sprites hsprites => Gives.pure ?_).congr ?_ fun _ h => h
  · refine (Gives.guard (Gives.guard ((buildSprite_run files _ false s.2 _).bind fun r hr =>
      Gives.pure (hacc.snoc hr)))).congr ?_ fun _ h => h
    rw [← hacc.1]
    simp only [List.any_eq_true, beq_iff_eq, List.mem_map, and_true]
    constructor
    · rintro ⟨hstage, hfresh, hok⟩
      exact ⟨⟨hstage, hok⟩, hfresh⟩
    · rintro ⟨⟨hstage, hok⟩, hfresh⟩
      exact ⟨hstage, hfresh, hok⟩
  · refine ⟨hr, fun t ht => ?_⟩
    obtain ⟨s, hs, h⟩ := hsprites.2 t (List.mem_mergeSort.1 ht)
    exact ⟨s, by simpa using hs, h⟩
  · have hperm := List.mergeSort_perm doc.sprites fun a b => Utf8.keptLE a.1 b.1
    rw [stepsOk_fresh (fun s : String × Dump.SpriteEntry => Unicode.nfc s.1 ≠ stageName ∧
      s.2.Structured ∧ firstInvalid s.2.idents = none) fun s => Unicode.nfc s.1,
      Dump.Document.firstInvalid_eq_none,
      (hperm.map _).nodup_iff]
    simp only [List.mem_mergeSort, Dump.Document.Structured, List.map_nil, List.not_mem_nil,
      not_false_eq_true, implies_true, and_true]
    constructor
    · rintro ⟨⟨hstage, hfirst⟩, hsprites, hnodup⟩
      exact ⟨⟨hstage, fun s hs => ⟨(hsprites s hs).1, (hsprites s hs).2.1⟩, hnodup⟩, hfirst,
        fun s hs => (hsprites s hs).2.2⟩
    · rintro ⟨⟨hstage, hsprites, hnodup⟩, hfirst, hfirsts⟩
      exact ⟨⟨hstage, hfirst⟩, fun s hs => ⟨(hsprites s hs).1, (hsprites s hs).2, hfirsts s hs⟩,
        hnodup⟩

theorem Project.BuiltFrom.targets {p : Project} {doc : Dump.Document} (h : p.BuiltFrom doc) :
    ∀ t ∈ p.targets, ∃ d : Dump.SpriteEntry, (∀ y ∈ d.idents, y ∈ doc.idents) ∧
      t.identifiers = d.idents.map Unicode.nfc ∧ ∀ s ∈ t.spans, s.Forward := by
  rintro t (_ | ⟨_, ht⟩)
  · exact ⟨doc.stage, fun y hy => List.mem_append_left _ hy, h.1.2⟩
  · obtain ⟨s, hs, hbuilt⟩ := h.2 t ht
    refine ⟨s.2, fun y hy => List.mem_append_right _ (List.mem_flatMap.2 ⟨s, hs, hy⟩), hbuilt.2⟩

/-- A document builds exactly when it has no structural fault and every identifier position
holds, once composed, neither `.` nor `:`. The program built stores only valid composed forms
of the document's identifiers, and spans that run forwards. -/
theorem Project.build_ok_iff (doc : Dump.Document) (origin : String) :
    ((∃ r, Project.build doc origin = .ok r) ↔
      doc.Structured ∧ ∀ x ∈ doc.idents, Names.isValid (Unicode.nfc x) = true) ∧
    ∀ p fs, Project.build doc origin = .ok (p, fs) →
      (∀ x ∈ p.identifiers, Names.isValid x = true ∧ ∃ y ∈ doc.idents, x = Unicode.nfc y) ∧
      ∀ s ∈ p.spans, s.Forward := by
  have h := Project.build_gives doc origin
  refine ⟨by rw [h.exists_ok_iff, firstInvalid_eq_none], fun p fs hp => ?_⟩
  obtain ⟨⟨_, hvalid⟩, hbuilt⟩ := h.of_ok hp
  rw [firstInvalid_eq_none] at hvalid
  have htargets := hbuilt.targets
  simp only [Project.identifiers, Project.spans, List.mem_flatMap]
  refine ⟨?_, ?_⟩
  · rintro x ⟨t, ht, hx⟩
    obtain ⟨d, hsub, hids, _⟩ := htargets t ht
    rw [hids, List.mem_map] at hx
    obtain ⟨y, hy, rfl⟩ := hx
    exact ⟨hvalid y (hsub y hy), y, hsub y hy, rfl⟩
  · rintro s ⟨t, ht, hs⟩
    obtain ⟨d, _, _, hspans⟩ := htargets t ht
    exact hspans s hs

end BlockGraph
