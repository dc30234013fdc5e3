import BlockGraph.Proofs.Program.Acceptance
import BlockGraph.Proofs.Program.Primitives
import Mathlib.Data.List.Nodup
/-!
# Declared names are apart

The graph names variables by flat keys such as `proc:base.field`; identifiers hold neither `.`
nor `:`, so keys give their parts back, and building declares each name of a target once.
-/

namespace BlockGraph.Names

theorem isValid_iff {s : String} : isValid s = true ↔ '.' ∉ s.toList ∧ ':' ∉ s.toList := by
  simp only [isValid, Bool.not_eq_eq_eq_not, Bool.not_true, List.any_eq_false, decide_eq_true_eq,
    not_or]
  exact ⟨fun h => ⟨fun hm => (h _ hm).1 rfl, fun hm => (h _ hm).2 rfl⟩,
    fun h x hx => ⟨fun e => h.1 (e ▸ hx), fun e => h.2 (e ▸ hx)⟩⟩

theorem append_sep_cancel {c : Char} {a a' b b' : List Char} (ha : c ∉ a) (ha' : c ∉ a')
    (h : a ++ c :: b = a' ++ c :: b') : a = a' ∧ b = b' := by
  induction a generalizing a' with
  | nil =>
    cases a' with
    | nil => exact ⟨rfl, by simpa using h⟩
    | cons y a' =>
      simp only [List.nil_append, List.cons_append, List.cons.injEq] at h
      exact absurd (by rw [h.1]; exact List.mem_cons_self) ha'
  | cons x a ih =>
    cases a' with
    | nil =>
      simp only [List.nil_append, List.cons_append, List.cons.injEq] at h
      exact absurd (by rw [← h.1]; exact List.mem_cons_self) ha
    | cons y a' =>
      simp only [List.cons_append, List.cons.injEq] at h
      obtain ⟨rfl, h⟩ := h
      obtain ⟨rfl, rfl⟩ := ih (fun hm => ha (List.mem_cons_of_mem _ hm))
        (fun hm => ha' (List.mem_cons_of_mem _ hm)) h
      exact ⟨rfl, rfl⟩

theorem toList_structVar (base field : String) :
    (structVar base field).toList = base.toList ++ '.' :: field.toList := by
  simp [structVar, String.toList_append]

theorem toList_localName (proc name : String) :
    (localName proc name).toList = proc.toList ++ ':' :: name.toList := by
  simp [localName, String.toList_append]

theorem structVar_inj {b f b' f' : String} (hb : '.' ∉ b.toList) (hb' : '.' ∉ b'.toList)
    (h : structVar b f = structVar b' f') : b = b' ∧ f = f' := by
  have h' := congrArg String.toList h
  rw [toList_structVar, toList_structVar] at h'
  obtain ⟨h₁, h₂⟩ := append_sep_cancel hb hb' h'
  exact ⟨String.toList_inj.1 h₁, String.toList_inj.1 h₂⟩

theorem localName_inj {p n p' n' : String} (hp : ':' ∉ p.toList) (hp' : ':' ∉ p'.toList)
    (h : localName p n = localName p' n') : p = p' ∧ n = n' := by
  have h' := congrArg String.toList h
  rw [toList_localName, toList_localName] at h'
  obtain ⟨h₁, h₂⟩ := append_sep_cancel hp hp' h'
  exact ⟨String.toList_inj.1 h₁, String.toList_inj.1 h₂⟩

theorem structVar_ne {b f n : String} (hn : '.' ∉ n.toList) : structVar b f ≠ n := by
  rintro rfl
  exact hn (by simp [toList_structVar])

theorem localName_ne {p m n : String} (hn : ':' ∉ n.toList) : localName p m ≠ n := by
  rintro rfl
  exact hn (by simp [toList_localName])

section Qualify

variable {p b f p' b' f' : String}

theorem fieldPart_inj (hb : '.' ∉ b.toList) (hb' : '.' ∉ b'.toList)
    (h : (if f = "" then b else structVar b f) = (if f' = "" then b' else structVar b' f')) :
    b = b' ∧ f = f' := by
  by_cases hf : f = "" <;> by_cases hf' : f' = ""
  · rw [if_pos hf, if_pos hf'] at h
    exact ⟨h, hf.trans hf'.symm⟩
  · rw [if_pos hf, if_neg hf'] at h
    exact absurd h.symm (structVar_ne hb)
  · rw [if_neg hf, if_pos hf'] at h
    exact absurd h (structVar_ne hb')
  · rw [if_neg hf, if_neg hf'] at h
    exact structVar_inj hb hb' h

theorem colon_not_mem_fieldPart (hb : ':' ∉ b.toList) (hf : ':' ∉ f.toList) :
    ':' ∉ (if f = "" then b else structVar b f).toList := by
  split
  · exact hb
  · simp [toList_structVar, hb, hf]

/-- Qualifying identifiers loses nothing: the qualified name gives back the procedure, the base
and the field. -/
theorem qualify_inj (hp : isValid p = true) (hb : isValid b = true) (hf : isValid f = true)
    (hp' : isValid p' = true) (hb' : isValid b' = true) (hf' : isValid f' = true)
    (h : qualify p b f = qualify p' b' f') : p = p' ∧ b = b' ∧ f = f' := by
  rw [isValid_iff] at hp hb hf hp' hb' hf'
  unfold qualify at h
  dsimp only at h
  have hs := colon_not_mem_fieldPart hb.2 hf.2
  have hs' := colon_not_mem_fieldPart hb'.2 hf'.2
  by_cases hp₀ : p = "" <;> by_cases hp₀' : p' = ""
  · rw [if_pos hp₀, if_pos hp₀'] at h
    exact ⟨hp₀.trans hp₀'.symm, fieldPart_inj hb.1 hb'.1 h⟩
  · -- a name outside procedures has no `:`, a local's has one
    rw [if_pos hp₀, if_neg hp₀'] at h
    exact absurd h.symm (localName_ne hs)
  · rw [if_neg hp₀, if_pos hp₀'] at h
    exact absurd h (localName_ne hs')
  · rw [if_neg hp₀, if_neg hp₀'] at h
    obtain ⟨rfl, hinner⟩ := localName_inj hp.2 hp'.2 h
    exact ⟨rfl, fieldPart_inj hb.1 hb'.1 hinner⟩

end Qualify

end BlockGraph.Names

namespace BlockGraph

open BuildM

theorem nodup_snoc {α : Type} {l : List α} {a : α} (h : l.Nodup) (ha : a ∉ l) : (l ++ [a]).Nodup :=
  List.nodup_append.2 ⟨h, List.nodup_singleton a, fun b hb c hc => by
    rw [List.mem_singleton.1 hc]
    exact fun e => ha (e ▸ hb)⟩

/-- Blocks with no repeats, told apart by keys without repeats, make a list with no repeats:
an item of two blocks has one key. -/
theorem nodup_flatMap_of_key {α β γ : Type} {l : List α} {f : α → List β} (key : α → γ)
    (hkey : (l.map key).Nodup) (hf : ∀ a ∈ l, (f a).Nodup)
    (hshared : ∀ a ∈ l, ∀ b ∈ l, ∀ x ∈ f a, x ∈ f b → key a = key b) : (l.flatMap f).Nodup := by
  refine List.nodup_flatMap.2 ⟨hf, ?_⟩
  have hpair : l.Pairwise (fun a b => key a ≠ key b) := List.pairwise_map.1 hkey
  exact hpair.imp_of_mem fun ha hb hne x hxa hxb => hne (hshared _ ha _ hb x hxa hxb)

theorem foldl_keeps {α β : Type} {f : β → α → β} (I : β → Prop) {xs : List α} :
    ∀ {init : β}, I init → (∀ b, ∀ x ∈ xs, I b → I (f b x)) → I (xs.foldl f init) := by
  induction xs with
  | nil => exact fun h₀ _ => h₀
  | cons x xs ih =>
    intro init h₀ hf
    rw [List.foldl_cons]
    exact ih (hf init x List.mem_cons_self h₀) fun b y hy => hf b y (List.mem_cons_of_mem x hy)

theorem map_foldl_snoc {α β γ δ : Type} {f : α → List β × γ → β} {g : List β × γ → α → γ}
    {nameOf : β → δ} {nameOf' : α → δ} (hname : ∀ x acc, nameOf (f x acc) = nameOf' x)
    (xs : List α) : ∀ init : List β × γ,
      (xs.foldl (fun acc x => (acc.1 ++ [f x acc], g acc x)) init).1.map nameOf =
        init.1.map nameOf ++ xs.map nameOf' := by
  induction xs with
  | nil => simp
  | cons x xs ih =>
    intro init
    rw [List.foldl_cons, ih]
    simp [hname]

/-! ## Declarations named apart -/

/-- Variables named once each, by identifiers. -/
def VarsApart (vs : List Var) : Prop :=
  (vs.map Var.name).Nodup ∧ ∀ v ∈ vs, Names.isValid v.name = true

theorem VarsApart.nil : VarsApart [] := ⟨List.nodup_nil, by simp⟩

theorem VarsApart.snoc {vs : List Var} {v : Var} (h : VarsApart vs)
    (hnew : vs.any (·.name == v.name) = false) (hv : Names.isValid v.name = true) :
    VarsApart (vs ++ [v]) := by
  have hfresh : v.name ∉ vs.map Var.name := by
    simpa using hnew
  refine ⟨?_, fun w hw => ?_⟩
  · rw [List.map_append, List.map_singleton]
    exact nodup_snoc h.1 hfresh
  · rcases List.mem_append.1 hw with hw | hw
    · exact h.2 w hw
    · rw [List.mem_singleton.1 hw]
      exact hv

/-- What an assignment sees: the variables, and the locals inside a procedure, named apart. -/
def Declarations.Apart (d : Declarations) : Prop := VarsApart d.vars ∧ ∀ ls ∈ d.locals, VarsApart ls

theorem Declarations.Apart.declare {d : Declarations} (hd : d.Apart) {name : Name}
    (hname : Names.isValid name.base = true) (type : ValueType) (isLocal : Bool) :
    (d.declare name type isLocal).Apart := by
  unfold Declarations.declare
  split
  · split
    · split
      · exact hd
      · rename_i ls hls hnew
        refine ⟨hd.1, fun ls' hls' => ?_⟩
        cases hls'
        exact (hd.2 ls hls).snoc (Bool.eq_false_iff.2 hnew) hname
    · exact hd
  · split
    · exact hd
    · rename_i hnew
      simp only [Bool.or_eq_true, not_or] at hnew
      exact ⟨hd.1.snoc (Bool.eq_false_iff.2 hnew.1) hname, hd.2⟩

theorem Stmt.identifiers_parts {st : Stmt} {P : String → Prop} (h : ∀ x ∈ st.identifiers, P x) :
    P st.name.base ∧ (∀ x ∈ Stmt.identifiersOf st.body, P x) ∧
      ∀ x ∈ Stmt.identifiersOf st.orElse, P x := by
  rcases st with ⟨kind, _, name, type, isLocal, _, _, _, _, _, body, orElse, _, _, _⟩
  rw [Stmt.identifiers] at h
  simp only [List.forall_mem_append, List.forall_mem_cons] at h
  exact ⟨h.1.1.1.1.1.1, h.1.2, h.2⟩

mutual

theorem Declarations.Apart.visitStmt {d : Declarations} (hd : d.Apart) :
    ∀ st : Stmt, (∀ x ∈ st.identifiers, Names.isValid x = true) → (d.visitStmt st).Apart
  | ⟨kind, _, name, type, isLocal, _, _, _, _, _, body, orElse, _, _, _⟩, h => by
    obtain ⟨hname, hbody, helse⟩ := Stmt.identifiers_parts h
    unfold Declarations.visitStmt
    split
    case h_1 | h_2 | h_3 => exact hd.visitStmts body hbody
    case h_4 => exact (hd.visitStmts body hbody).visitStmts orElse helse
    case h_5 => exact hd.declare hname type isLocal
    case h_6 => exact hd

theorem Declarations.Apart.visitStmts {d : Declarations} (hd : d.Apart) :
    ∀ sts : List Stmt, (∀ x ∈ Stmt.identifiersOf sts, Names.isValid x = true) →
      (d.visitStmts sts).Apart
  | [], _ => by
    rw [Declarations.visitStmts]
    exact hd
  | st :: sts, h => by
    rw [Stmt.identifiersOf, List.forall_mem_append] at h
    rw [Declarations.visitStmts]
    exact (hd.visitStmt st h.1).visitStmts sts h.2

end

/-! ## What building declares -/

theorem BuildM.Yields.and {α : Type} {x : BuildM α} {P Q : α → Prop} (hP : x.Yields P)
    (hQ : x.Yields Q) : x.Yields fun a => P a ∧ Q a :=
  fun s a s' h => ⟨hP s a s' h, hQ s a s' h⟩

theorem declare_nodup {α : Type} {kind : String} {nameOf : α → String} {table : List α}
    {name : String} {x : α} (htable : (table.map nameOf).Nodup) (hx : nameOf x = name) :
    (declare kind nameOf table name x).Yields fun t => (t.map nameOf).Nodup := by
  unfold declare
  split
  · exact Yields.throw
  · rename_i hnew
    refine Yields.pure ?_
    rw [List.map_append, List.map_singleton]
    exact nodup_snoc htable (by simpa [hx] using hnew)

theorem buildProc_declares (files : List Nat) (d : Dump.ProcEntry) :
    (buildProc files d).Yields fun q => (q.args.map Arg.name).Nodup ∧ q.locals = [] := by
  unfold buildProc
  refine (Yields.any _).bind fun _ _ => (Yields.foldlM (fun args : List Arg => (args.map Arg.name).Nodup)
    (by simp) fun acc a hacc => ?_).bind fun args hargs =>
      (Yields.any _).bind fun _ _ => Yields.pure ⟨hargs, rfl⟩
  refine (Yields.any _).bind fun n _ => ?_
  split
  · exact Yields.throw
  · rename_i hnew
    refine (Yields.any _).bind fun _ _ => Yields.pure ?_
    rw [List.map_append, List.map_singleton]
    exact nodup_snoc hacc (by simpa using hnew)

/-- A sprite is built with its variables and its procedures named once each, each procedure
with its arguments named once each and no locals. -/
theorem buildSprite_declares (files : List Nat) (name : String) (isStage : Bool)
    (d : Dump.SpriteEntry) :
    (buildSprite files name isStage d).Yields fun t => (t.vars.map Var.name).Nodup ∧
      (t.procs.map Proc.name).Nodup ∧ ∀ q ∈ t.procs, (q.args.map Arg.name).Nodup ∧ q.locals = [] := by
  unfold buildSprite
  refine (Yields.any _).bind fun _ _ => ?_
  refine (Yields.foldlM (fun vars : List Var => (vars.map Var.name).Nodup) (by simp)
    fun acc v hacc => ?_).bind fun vars hvars => ?_
  · exact (Yields.any _).bind fun _ _ => (Yields.any _).bind fun _ _ => declare_nodup hacc rfl
  refine (Yields.any _).bind fun lists _ => (Yields.any _).bind fun enums _ =>
    (Yields.any _).bind fun structs _ => ?_
  refine (Yields.foldlM (fun procs : List Proc => (procs.map Proc.name).Nodup ∧
      ∀ q ∈ procs, (q.args.map Arg.name).Nodup ∧ q.locals = []) (by simp)
    fun acc x hacc => ?_).bind fun procs hprocs => ?_
  · exact (buildProc_declares files x).within.bind fun q hq =>
      (declare_nodup hacc.1 rfl).and (declare_yields hacc.2 hq)
  refine (Yields.any _).bind fun r _ => ?_
  obtain ⟨events, _⟩ := r
  refine (Yields.any _).bind fun handlers _ => (Yields.any _).bind fun bad _ => ?_
  split
  · exact Yields.throw
  · exact Yields.pure ⟨hvars, hprocs.1, hprocs.2⟩

theorem foldl_snoc_keeps {α β γ : Type} {f : α → List β × γ → β} {g : List β × γ → α → γ}
    (I : γ → Prop) (J : β → Prop) {xs : List α} :
    ∀ {init : List β × γ}, I init.2 → (∀ y ∈ init.1, J y) →
      (∀ x ∈ xs, ∀ acc : List β × γ, I acc.2 → I (g acc x) ∧ J (f x acc)) →
      I (xs.foldl (fun acc x => (acc.1 ++ [f x acc], g acc x)) init).2 ∧
        ∀ y ∈ (xs.foldl (fun acc x => (acc.1 ++ [f x acc], g acc x)) init).1, J y := by
  induction xs with
  | nil => exact fun hI hJ _ => ⟨hI, hJ⟩
  | cons x xs ih =>
    intro init hI hJ hstep
    rw [List.foldl_cons]
    obtain ⟨hI', hJ'⟩ := hstep x List.mem_cons_self init hI
    refine ih hI' (fun y hy => ?_) fun x' hx' => hstep x' (List.mem_cons_of_mem x hx')
    rcases List.mem_append.1 hy with hy | hy
    · exact hJ y hy
    · rw [List.mem_singleton.1 hy]
      exact hJ'

/-- The declarations of a target that give keys of its graph: its variables, its procedures,
and each procedure's locals and arguments, each named once by an identifier, and the fields of
its structs named by identifiers. -/
structure Sprite.Declared (t : Sprite) : Prop where
  vars : VarsApart t.vars
  procs : (t.procs.map Proc.name).Nodup
  procsValid : ∀ q ∈ t.procs, Names.isValid q.name = true
  locals : ∀ q ∈ t.procs, VarsApart q.locals
  args : ∀ q ∈ t.procs, (q.args.map Arg.name).Nodup
  argsValid : ∀ q ∈ t.procs, ∀ a ∈ q.args, Names.isValid a.name = true
  fields : ∀ d ∈ t.structs, ∀ f ∈ d.fields, Names.isValid f.name = true

/-- The identifiers of a sprite name its variables, struct fields, procedures and arguments,
and hold those of its bodies. -/
theorem Sprite.identifiers_parts {t : Sprite} {P : String → Prop} (h : ∀ x ∈ t.identifiers, P x) :
    (∀ v ∈ t.vars, P v.name) ∧ (∀ d ∈ t.structs, ∀ f ∈ d.fields, P f.name) ∧
      (∀ q ∈ t.procs, P q.name ∧ ∀ a ∈ q.args, P a.name) ∧
      ∀ b ∈ t.bodies, ∀ x ∈ Stmt.identifiersOf b, P x := by
  simp only [Sprite.identifiers, List.forall_mem_append, List.forall_mem_flatMap] at h
  obtain ⟨⟨⟨⟨⟨⟨hvars, -⟩, -⟩, hstructs⟩, hprocs⟩, hevents⟩, hhandlers⟩ := h
  refine ⟨fun v hv => hvars v hv v.name (by simp [Var.identifiers]),
    fun d hd f hf => hstructs d hd f.name (by simp [StructDecl.identifiers]; exact Or.inr ⟨f, hf, rfl⟩),
    fun q hq => ⟨hprocs q hq q.name (by simp [Proc.identifiers]),
      fun a ha => hprocs q hq a.name (by simp [Proc.identifiers, Arg.identifiers]; exact Or.inr (Or.inl ⟨a, ha, Or.inl rfl⟩))⟩,
    fun b hb x hx => ?_⟩
  rcases Sprite.mem_bodies.1 hb with ⟨ev, hev, rfl⟩ | ⟨hd, hhd, rfl⟩ | ⟨q, hq, rfl⟩
  · exact hevents ev hev x hx
  · exact hhandlers hd hhd x hx
  · exact hprocs q hq x (by simp [Proc.identifiers, hx])

theorem Sprite.declared_of_built {t : Sprite} (hvalid : ∀ x ∈ t.identifiers, Names.isValid x = true)
    (hb : (t.vars.map Var.name).Nodup ∧ (t.procs.map Proc.name).Nodup ∧
      ∀ q ∈ t.procs, (q.args.map Arg.name).Nodup ∧ q.locals = []) : t.Declared := by
  obtain ⟨hvars, hfields, hprocs, -⟩ := Sprite.identifiers_parts hvalid
  refine ⟨⟨hb.1, hvars⟩, hb.2.1, fun q hq => (hprocs q hq).1, fun q hq => ?_,
    fun q hq => (hb.2.2 q hq).1, fun q hq => (hprocs q hq).2, hfields⟩
  rw [(hb.2.2 q hq).2]
  exact VarsApart.nil

theorem Sprite.procNames_sorted (t : Sprite) :
    (t.sortedProcs.map Proc.name).Perm (t.procs.map Proc.name) :=
  (List.mergeSort_perm _ _).map _

/-- A sprite is declared when its procedures are those of a declared sprite listed by name,
each with its name and arguments and with locals apart, and its variables are apart. -/
theorem Sprite.Declared.of_procs {t t' : Sprite} (h : t.Declared) (hstructs : t'.structs = t.structs)
    (hvars : VarsApart t'.vars) (hnames : t'.procs.map Proc.name = t.sortedProcs.map Proc.name)
    (hprocs : ∀ q ∈ t'.procs, VarsApart q.locals ∧
      ∃ q₀ ∈ t.procs, q.name = q₀.name ∧ q.args = q₀.args) : t'.Declared := by
  refine ⟨hvars, ?_, fun q hq => ?_, fun q hq => (hprocs q hq).1, fun q hq => ?_, fun q hq => ?_,
    hstructs ▸ h.fields⟩
  · rw [hnames]
    exact (Sprite.procNames_sorted t).nodup_iff.2 h.procs
  · obtain ⟨-, q₀, hq₀, hname, -⟩ := hprocs q hq
    exact hname ▸ h.procsValid q₀ hq₀
  · obtain ⟨-, q₀, hq₀, -, hargs⟩ := hprocs q hq
    exact hargs ▸ h.args q₀ hq₀
  · obtain ⟨-, q₀, hq₀, -, hargs⟩ := hprocs q hq
    exact hargs ▸ h.argsValid q₀ hq₀

theorem Sprite.structs_declareAssigned (t : Sprite) (globals : List Var) :
    (t.declareAssigned globals).structs = t.structs := by
  unfold Sprite.declareAssigned
  rfl

theorem Sprite.structs_resolve (t : Sprite) (stage : Option Sprite) :
    (t.resolve stage).1.structs = t.structs := by
  unfold Sprite.resolve
  rfl

theorem Sprite.procNames_declareAssigned (t : Sprite) (globals : List Var) :
    (t.declareAssigned globals).procs.map Proc.name = t.sortedProcs.map Proc.name := by
  unfold Sprite.declareAssigned
  exact map_foldl_snoc (by intros; rfl) t.sortedProcs ([], t.vars)

theorem Sprite.procNames_resolve (t : Sprite) (stage : Option Sprite) :
    (t.resolve stage).1.procs.map Proc.name = t.sortedProcs.map Proc.name := by
  unfold Sprite.resolve
  exact map_foldl_snoc (by intros; rfl) _ _

/-- Declaring what assignments declare keeps the variables apart, and gives each procedure,
named and with arguments as before, locals apart: an assignment declares a name only when
none by it is visible, and names only identifiers of the bodies. -/
theorem Sprite.Declared.declareAssigned_parts {t : Sprite} (h : t.Declared)
    (hbodies : ∀ b ∈ t.bodies, ∀ x ∈ Stmt.identifiersOf b, Names.isValid x = true)
    (globals : List Var) :
    VarsApart (t.declareAssigned globals).vars ∧ ∀ q ∈ (t.declareAssigned globals).procs,
      VarsApart q.locals ∧ ∃ q₀ ∈ t.procs, q.name = q₀.name ∧ q.args = q₀.args := by
  unfold Sprite.declareAssigned
  dsimp only
  generalize hF : List.foldl _ ([], t.vars) t.sortedProcs = F
  have hsorted : ∀ q ∈ t.sortedProcs, q ∈ t.procs := fun q hq => List.mem_mergeSort.1 hq
  -- the procedures by name, each with the locals its body declares
  obtain ⟨hvars, hprocs⟩ : VarsApart F.2 ∧ ∀ q ∈ F.1, VarsApart q.locals ∧
      ∃ q₀ ∈ t.procs, q.name = q₀.name ∧ q.args = q₀.args := by
    rw [← hF]
    refine foldl_snoc_keeps VarsApart _ h.vars (by simp) fun x hx acc hacc => ?_
    have hd := Declarations.Apart.visitStmts (d := { locals := some x.locals, vars := acc.2, globals })
      ⟨hacc, fun ls hls => by cases hls; exact h.locals x (hsorted x hx)⟩ x.body
      (hbodies x.body (Sprite.mem_bodies.2 (Or.inr (Or.inr ⟨x, hsorted x hx, rfl⟩))))
    refine ⟨hd.1, ?_, x, hsorted x hx, rfl, rfl⟩
    show VarsApart ((Declarations.visitStmts { locals := some x.locals, vars := acc.2, globals }
      x.body).locals.getD x.locals)
    cases hl : (Declarations.visitStmts { locals := some x.locals, vars := acc.2, globals } x.body).locals with
    | none => exact h.locals x (hsorted x hx)
    | some ls => exact hd.2 ls hl
  refine ⟨?_, hprocs⟩
  -- events and handlers declare variables of the sprite
  have hbody : ∀ vars b, b ∈ t.bodies → VarsApart vars →
      VarsApart (({ locals := none, vars, globals } : Declarations).visitStmts b).vars :=
    fun vars b hb hvars => (Declarations.Apart.visitStmts ⟨hvars, by simp⟩ b (hbodies b hb)).1
  refine foldl_keeps VarsApart (foldl_keeps VarsApart hvars fun vars ev hev hv => ?_)
    fun vars hd hhd hv => ?_
  · exact hbody vars ev.body (Sprite.mem_bodies.2 (Or.inl ⟨ev, hev, rfl⟩)) hv
  · exact hbody vars hd.body
      (Sprite.mem_bodies.2 (Or.inr (Or.inl ⟨hd, List.mem_mergeSort.1 hhd, rfl⟩))) hv

theorem Sprite.Declared.declareAssigned {t : Sprite} (h : t.Declared)
    (hbodies : ∀ b ∈ t.bodies, ∀ x ∈ Stmt.identifiersOf b, Names.isValid x = true)
    (globals : List Var) : (t.declareAssigned globals).Declared :=
  have hparts := h.declareAssigned_parts hbodies globals
  h.of_procs (t.structs_declareAssigned globals) hparts.1 (t.procNames_declareAssigned globals)
    hparts.2

theorem Sprite.Declared.resolve {t : Sprite} (h : t.Declared) (stage : Option Sprite) :
    (t.resolve stage).1.Declared := by
  refine h.of_procs (t.structs_resolve stage) h.vars (t.procNames_resolve stage) fun q hq => ?_
  unfold Sprite.resolve at hq
  dsimp only at hq
  obtain hq | ⟨q₀, hq₀, _, rfl⟩ := mem_foldl_snoc hq
  · cases hq
  · exact ⟨h.locals q₀ (List.mem_mergeSort.1 hq₀), q₀, List.mem_mergeSort.1 hq₀, rfl, rfl⟩

theorem Project.analysed_as_built (p : Project) :
    ∀ t ∈ p.declareAssigned.resolve.1.targets, ∃ t₀ ∈ p.targets,
      t.structs = t₀.structs ∧ (t.procs.map Proc.name).Perm (t₀.procs.map Proc.name) := by
  intro t ht
  obtain ⟨t₁, ht₁, stage, rfl⟩ := Project.targets_resolve _ t ht
  obtain ⟨t₀, ht₀, globals, rfl⟩ := Project.targets_declareAssigned p t₁ ht₁
  refine ⟨t₀, ht₀, by rw [Sprite.structs_resolve, Sprite.structs_declareAssigned], ?_⟩
  have hsorted := Sprite.procNames_sorted (t₀.declareAssigned globals)
  rw [Sprite.procNames_declareAssigned] at hsorted
  rw [Sprite.procNames_resolve]
  exact hsorted.trans (Sprite.procNames_sorted t₀)

theorem Project.identifiers_valid_of_build {doc : Dump.Document} {origin : String} {p : Project}
    {fs : FileSet} (h : Project.build doc origin = .ok (p, fs)) :
    ∀ t ∈ p.targets, ∀ x ∈ t.identifiers, Names.isValid x = true := by
  obtain ⟨⟨_, hfirst⟩, hbuilt⟩ := (Project.build_gives doc origin).of_ok h
  rw [firstInvalid_eq_none] at hfirst
  intro t ht x hx
  obtain ⟨d, hsub, hids, _⟩ := hbuilt.targets t ht
  rw [hids, List.mem_map] at hx
  obtain ⟨y, hy, rfl⟩ := hx
  exact hfirst y (hsub y hy)

theorem analysed_targets_declared {doc : Dump.Document} {origin : String} {p : Project}
    {fs : FileSet} (h : Project.build doc origin = .ok (p, fs)) :
    ∀ t ∈ p.declareAssigned.resolve.1.targets, t.Declared := by
  have hvalid := Project.identifiers_valid_of_build h
  have hbuilt := build_targets buildSprite_declares h
  intro t ht
  obtain ⟨t₁, ht₁, stage, rfl⟩ := Project.targets_resolve _ t ht
  obtain ⟨t₀, ht₀, globals, rfl⟩ := Project.targets_declareAssigned p t₁ ht₁
  have hdecl := Sprite.declared_of_built (hvalid t₀ ht₀) (hbuilt t₀ ht₀)
  exact (hdecl.declareAssigned (Sprite.identifiers_parts (hvalid t₀ ht₀)).2.2.2 globals).resolve stage

/-- The structs of a sprite declare each field once, by an identifier. -/
def Sprite.FieldsApart (t : Sprite) : Prop :=
  ∀ d ∈ t.structs, (d.fields.map Field.name).Nodup ∧ ∀ f ∈ d.fields, Names.isValid f.name = true

theorem VarsApart.mergeSort {vs : List Var} (h : VarsApart vs) (le : Var → Var → Bool) :
    VarsApart (vs.mergeSort le) :=
  ⟨((List.mergeSort_perm vs le).map Var.name).nodup_iff.2 h.1, fun v hv => h.2 v (List.mem_mergeSort.1 hv)⟩

theorem analysed_targets_fieldsApart {doc : Dump.Document} {origin : String} {p : Project}
    {fs : FileSet} (hbuild : Project.build doc origin = .ok (p, fs))
    (hfields : ∀ t ∈ p.targets, ∀ d ∈ t.structs, (d.fields.map Field.name).Nodup) :
    ∀ t ∈ p.declareAssigned.resolve.1.targets, t.FieldsApart := by
  intro t ht d hd
  obtain ⟨t₀, ht₀, hstructs, -⟩ := Project.analysed_as_built p t ht
  exact ⟨hfields t₀ ht₀ d (hstructs ▸ hd), (analysed_targets_declared hbuild t ht).fields d hd⟩

theorem analysed_procs_named {p : Project} (hnamed : ∀ t ∈ p.targets, ∀ q ∈ t.procs, q.name ≠ "") :
    ∀ t ∈ p.declareAssigned.resolve.1.targets, ∀ q ∈ t.procs, q.name ≠ "" := by
  intro t ht q hq
  obtain ⟨t₀, ht₀, -, hperm⟩ := Project.analysed_as_built p t ht
  obtain ⟨q₀, hq₀, hname⟩ := List.mem_map.1 (hperm.subset (List.mem_map_of_mem hq))
  exact hname ▸ hnamed t₀ ht₀ q₀ hq₀

end BlockGraph
