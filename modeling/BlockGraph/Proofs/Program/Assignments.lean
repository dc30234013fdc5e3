import BlockGraph.Proofs.Emission.FirstError
import BlockGraph.Proofs.Program.Declarations

namespace BlockGraph

/-- `table` with `x` added at its end, unless an entry of `x`'s key is in it or the key is
`known`. -/
def addFresh {α : Type} (key : α → String) (known : List String) (table : List α) (x : α) : List α :=
  if table.any (key · == key x) || known.contains (key x) then table else table ++ [x]

/-- `table'` is `table` with, after its entries, one entry for each key of `xs` that neither
`table` nor `known` has: the first entry of `xs` with that key. -/
structure FirstDeclared {α : Type} (key : α → String) (known : List String) (table xs table' : List α) :
    Prop where
  added : ∃ new, table' = table ++ new ∧ (new.map key).Nodup ∧
    ∀ y ∈ new, key y ∉ table.map key ∧ key y ∉ known ∧ xs.find? (key · == key y) = some y
  covers : ∀ x ∈ xs, key x ∈ table'.map key ∨ key x ∈ known

section AddFresh

variable {α : Type} (key : α → String) (known : List String)

theorem addFresh_of_mem {table : List α} {x : α} (h : key x ∈ table.map key ∨ key x ∈ known) :
    addFresh key known table x = table := by
  have hany : (table.any (key · == key x) || known.contains (key x)) = true := by
    rcases h with h | h
    · obtain ⟨y, hy, e⟩ := List.mem_map.1 h
      simp only [Bool.or_eq_true, List.any_eq_true, beq_iff_eq]
      exact Or.inl ⟨y, hy, e⟩
    · simp [h]
  simp only [addFresh, hany, if_true]

theorem addFresh_of_not_mem {table : List α} {x : α} (ht : key x ∉ table.map key)
    (hk : key x ∉ known) : addFresh key known table x = table ++ [x] := by
  have hany : (table.any (key · == key x) || known.contains (key x)) = false := by
    simp only [List.mem_map, not_exists, not_and] at ht
    simpa [List.any_eq_false] using ⟨fun y hy e => ht y hy e, hk⟩
  simp only [addFresh, hany, Bool.false_eq_true, if_false]

theorem foldl_addFresh_of_covered :
    ∀ {xs table : List α}, (∀ x ∈ xs, key x ∈ table.map key ∨ key x ∈ known) →
      xs.foldl (addFresh key known) table = table := by
  intro xs
  induction xs with
  | nil => intro table _; rfl
  | cons x xs ih =>
    intro table h
    rw [List.foldl_cons, addFresh_of_mem key known (h x List.mem_cons_self)]
    exact ih fun y hy => h y (List.mem_cons_of_mem x hy)

theorem foldl_addFresh :
    ∀ (xs table : List α), FirstDeclared key known table xs (xs.foldl (addFresh key known) table) := by
  intro xs
  induction xs with
  | nil =>
    intro table
    exact ⟨⟨[], by simp, by simp, by simp⟩, by simp⟩
  | cons x xs ih =>
    intro table
    rw [List.foldl_cons]
    by_cases hx : key x ∈ table.map key ∨ key x ∈ known
    · -- a known key: `x` is skipped, and the first entry of a new key is after it
      rw [addFresh_of_mem key known hx]
      obtain ⟨⟨new, heq, hnodup, hnew⟩, hcov⟩ := ih table
      refine ⟨⟨new, heq, hnodup, fun y hy => ?_⟩, ?_⟩
      · obtain ⟨ht, hk, hfind⟩ := hnew y hy
        have hne : (key x == key y) = false := by
          rcases hx with hx | hx
          · exact beq_false_of_ne fun e => ht (e ▸ hx)
          · exact beq_false_of_ne fun e => hk (e ▸ hx)
        exact ⟨ht, hk, by rw [List.find?_cons, hne]; exact hfind⟩
      · intro z hz
        rcases List.mem_cons.1 hz with rfl | hz
        · rcases hx with hx | hx
          · exact Or.inl (by rw [heq, List.map_append]; exact List.mem_append_left _ hx)
          · exact Or.inr hx
        · exact hcov z hz
    · -- a new key: `x` is added, and every later entry of a new key has another key
      rw [not_or] at hx
      rw [addFresh_of_not_mem key known hx.1 hx.2]
      obtain ⟨⟨new, heq, hnodup, hnew⟩, hcov⟩ := ih (table ++ [x])
      refine ⟨⟨x :: new, by rw [heq]; simp, ?_, fun y hy => ?_⟩, ?_⟩
      · refine List.nodup_cons.2 ⟨fun hm => ?_, hnodup⟩
        obtain ⟨y, hy, e⟩ := List.mem_map.1 hm
        exact (hnew y hy).1 (by rw [e]; simp)
      · rcases List.mem_cons.1 hy with rfl | hy
        · exact ⟨hx.1, hx.2, by simp⟩
        · obtain ⟨ht, hk, hfind⟩ := hnew y hy
          have hne : key x ≠ key y := fun e => ht (by rw [← e]; simp)
          refine ⟨fun hm => ht (by rw [List.map_append]; exact List.mem_append_left _ hm), hk, ?_⟩
          rw [List.find?_cons, beq_false_of_ne hne]
          exact hfind
      · intro z hz
        rcases List.mem_cons.1 hz with rfl | hz
        · exact Or.inl (by rw [heq]; simp)
        · exact hcov z hz

end AddFresh

/-! ## Declaring along a body -/

/-- The assignments of a body, at any depth, in the order the pass meets them: the bodies of
loops and both arms of a branch where they stand. -/
def Stmt.assignmentsOf (sts : List Stmt) : List Stmt :=
  (Stmt.chainReached sts).filter (·.kind == .setVar)

def Stmt.declared (st : Stmt) : Var := { name := st.name.base, span := st.name.span, type := st.type }

def Declarations.assign (d : Declarations) (st : Stmt) : Declarations :=
  d.declare st.name st.type st.isLocal

open Graph in
mutual

theorem Declarations.visitStmt_eq (d : Declarations) :
    ∀ st : Stmt, d.visitStmt st = (st.reached.filter (·.kind == .setVar)).foldl Declarations.assign d
  | ⟨kind, span, name, type, isLocal, value, index, times, cond, op, body, orElse, command, proc,
      args⟩ => by
    cases kind
    case repeatTimes | forever | repeatUntil =>
      simp +decide [Declarations.visitStmt, Stmt.reached, Declarations.visitStmts_eq, Stmt.assignmentsOf]
    case branch =>
      simp +decide [Declarations.visitStmt, Stmt.reached, Declarations.visitStmts_eq, Stmt.assignmentsOf,
        List.filter_append]
    case setVar => simp +decide [Declarations.visitStmt, Stmt.reached, Declarations.assign]
    all_goals simp +decide [Declarations.visitStmt, Stmt.reached]

theorem Declarations.visitStmts_eq (d : Declarations) :
    ∀ sts : List Stmt, d.visitStmts sts = (Stmt.assignmentsOf sts).foldl Declarations.assign d
  | [] => rfl
  | st :: sts => by
    rw [Declarations.visitStmts, Declarations.visitStmt_eq, Declarations.visitStmts_eq]
    simp [Stmt.assignmentsOf, Stmt.chainReached, List.filter_append]

end

namespace Declarations

variable {d : Declarations} {st : Stmt}

theorem assign_local (h : st.isLocal = true) :
    d.assign st = { d with locals := d.locals.map (addFresh Var.name [] · st.declared) } := by
  obtain ⟨locals, vars, globals⟩ := d
  unfold assign declare
  rw [if_pos h]
  cases locals with
  | none => rfl
  | some ls =>
    by_cases hany : ls.any (·.name == st.name.base) = true
    · simp only [Option.map_some, addFresh, Stmt.declared, List.contains_nil, Bool.or_false, hany, if_true]
    · simp only [Option.map_some, addFresh, Stmt.declared, List.contains_nil, Bool.or_false, hany,
        if_false, Bool.false_eq_true]

theorem assign_global (h : st.isLocal = false) :
    d.assign st = { d with vars := addFresh Var.name (d.globals.map Var.name) d.vars st.declared } := by
  obtain ⟨locals, vars, globals⟩ := d
  unfold assign declare
  rw [if_neg (by simp [h])]
  have hknown : (globals.map Var.name).contains st.name.base = globals.any (·.name == st.name.base) := by
    rw [Bool.eq_iff_iff]
    simp
  by_cases hany : (vars.any (·.name == st.name.base) || globals.any (·.name == st.name.base)) = true
  · simp only [addFresh, Stmt.declared, hknown, hany, if_true]
  · simp only [addFresh, Stmt.declared, hknown, hany, if_false, Bool.false_eq_true]

theorem foldl_assign_vars : ∀ (L : List Stmt) (d : Declarations), (L.foldl assign d).vars =
    ((L.filter (!·.isLocal)).map Stmt.declared).foldl (addFresh Var.name (d.globals.map Var.name)) d.vars := by
  intro L
  induction L with
  | nil => intro d; rfl
  | cons st L ih =>
    intro d
    rw [List.foldl_cons, ih]
    cases h : st.isLocal
    · rw [assign_global h]
      simp [h]
    · rw [assign_local h]
      simp [h]

theorem foldl_assign_locals : ∀ (L : List Stmt) (d : Declarations), (L.foldl assign d).locals =
    d.locals.map fun ls => ((L.filter (·.isLocal)).map Stmt.declared).foldl (addFresh Var.name []) ls := by
  intro L
  induction L with
  | nil => intro d; simp
  | cons st L ih =>
    intro d
    rw [List.foldl_cons, ih]
    cases h : st.isLocal
    · rw [assign_global h]
      simp [h]
    · rw [assign_local h]
      simp [h, Option.map_map, Function.comp_def]

end Declarations

/-! ## Procedures by name -/

namespace Utf8

theorem bytesLE_total (xs ys : List UInt8) : (bytesLE xs ys || bytesLE ys xs) = true := by
  induction xs generalizing ys with
  | nil => simp [bytesLE]
  | cons x xs ih =>
    cases ys with
    | nil => simp [bytesLE]
    | cons y ys =>
      by_cases h : x = y
      · subst h
        simpa [bytesLE] using ih ys
      · have hne : y ≠ x := Ne.symm h
        simp only [bytesLE, h, hne, if_false, Bool.or_eq_true, decide_eq_true_eq]
        rw [UInt8.lt_iff_toNat_lt, UInt8.lt_iff_toNat_lt]
        have : x.toNat ≠ y.toNat := fun e => h (UInt8.toNat_inj.1 e)
        omega

theorem bytesLE_trans (xs ys zs : List UInt8) (h₁ : bytesLE xs ys = true) (h₂ : bytesLE ys zs = true) :
    bytesLE xs zs = true := by
  induction xs generalizing ys zs with
  | nil => simp [bytesLE]
  | cons x xs ih =>
    cases ys with
    | nil => simp [bytesLE] at h₁
    | cons y ys =>
      cases zs with
      | nil => simp [bytesLE] at h₂
      | cons z zs =>
        simp only [bytesLE] at h₁ h₂ ⊢
        by_cases hxy : x = y <;> by_cases hyz : y = z
        · subst hxy hyz
          simp only [if_true] at h₁ h₂ ⊢
          exact ih ys zs h₁ h₂
        · subst hxy
          simpa [hyz] using h₂
        · subst hyz
          simpa [hxy] using h₁
        · simp only [hxy, hyz, if_false, decide_eq_true_eq] at h₁ h₂
          have hxz : x < z := UInt8.lt_trans h₁ h₂
          have hne : x ≠ z := fun e => UInt8.lt_irrefl x (e ▸ hxz)
          simp [hne, hxz]

theorem keptLE_total (a b : String) : (keptLE a b || keptLE b a) = true := bytesLE_total _ _

theorem keptLE_trans {a b c : String} (h₁ : keptLE a b = true) (h₂ : keptLE b c = true) :
    keptLE a c = true :=
  bytesLE_trans _ _ _ h₁ h₂

end Utf8

namespace Sprite

def ProcsSorted (t : Sprite) : Prop := t.procs.Pairwise fun a b => Utf8.keptLE a.name b.name

theorem sortedProcs_pairwise (t : Sprite) :
    t.sortedProcs.Pairwise fun a b => Utf8.keptLE a.name b.name := by
  unfold sortedProcs
  apply List.pairwise_mergeSort
  · intro a b c h₁ h₂
    exact Utf8.keptLE_trans h₁ h₂
  · intro a b
    exact Utf8.keptLE_total a.name b.name

theorem sortedProcs_of_sorted {t : Sprite} (h : t.ProcsSorted) : t.sortedProcs = t.procs :=
  List.mergeSort_of_pairwise h

theorem procsSorted_of_map {t t' : Sprite} {f : Proc → Proc} (h : t'.procs = t.sortedProcs.map f)
    (hf : ∀ q, (f q).name = q.name) : t'.ProcsSorted := by
  unfold ProcsSorted
  rw [h, List.pairwise_map]
  simpa only [hf] using t.sortedProcs_pairwise

end Sprite

/-! ## What the pass makes of a sprite -/

/-- The bodies of a sprite in the order the pass walks them: procedures by name, events in
order, handlers by message. -/
def Sprite.passBodies (t : Sprite) : List (List Stmt) :=
  t.sortedProcs.map (·.body) ++ t.events.map (·.body) ++ t.sortedHandlers.map (·.body)

def Sprite.assignments (t : Sprite) : List Stmt := t.passBodies.flatMap Stmt.assignmentsOf

theorem foldl_snd_eq {α β γ : Type} {F : β × γ → α → β × γ} (g : γ → α → γ)
    (hF : ∀ acc x, (F acc x).2 = g acc.2 x) :
    ∀ (xs : List α) (init : β × γ), (xs.foldl F init).2 = xs.foldl g init.2 := by
  intro xs
  induction xs with
  | nil => intro init; rfl
  | cons x xs ih =>
    intro init
    rw [List.foldl_cons, List.foldl_cons, ih, hF]

theorem foldl_snoc_fst {α β γ : Type} {F : List β × γ → α → List β × γ} (f : α → β)
    (hF : ∀ acc x, (F acc x).1 = acc.1 ++ [f x]) :
    ∀ (xs : List α) (init : List β × γ), (xs.foldl F init).1 = init.1 ++ xs.map f := by
  intro xs
  induction xs with
  | nil => intro init; simp
  | cons x xs ih =>
    intro init
    rw [List.foldl_cons, ih, hF]
    simp

theorem Declarations.visitStmts_vars (locals : Option (List Var)) (vars globals : List Var)
    (body : List Stmt) :
    (({ locals, vars, globals } : Declarations).visitStmts body).vars =
      (((Stmt.assignmentsOf body).filter (!·.isLocal)).map Stmt.declared).foldl
        (addFresh Var.name (globals.map Var.name)) vars := by
  rw [Declarations.visitStmts_eq, Declarations.foldl_assign_vars]

theorem Declarations.visitStmts_locals (ls vars globals : List Var) (body : List Stmt) :
    (({ locals := some ls, vars, globals } : Declarations).visitStmts body).locals =
      some ((((Stmt.assignmentsOf body).filter (·.isLocal)).map Stmt.declared).foldl
        (addFresh Var.name []) ls) := by
  rw [Declarations.visitStmts_eq, Declarations.foldl_assign_locals]
  rfl

theorem Proc.initUsage_usedArgs (q : Proc) :
    q.initUsage.usedArgs = (q.args.map fun a => (a.name, false)).foldl (addFresh Prod.fst []) q.usedArgs := by
  rw [List.foldl_map]
  simp [Proc.initUsage, addFresh]

theorem foldl_declared_flatMap {τ : Type} (F : τ → Var → τ) (p : Stmt → Bool) (bs : List (List Stmt))
    (init : τ) :
    (((bs.flatMap Stmt.assignmentsOf).filter p).map Stmt.declared).foldl F init =
      bs.foldl (fun acc b => (((Stmt.assignmentsOf b).filter p).map Stmt.declared).foldl F acc) init := by
  rw [List.filter_flatMap, List.map_flatMap, List.foldl_flatMap]

@[simp] theorem Proc.initUsage_body (q : Proc) : q.initUsage.body = q.body := rfl

@[simp] theorem Proc.initUsage_locals (q : Proc) : q.initUsage.locals = q.locals := rfl

/-- A procedure as the pass leaves it: an entry per argument in its table of reads, and the
locals its local assignments declare. -/
def Proc.declareLocals (q : Proc) : Proc :=
  { q.initUsage with locals := (((Stmt.assignmentsOf q.body).filter (·.isLocal)).map
      Stmt.declared).foldl (addFresh Var.name []) q.locals }

theorem Proc.initUsage_of_covered {q : Proc} (h : ∀ a ∈ q.args, a.name ∈ q.usedArgs.map Prod.fst) :
    q.initUsage = q := by
  have hused : q.initUsage.usedArgs = q.usedArgs := by
    rw [Proc.initUsage_usedArgs]
    refine foldl_addFresh_of_covered _ _ fun x hx => ?_
    obtain ⟨a, ha, rfl⟩ := List.mem_map.1 hx
    exact Or.inl (h a ha)
  calc q.initUsage = { q with usedArgs := q.initUsage.usedArgs } := rfl
    _ = q := by rw [hused]

/-- A procedure the pass has seen is left as it is by a second pass: its table of reads has
every argument and its locals every name its local assignments give. -/
theorem Proc.declareLocals_idem (q : Proc) : q.declareLocals.declareLocals = q.declareLocals := by
  have hused := (foldl_addFresh Prod.fst [] (q.args.map fun a => (a.name, false)) q.usedArgs).covers
  have hlocals := (foldl_addFresh Var.name [] (((Stmt.assignmentsOf q.body).filter (·.isLocal)).map
    Stmt.declared) q.locals).covers
  have hinit : q.declareLocals.initUsage = q.declareLocals := by
    refine Proc.initUsage_of_covered fun a ha => ?_
    have h := hused (a.name, false) (List.mem_map_of_mem ha)
    simp only [List.not_mem_nil, or_false] at h
    rw [← Proc.initUsage_usedArgs] at h
    exact h
  have hbody : q.declareLocals.body = q.body := rfl
  have hfold : (((Stmt.assignmentsOf q.body).filter (·.isLocal)).map Stmt.declared).foldl
      (addFresh Var.name []) q.declareLocals.locals = q.declareLocals.locals :=
    foldl_addFresh_of_covered _ _ hlocals
  rw [Proc.declareLocals.eq_1 q.declareLocals, hinit, hbody, hfold]
  rfl

namespace Sprite

variable (t : Sprite) (globals : List Var)

theorem declareAssigned_vars :
    (t.declareAssigned globals).vars =
      ((t.assignments.filter (!·.isLocal)).map Stmt.declared).foldl
        (addFresh Var.name (globals.map Var.name)) t.vars := by
  unfold declareAssigned
  dsimp only
  rw [foldl_snd_eq (fun vars q => (((Stmt.assignmentsOf q.body).filter (!·.isLocal)).map
    Stmt.declared).foldl (addFresh Var.name (globals.map Var.name)) vars)
    (fun _ _ => Declarations.visitStmts_vars _ _ _ _)]
  rw [assignments, passBodies, foldl_declared_flatMap, List.foldl_append, List.foldl_append,
    List.foldl_map, List.foldl_map, List.foldl_map]
  simp only [Declarations.visitStmts_vars]

theorem declareAssigned_procs :
    (t.declareAssigned globals).procs = t.sortedProcs.map Proc.declareLocals := by
  unfold declareAssigned
  dsimp only
  rw [foldl_snoc_fst _ (fun acc q => ?_)]
  · rfl
  · rw [Proc.initUsage_locals, Proc.initUsage_body, Declarations.visitStmts_locals]
    rfl

theorem declareAssigned_eq : t.declareAssigned globals =
    { t with procs := (t.declareAssigned globals).procs, vars := (t.declareAssigned globals).vars } := rfl

theorem declareAssigned_procsSorted : (t.declareAssigned globals).ProcsSorted :=
  procsSorted_of_map (t.declareAssigned_procs globals) fun _ => rfl

end Sprite

/-- What the declaration pass makes of sprite `t`, which sees the variables `globals`: after the
sprite's variables, one variable for each name that its non-local assignments give and that is
neither declared nor global, as the first such assignment declares it; the procedures by name,
each with its name, arguments and body, its locals extended in the same way by its local
assignments, and an entry per argument in its table of reads, the entries it had kept and the
new ones unread; the scripts as they were. -/
structure Sprite.DeclaresAssigned (t : Sprite) (globals : List Var) (t' : Sprite) : Prop where
  vars : FirstDeclared Var.name (globals.map Var.name) t.vars
    ((t.assignments.filter (!·.isLocal)).map Stmt.declared) t'.vars
  procs : List.Forall₂ (fun q q' : Proc => q'.name = q.name ∧ q'.args = q.args ∧ q'.body = q.body ∧
      FirstDeclared Var.name [] q.locals
        (((Stmt.assignmentsOf q.body).filter (·.isLocal)).map Stmt.declared) q'.locals ∧
      FirstDeclared Prod.fst [] q.usedArgs (q.args.map fun a => (a.name, false)) q'.usedArgs)
    t.sortedProcs t'.procs
  events : t'.events = t.events
  handlers : t'.handlers = t.handlers

theorem Sprite.declareAssigned_spec (t : Sprite) (globals : List Var) :
    t.DeclaresAssigned globals (t.declareAssigned globals) where
  vars := by
    rw [t.declareAssigned_vars globals]
    exact foldl_addFresh _ _ _ _
  procs := by
    rw [t.declareAssigned_procs globals, List.forall₂_map_right_iff, List.forall₂_same]
    intro q _
    refine ⟨rfl, rfl, rfl, foldl_addFresh _ _ _ _, ?_⟩
    show FirstDeclared Prod.fst [] q.usedArgs _ q.initUsage.usedArgs
    rw [Proc.initUsage_usedArgs]
    exact foldl_addFresh _ _ _ _
  events := rfl
  handlers := rfl

/-- A second pass over a sprite changes nothing: it meets the same assignments, each of whose
names is declared or global already, and procedures whose tables of reads and locals have every
entry it would add. -/
theorem Sprite.declareAssigned_idem (t : Sprite) (globals : List Var) :
    (t.declareAssigned globals).declareAssigned globals = t.declareAssigned globals := by
  have hsorted : (t.declareAssigned globals).sortedProcs = (t.declareAssigned globals).procs :=
    Sprite.sortedProcs_of_sorted (t.declareAssigned_procsSorted globals)
  have hassign : (t.declareAssigned globals).assignments = t.assignments := by
    unfold Sprite.assignments Sprite.passBodies
    rw [hsorted, t.declareAssigned_procs globals, List.map_map]
    rfl
  have hvars : ((t.declareAssigned globals).declareAssigned globals).vars = (t.declareAssigned globals).vars := by
    rw [Sprite.declareAssigned_vars _ globals, hassign]
    exact foldl_addFresh_of_covered _ _ (t.declareAssigned_spec globals).vars.covers
  have hprocs : ((t.declareAssigned globals).declareAssigned globals).procs = (t.declareAssigned globals).procs := by
    rw [Sprite.declareAssigned_procs _ globals, hsorted, t.declareAssigned_procs globals, List.map_map]
    exact List.map_congr_left fun q _ => Proc.declareLocals_idem q
  rw [Sprite.declareAssigned_eq (t.declareAssigned globals) globals, hvars, hprocs]

/-- The declaration pass declares every assignment's variable where it belongs, and only there:
the stage's assignments in the stage, each sprite's in the sprite unless the stage has the name,
local assignments in their procedure; an entry is added only for a name not declared yet, as the
first assignment of it declares it, and none is replaced. Each procedure gets an entry per
argument in its table of reads. A second pass changes nothing. -/
theorem Project.assigned_variables_declared (p : Project) :
    p.stage.DeclaresAssigned [] p.declareAssigned.stage ∧
      List.Forall₂ (fun t t' => t.DeclaresAssigned p.declareAssigned.stage.vars t') p.sprites
        p.declareAssigned.sprites ∧
      p.declareAssigned.declareAssigned = p.declareAssigned := by
  refine ⟨p.stage.declareAssigned_spec [], ?_, ?_⟩
  · show List.Forall₂ _ p.sprites (p.sprites.map (·.declareAssigned p.declareAssigned.stage.vars))
    rw [List.forall₂_map_right_iff, List.forall₂_same]
    exact fun t _ => t.declareAssigned_spec _
  · show Project.declareAssigned { stage := p.stage.declareAssigned [], sprites := _ } = _
    unfold Project.declareAssigned
    dsimp only
    rw [Sprite.declareAssigned_idem, List.map_map]
    congr 1
    exact List.map_congr_left fun t _ => Sprite.declareAssigned_idem t _

end BlockGraph
