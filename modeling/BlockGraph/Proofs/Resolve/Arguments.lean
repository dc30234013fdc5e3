import BlockGraph.Proofs.Program.Assignments
import BlockGraph.Proofs.Resolve.Meaning

namespace BlockGraph

/-- The table of argument reads after reading the arguments named in `names`. -/
def readArgs (names : List String) (table : List (String × Bool)) : List (String × Bool) :=
  table.map fun e => (e.1, e.2 || names.contains e.1)

theorem readArgs_nil (table : List (String × Bool)) : readArgs [] table = table := by
  simp [readArgs]

theorem readArgs_append (L L' : List String) (table : List (String × Bool)) :
    readArgs (L ++ L') table = readArgs L' (readArgs L table) := by
  simp [readArgs, List.map_map, Bool.or_assoc]

theorem readArgs_congr {L L' : List String} (h : ∀ s, s ∈ L ↔ s ∈ L') : readArgs L = readArgs L' := by
  have hc : ∀ s, L.contains s = L'.contains s := fun s => by
    rw [Bool.eq_iff_iff]
    simp [h]
  funext table
  simp only [readArgs, hc]

namespace WalkM

/-- `x` marks read the arguments named in `names`, and nothing else. -/
def Marks {α : Type} (x : WalkM α) (names : List String) : Prop :=
  ∀ sc w, (x sc w).2.usedArgs = readArgs names w.usedArgs

namespace Marks

variable {α β : Type}

theorem pure (a : α) : (Pure.pure a : WalkM α).Marks [] := fun _ w => (readArgs_nil w.usedArgs).symm

theorem bind {x : WalkM α} {f : α → WalkM β} {L L' : List String} (hx : x.Marks L)
    (hf : ∀ a, (f a).Marks L') : (x >>= f).Marks (L ++ L') := by
  intro sc w
  rw [WalkM.bind_apply, hf _ sc, hx sc w, readArgs_append]

theorem bind_nil {x : WalkM α} {f : α → WalkM β} {L : List String} (hx : x.Marks L)
    (hf : ∀ a, (f a).Marks []) : (x >>= f).Marks L := by
  intro sc w
  rw [WalkM.bind_apply, hf _ sc, hx sc w, readArgs_nil]

theorem map {x : WalkM α} {f : α → β} {L : List String} (hx : x.Marks L) : (f <$> x).Marks L :=
  fun sc w => hx sc w

theorem congr {x : WalkM α} {L L' : List String} (hx : x.Marks L) (h : ∀ s, s ∈ L ↔ s ∈ L') :
    x.Marks L' := by
  intro sc w
  rw [hx sc w, readArgs_congr h]

theorem of_keeps {x : WalkM α} (h : ∀ sc w, (x sc w).2.usedArgs = w.usedArgs) : x.Marks [] :=
  fun sc w => by rw [h sc w, readArgs_nil]

theorem read : (MonadReader.read : WalkM Scope).Marks [] := of_keeps fun _ _ => rfl

theorem mapM {γ : Type} {f : γ → WalkM α} {L : γ → List String} :
    ∀ {xs : List γ}, (∀ x ∈ xs, (f x).Marks (L x)) → (xs.mapM f).Marks (xs.flatMap L)
  | [], _ => by
    rw [List.mapM_nil]
    exact Marks.pure _
  | x :: xs, hf => by
    rw [List.mapM_cons, List.flatMap_cons]
    have hrest := Marks.mapM fun x' hx' => hf x' (List.mem_cons_of_mem x hx')
    exact ((hf x List.mem_cons_self).bind fun _ => (hrest.bind fun _ => Marks.pure _)).congr
      (by simp)

end Marks

theorem markRead_marks (n : String) : (markRead n).Marks [n] := by
  intro sc w
  show List.map _ w.usedArgs = List.map _ w.usedArgs
  refine List.map_congr_left fun ⟨a, u⟩ _ => ?_
  by_cases h : a = n <;> simp [h]

theorem recordAccessor_marks (sym prop : String) : (recordAccessor sym prop).Marks [] := by
  unfold recordAccessor
  refine Marks.read.bind fun s => ?_
  -- every branch records a reference, and none reads an argument
  split
  · exact Marks.of_keeps fun _ _ => rfl
  split
  · exact Marks.of_keeps fun _ _ => rfl
  split
  · split
    · exact (Marks.of_keeps fun _ _ => rfl).bind fun _ => Marks.of_keeps fun _ _ => rfl
    · exact Marks.pure _
  · exact Marks.pure _

theorem recordName_marks (n : Name) : (recordName n).Marks [] := by
  unfold recordName
  refine Marks.read.bind fun s => ?_
  split
  · refine (Marks.of_keeps fun _ _ => rfl).bind fun _ => ?_
    split
    · split
      · exact Marks.of_keeps fun _ _ => rfl
      · exact Marks.pure _
    · exact Marks.pure _
  · refine (Marks.of_keeps fun _ _ => rfl).bind fun _ => ?_
    split
    · exact Marks.of_keeps fun _ _ => rfl
    · exact Marks.pure _

end WalkM

section Walk

open WalkM

mutual

/-- The arguments an expression reads, at any depth: those it names, and those of the operands
of its reporters and operators. -/
def Expr.argsRead : Expr → List String
  | .arg n => [n.base]
  | .repr _ args _ => Expr.argsReadOf args
  | .unop _ operand _ => operand.argsRead
  | .binop _ lhs rhs _ => lhs.argsRead ++ rhs.argsRead
  | _ => []

def Expr.argsReadOf : List Expr → List String
  | [] => []
  | e :: es => e.argsRead ++ Expr.argsReadOf es

end

theorem visitExpr_marks (e : Expr) : (visitExpr e).Marks e.argsRead := by
  induction e using Expr.rec (motive_2 := fun es => (visitExprs es).Marks (Expr.argsReadOf es)) with
  | int | float | str => exact Marks.pure _
  | name n => exact (recordName_marks n).bind_nil fun _ => Marks.pure _
  | arg n => exact (markRead_marks n.base).bind_nil fun _ => Marks.pure _
  | accessor sym _ prop _ => exact (recordAccessor_marks sym prop).bind_nil fun _ => Marks.pure _
  | repr p args span ih => exact ih.bind_nil fun _ => Marks.pure _
  | unop op operand span ih =>
    refine ih.bind_nil fun o => ?_
    split
    all_goals (try split) <;> exact Marks.pure _
  | binop op l r span ihl ihr =>
    refine ihl.bind fun l' => ihr.bind_nil fun r' => ?_
    -- only `letterOf` on a bare name looks at the scope, to record a list
    split
    · split
      · refine Marks.read.bind fun s => ?_
        split
        · exact (Marks.of_keeps fun _ _ => rfl).bind_nil fun _ => Marks.pure _
        · exact Marks.pure _
      · exact Marks.pure _
    all_goals exact Marks.pure _
  | nil => exact Marks.pure _
  | cons e es ih ihs =>
    exact (ih.bind fun _ => ihs.bind fun _ => Marks.pure _).congr (by simp [Expr.argsReadOf])

theorem visitExprs_marks (es : List Expr) : (visitExprs es).Marks (Expr.argsReadOf es) := by
  induction es with
  | nil => exact Marks.pure _
  | cons e es ih => exact ((visitExpr_marks e).bind fun _ => ih.bind_nil fun _ => Marks.pure _)

theorem Expr.argsReadOf_eq_flatMap (es : List Expr) : Expr.argsReadOf es = es.flatMap Expr.argsRead := by
  induction es with
  | nil => rfl
  | cons e es ih => rw [Expr.argsReadOf, ih, List.flatMap_cons]

theorem visitExprOption_marks (o : Option Expr) : (visitExprOption o).Marks (Expr.argsReadOf o.toList) := by
  cases o with
  | none => exact Marks.pure _
  | some e => exact (visitExpr_marks e).map.congr (by simp [Expr.argsReadOf])

/-- The expressions the walk visits in a statement itself, its bodies apart. -/
def Stmt.walked (st : Stmt) : List Expr :=
  match st.kind with
  | .repeatTimes => st.times.toList
  | .branch | .repeatUntil => st.cond.toList
  | .setVar | .changeVar | .setField | .listAdd => st.value.toList
  | .listDelete => st.index.toList
  | .listInsert | .listSet | .listChange => st.index.toList ++ st.value.toList
  | .block | .procCall => st.args
  | .forever | .showData | .hideData | .listDeleteAll => []

def Stmt.argsRead (st : Stmt) : List String := Expr.argsReadOf st.walked

/-- The arguments a body reads, in its statements at any depth. -/
def Stmt.argsReadIn (sts : List Stmt) : List String := (Stmt.chainReached sts).flatMap Stmt.argsRead

/-- The value a whole struct assignment hands to each field reads the arguments its value
reads: the value itself, or the same field of another variable, which reads none. -/
theorem expandStructAssign_argsRead {sc : Scope} {st : Stmt} {expanded : List Stmt}
    (hex : expandStructAssign sc st = some expanded) :
    st.kind = .setVar ∧ expanded ≠ [] ∧
      ∀ s ∈ expanded, Expr.argsReadOf s.value.toList = Expr.argsReadOf st.value.toList := by
  unfold expandStructAssign at hex
  split at hex
  · cases hex
  rename_i hset
  simp only [bind, Option.bind_eq_some_iff] at hex
  obtain ⟨_, -, _, -, def_, -, hex⟩ := hex
  split at hex
  · cases hex
  rename_i hfields
  cases hex
  refine ⟨?_, ?_, ?_⟩
  · have hne : (st.kind != .setVar) = false := by simp_all
    generalize st.kind = k at hne ⊢
    cases k <;> first | rfl | (revert hne; decide)
  · simpa using hfields
  · intro s hs
    obtain ⟨f, -, rfl⟩ := List.mem_map.1 hs
    dsimp only
    -- a copy reads the field of a variable, where the value was a bare name: neither reads
    split
    · rename_i n hcopy
      split at hcopy
      · rename_i n' hv
        simp [hv, Expr.argsReadOf, Expr.argsRead]
      · cases hcopy
    · rfl

theorem visitFieldAssign_marks (st : Stmt) :
    (visitFieldAssign st).Marks (Expr.argsReadOf st.value.toList) :=
  (visitExprOption_marks st.value).bind_nil fun _ => Marks.pure _

theorem mem_flatMap_of_const {α β : Type} {l : List α} {f : α → List β} {L : List β} (hne : l ≠ [])
    (h : ∀ a ∈ l, f a = L) (x : β) : x ∈ l.flatMap f ↔ x ∈ L := by
  obtain ⟨a, ha⟩ := List.exists_mem_of_ne_nil l hne
  simp only [List.mem_flatMap]
  constructor
  · rintro ⟨b, hb, hx⟩
    rwa [h b hb] at hx
  · intro hx
    exact ⟨a, ha, by rwa [h a ha]⟩

mutual

theorem visitStmt_marks : ∀ st : Stmt, (visitStmt st).Marks (st.reached.flatMap Stmt.argsRead)
  | ⟨kind, span, name, type, isLocal, value, index, times, cond, op, body, orElse, command, proc,
      args⟩ => by
    have hbody := visitStmts_marks body
    have helse := visitStmts_marks orElse
    unfold visitStmt
    -- each kind walks its own expressions, then its bodies
    cases kind
    case repeatTimes =>
      exact ((visitExprOption_marks times).bind fun _ => hbody.bind_nil fun _ => Marks.pure _).congr
        (by simp [Stmt.reached, Stmt.argsRead, Stmt.walked, Stmt.argsReadIn])
    case forever =>
      exact (hbody.bind_nil fun _ => Marks.pure _).congr
        (by simp [Stmt.reached, Stmt.argsRead, Stmt.walked, Stmt.argsReadIn, Expr.argsReadOf])
    case branch =>
      exact ((visitExprOption_marks cond).bind fun _ => hbody.bind fun _ =>
        helse.bind_nil fun _ => Marks.pure _).congr
          (by simp [Stmt.reached, Stmt.argsRead, Stmt.walked, Stmt.argsReadIn])
    case repeatUntil =>
      exact ((visitExprOption_marks cond).bind fun _ => hbody.bind_nil fun _ => Marks.pure _).congr
        (by simp [Stmt.reached, Stmt.argsRead, Stmt.walked, Stmt.argsReadIn])
    case setVar | changeVar | setField =>
      exact ((visitExprOption_marks value).bind_nil fun _ => Marks.pure _).congr
        (by simp [Stmt.reached, Stmt.argsRead, Stmt.walked])
    case showData | hideData => exact (Marks.pure _).congr (by simp [Stmt.reached, Stmt.argsRead, Stmt.walked, Expr.argsReadOf])
    case listAdd =>
      exact ((Marks.of_keeps fun _ _ => rfl).bind fun _ => (visitExprOption_marks value).bind_nil fun _ =>
        Marks.pure _).congr (by simp [Stmt.reached, Stmt.argsRead, Stmt.walked])
    case listDelete =>
      exact ((Marks.of_keeps fun _ _ => rfl).bind fun _ => (visitExprOption_marks index).bind_nil fun _ =>
        Marks.pure _).congr (by simp [Stmt.reached, Stmt.argsRead, Stmt.walked])
    case listDeleteAll =>
      exact ((Marks.of_keeps fun _ _ => rfl).bind_nil fun _ => Marks.pure _).congr
        (by simp [Stmt.reached, Stmt.argsRead, Stmt.walked, Expr.argsReadOf])
    case listInsert | listSet | listChange =>
      exact ((Marks.of_keeps fun _ _ => rfl).bind fun _ => (visitExprOption_marks index).bind fun _ =>
        (visitExprOption_marks value).bind_nil fun _ => Marks.pure _).congr
          (by simp [Stmt.reached, Stmt.argsRead, Stmt.walked, Expr.argsReadOf_eq_flatMap])
    case block =>
      dsimp only
      -- a block that sends a message records the message before walking its arguments
      have hargs := (visitExprs_marks args).bind_nil fun args' => Marks.pure
        ({ kind := .block, span, name, type, isLocal, value, index, times, cond, op, body,
           orElse, command, proc, args := args' } : Stmt)
      refine Marks.congr (?_ : Marks _ (Expr.argsReadOf args)) ?_
      · split
        · split
          · exact (Marks.of_keeps fun _ _ => rfl).bind fun _ => hargs
          · exact hargs
        · exact hargs
      · simp [Stmt.reached, Stmt.argsRead, Stmt.walked]
    case procCall =>
      exact ((Marks.of_keeps fun _ _ => rfl).bind fun _ => (visitExprs_marks args).bind_nil fun _ =>
        Marks.pure _).congr (by simp [Stmt.reached, Stmt.argsRead, Stmt.walked])

theorem visitStmts_marks : ∀ sts : List Stmt, (visitStmts sts).Marks (Stmt.argsReadIn sts)
  | [] => Marks.pure _
  | st :: sts => by
    have hrest := visitStmts_marks sts
    rw [visitStmts]
    refine Marks.read.bind fun sc => ?_
    split
    · -- the field assignments that replace a whole struct assignment read what its value reads
      rename_i expanded hex
      obtain ⟨hkind, hne, hvalues⟩ := expandStructAssign_argsRead hex
      have hreached : st.reached = [st] := Graph.Stmt.reached_single (by simp [hkind])
      refine ((Marks.mapM fun s _ => visitFieldAssign_marks s).bind fun _ =>
        hrest.bind_nil fun _ => Marks.pure _).congr fun x => ?_
      rw [List.mem_append, mem_flatMap_of_const hne hvalues]
      simp [Stmt.argsReadIn, Stmt.chainReached, hreached, Stmt.argsRead, Stmt.walked, hkind]
    · exact ((visitStmt_marks st).bind fun _ => hrest.bind_nil fun _ => Marks.pure _).congr
        (by simp [Stmt.argsReadIn, Stmt.chainReached])

end

theorem walkBody_usedArgs (sc : Scope) (w : Walk) (body : List Stmt) :
    (walkBody sc w body).2.usedArgs = readArgs (Stmt.argsReadIn body) w.usedArgs :=
  visitStmts_marks body sc w

/-! ## The table of reads after the passes -/

theorem lookup_readArgs (L : List String) (n : String) :
    ∀ table : List (String × Bool), (readArgs L table).lookup n = (table.lookup n).map (· || L.contains n)
  | [] => rfl
  | (k, b) :: table => by
    simp only [readArgs, List.map_cons, List.lookup_cons]
    by_cases h : n = k
    · subst h
      simp
    · simp only [beq_false_of_ne h]
      exact lookup_readArgs L n table

theorem lookup_of_unread {n : String} :
    ∀ {table : List (String × Bool)}, (∀ e ∈ table, e.2 = false) → n ∈ table.map Prod.fst →
      table.lookup n = some false
  | [], _, hn => by cases hn
  | (k, b) :: table, hunread, hn => by
    rw [List.lookup_cons]
    by_cases h : n = k
    · subst h
      simpa using hunread (n, b) List.mem_cons_self
    · simp only [beq_false_of_ne h]
      refine lookup_of_unread (fun e he => hunread e (List.mem_cons_of_mem _ he)) ?_
      simpa [h] using hn

theorem Proc.lookup_initUsage {q : Proc} (hunread : ∀ e ∈ q.usedArgs, e.2 = false) {a : Arg}
    (ha : a ∈ q.args) : q.initUsage.usedArgs.lookup a.name = some false := by
  have hspec := foldl_addFresh Prod.fst [] (q.args.map fun a => (a.name, false)) q.usedArgs
  rw [← Proc.initUsage_usedArgs] at hspec
  obtain ⟨⟨new, heq, -, hnew⟩, hcov⟩ := hspec
  refine lookup_of_unread (fun e he => ?_) ?_
  · rw [heq] at he
    rcases List.mem_append.1 he with he | he
    · exact hunread e he
    · obtain ⟨-, -, hfind⟩ := hnew e he
      obtain ⟨a', -, rfl⟩ := List.mem_map.1 (List.mem_of_find?_eq_some hfind)
      rfl
  · simpa using hcov (a.name, false) (List.mem_map_of_mem ha)

/-- A procedure with its body walked in the scope of sprite `t`. -/
def Proc.resolveIn (t : Sprite) (stage : Option Sprite) (q : Proc) : Proc :=
  let r := walkBody { sprite := t, stage, locals := q.locals } { usedArgs := q.usedArgs } q.body
  { q with body := r.1, refs := r.2.refs, usedArgs := r.2.usedArgs }

theorem Sprite.resolve_procs (t : Sprite) (stage : Option Sprite) :
    (t.resolve stage).1.procs = t.sortedProcs.map (Proc.resolveIn t stage) := by
  unfold Sprite.resolve
  dsimp only
  rw [foldl_snoc_fst (Proc.resolveIn t stage) (fun acc q => rfl)]
  rfl

theorem Sprite.sortedProcs_resolve (t : Sprite) (stage : Option Sprite) :
    (t.resolve stage).1.sortedProcs = t.sortedProcs.map (Proc.resolveIn t stage) := by
  rw [Sprite.sortedProcs_of_sorted (Sprite.procsSorted_of_map (t.resolve_procs stage) fun _ => rfl),
    t.resolve_procs stage]

theorem Project.resolve_targets (p : Project) :
    p.resolve.1.targets = (p.stage.resolve none).1 :: p.sprites.map fun t => (t.resolve (some p.stage)).1 := by
  unfold Project.resolve Project.targets
  dsimp only
  rw [foldl_snoc_fst (fun t => (t.resolve (some p.stage)).1) (fun acc t => rfl)]
  rfl

theorem Project.unusedArguments_eq (p : Project) :
    p.unusedArguments = p.targets.flatMap fun t => t.sortedProcs.flatMap Proc.unusedArguments := rfl

/-- The warning that argument `a` of procedure `q` is never read: at the argument, with a note at
the procedure. -/
def Proc.unusedArgWarning (q : Proc) (a : Arg) : Diagnostic :=
  { severity := .warning, code := .unusedArgument, primary := a.span,
    message := "argument " ++ Text.quoteKept a.name ++ " of " ++ q.name ++ " is never used",
    notes := [{ span := q.span, message := "declared here" }] }

/-- The lint warns about exactly the arguments a procedure's body does not read, once the first
pass has given each argument an unread entry. -/
theorem Proc.unusedArguments_resolveIn (t : Sprite) (stage : Option Sprite) {q : Proc}
    (hunread : ∀ e ∈ q.usedArgs, e.2 = false) :
    (q.declareLocals.resolveIn t stage).unusedArguments =
      (q.args.filter fun a => a.name ∉ Stmt.argsReadIn q.body).map q.unusedArgWarning := by
  have hlookup : ∀ a ∈ q.args, (q.declareLocals.resolveIn t stage).usedArgs.lookup a.name =
      some ((Stmt.argsReadIn q.body).contains a.name) := by
    intro a ha
    show (walkBody _ _ q.body).2.usedArgs.lookup a.name = _
    rw [walkBody_usedArgs, lookup_readArgs]
    show (q.initUsage.usedArgs.lookup a.name).map _ = _
    rw [Proc.lookup_initUsage hunread ha]
    rfl
  unfold Proc.unusedArguments
  calc (q.declareLocals.resolveIn t stage).args.filterMap _
      = q.args.filterMap fun a => (Option.guard (fun a : Arg => decide (a.name ∉ Stmt.argsReadIn q.body)) a).map
          q.unusedArgWarning := List.filterMap_congr fun a ha => by
        rw [hlookup a ha]
        by_cases hread : a.name ∈ Stmt.argsReadIn q.body
        · simp [hread, Option.guard]
        · simp [hread, Option.guard]
          rfl
    _ = (q.args.filter fun a => a.name ∉ Stmt.argsReadIn q.body).map q.unusedArgWarning := by
        rw [← List.map_filterMap, List.filterMap_eq_filter]

theorem Sprite.unusedArguments_passes (t : Sprite) (globals : List Var) (stage : Option Sprite)
    (hunread : ∀ q ∈ t.procs, ∀ e ∈ q.usedArgs, e.2 = false) :
    ((t.declareAssigned globals).resolve stage).1.sortedProcs.flatMap Proc.unusedArguments =
      t.sortedProcs.flatMap fun q =>
        (q.args.filter fun a => a.name ∉ Stmt.argsReadIn q.body).map q.unusedArgWarning := by
  rw [Sprite.sortedProcs_resolve,
    Sprite.sortedProcs_of_sorted (t.declareAssigned_procsSorted globals),
    t.declareAssigned_procs globals, List.map_map, List.flatMap_map]
  refine List.flatMap_congr fun q hq => ?_
  exact Proc.unusedArguments_resolveIn _ stage (hunread q (List.mem_mergeSort.1 hq))

theorem Project.unusedArguments_passes (p : Project)
    (hunread : ∀ t ∈ p.targets, ∀ q ∈ t.procs, ∀ e ∈ q.usedArgs, e.2 = false) :
    p.declareAssigned.resolve.1.unusedArguments =
      p.targets.flatMap fun t => t.sortedProcs.flatMap fun q =>
        (q.args.filter fun a => a.name ∉ Stmt.argsReadIn q.body).map q.unusedArgWarning := by
  rw [Project.unusedArguments_eq, Project.resolve_targets]
  show _ = (p.stage :: p.sprites).flatMap _
  rw [List.flatMap_cons, List.flatMap_cons, List.flatMap_map]
  congr 1
  · exact p.stage.unusedArguments_passes [] none (hunread p.stage List.mem_cons_self)
  · show (p.sprites.map _).flatMap _ = _
    rw [List.flatMap_map]
    refine List.flatMap_congr fun t ht => ?_
    exact t.unusedArguments_passes _ _ (hunread t (List.mem_cons_of_mem _ ht))

end Walk

/-! ## Built procedures -/

section Built

open BuildM

theorem buildProc_unread (files : List Nat) (d : Dump.ProcEntry) :
    (buildProc files d).Yields fun q => q.usedArgs = [] := by
  unfold buildProc
  exact (Yields.any _).bind fun _ _ => (Yields.any _).bind fun _ _ =>
    (Yields.any _).bind fun _ _ => Yields.pure rfl

theorem buildSprite_unread (files : List Nat) (name : String) (isStage : Bool) (d : Dump.SpriteEntry) :
    (buildSprite files name isStage d).Yields fun t => ∀ q ∈ t.procs, q.usedArgs = [] := by
  unfold buildSprite
  refine (Yields.any _).bind fun _ _ => (Yields.any _).bind fun _ _ => (Yields.any _).bind fun _ _ =>
    (Yields.any _).bind fun _ _ => (Yields.any _).bind fun _ _ => ?_
  refine (Yields.foldlM (fun procs : List Proc => ∀ q ∈ procs, q.usedArgs = []) (by simp)
    fun acc x hacc => ?_).bind fun procs hprocs => ?_
  · exact (buildProc_unread files x).within.bind fun _ hq => declare_yields hacc hq
  refine (Yields.any _).bind fun r _ => ?_
  obtain ⟨events, _⟩ := r
  refine (Yields.any _).bind fun handlers _ => (Yields.any _).bind fun bad _ => ?_
  split
  · exact Yields.throw
  · exact Yields.pure hprocs

end Built

/-- The unused-argument lint is exact: over a project built from a dump, after the declaration
and resolution passes, it warns once for each argument of each procedure that no expression of
the procedure's body reads, at any depth, and for no other argument; targets in order,
procedures by name, arguments in declared order, each warning at the argument with a note at the
procedure. -/
theorem unused_argument_warnings_exact {doc : Dump.Document} {origin : String} {p : Project}
    {fs : FileSet} (hbuild : Project.build doc origin = .ok (p, fs)) :
    p.declareAssigned.resolve.1.unusedArguments =
      p.targets.flatMap fun t => t.sortedProcs.flatMap fun q =>
        (q.args.filter fun a => a.name ∉ Stmt.argsReadIn q.body).map q.unusedArgWarning := by
  refine Project.unusedArguments_passes p fun t ht q hq e he => ?_
  rw [build_targets buildSprite_unread hbuild t ht q hq] at he
  cases he

theorem unused_argument_warnings_move : ∃ doc p fs, Project.build doc "game.json" = .ok (p, fs) ∧
    p.declareAssigned.resolve.1.unusedArguments =
      p.targets.flatMap fun t => t.sortedProcs.flatMap fun q =>
        (q.args.filter fun a => a.name ∉ Stmt.argsReadIn q.body).map q.unusedArgWarning := by
  -- a procedure of two arguments whose body reads the second
  have hrun : (match Project.build
      { stage :=
          { vars := [{ name := "x", type := "int" }]
            procs := [{ name := "move"
                        args := [{ name := "a" }, { name := "b" }]
                        body := [{ kind := "set_var", name := "x", value := some { kind := "arg", name := "b" } }] }] } }
      "game.json" with
      | .ok (_, _) => true
      | .error _ => false) = true := by decide +kernel
  split at hrun
  · rename_i p fs hb
    exact ⟨_, p, fs, hb, unused_argument_warnings_exact hb⟩
  · cases hrun

end BlockGraph
