import BlockGraph.Proofs.Emission.Appends
import BlockGraph.Proofs.Emission.Errors
import BlockGraph.Proofs.Program.Declarations
import BlockGraph.Proofs.Batch.Failures

namespace BlockGraph

namespace Bag

theorem hasWarnings_iff {b : Bag} : b.hasWarnings = true ↔ ∃ d ∈ b.items, d.IsWarning := by
  simp [hasWarnings, countAtLeast, List.length_filter_pos_iff, Diagnostic.IsWarning, Severity.warning]

@[simp] theorem sort_hasWarnings (b : Bag) : b.sort.hasWarnings = b.hasWarnings := by
  have hperm := ((List.mergeSort_perm b.items (fun d e => !before e d)).filter
    (fun d => decide (d.severity.level ≥ 1))).length_eq
  simp only [hasWarnings, countAtLeast, sort, hperm]
  congr 1

theorem prefix_push (b : Bag) (d : Diagnostic) : b.items <+: (b.push d).items := by
  unfold push add
  split
  · exact List.prefix_refl _
  · exact List.prefix_append _ _

end Bag

theorem Reporter.prefix_reportAll (r : Reporter) (ds : List Diagnostic) :
    r.bag.items <+: (r.reportAll ds).bag.items := by
  induction ds generalizing r with
  | nil => exact List.prefix_refl _
  | cons d ds ih =>
    rw [Reporter.reportAll_cons]
    refine List.IsPrefix.trans ?_ (ih (r.report d))
    unfold Reporter.report
    split
    · exact List.prefix_refl _
    · exact Bag.prefix_push _ _

namespace WalkM

/-- `x` reports findings of warning severity or above only: run after such findings, it leaves
only such findings. -/
def Warns {α : Type} (x : WalkM α) : Prop :=
  ∀ sc w, (∀ d ∈ w.found, d.IsWarning) → ∀ d ∈ (x sc w).2.found, d.IsWarning

namespace Warns

variable {α β : Type}

theorem of_found {x : WalkM α} (h : ∀ sc w, (x sc w).2.found = w.found) : x.Warns := by
  intro sc w hw
  rw [h sc w]
  exact hw

theorem pure (a : α) : (Pure.pure a : WalkM α).Warns := of_found fun _ _ => rfl

theorem read : (MonadReader.read : WalkM Scope).Warns := of_found fun _ _ => rfl

theorem bind {x : WalkM α} {f : α → WalkM β} (hx : x.Warns) (hf : ∀ a, (f a).Warns) :
    (x >>= f).Warns := by
  intro sc w hw
  rw [WalkM.bind_apply]
  exact hf _ sc _ (hx sc w hw)

theorem map {x : WalkM α} {f : α → β} (hx : x.Warns) : (f <$> x).Warns :=
  fun sc w hw => hx sc w hw

theorem mapM {γ : Type} {f : γ → WalkM α} (hf : ∀ x, (f x).Warns) :
    ∀ xs : List γ, (xs.mapM f).Warns
  | [] => by
    rw [List.mapM_nil]
    exact pure _
  | x :: xs => by
    rw [List.mapM_cons]
    exact (hf x).bind fun _ => (mapM hf xs).bind fun _ => pure _

theorem report {d : Diagnostic} (hd : d.IsWarning) : (WalkM.report d).Warns := by
  intro sc w hw e he
  rcases List.mem_cons.1 he with rfl | he
  · exact hd
  · exact hw e he

end Warns

theorem recordAccessor_warns (sym prop : String) : (recordAccessor sym prop).Warns := by
  unfold recordAccessor
  refine Warns.read.bind fun s => ?_
  -- an accessor only records references
  repeat' first
    | with_reducible exact Warns.pure _
    | with_reducible refine Warns.bind ?_ fun _ => ?_
    | exact Warns.of_found fun _ _ => rfl
    | split

theorem recordName_warns (n : Name) : (recordName n).Warns := by
  unfold recordName
  refine Warns.read.bind fun s => ?_
  -- a name that is no variable is recorded as a list, with a warning when it is none either
  repeat' first
    | with_reducible exact Warns.pure _
    | with_reducible exact Warns.report (Diagnostic.warning_isWarning _ _ _)
    | with_reducible refine Warns.bind ?_ fun _ => ?_
    | exact Warns.of_found fun _ _ => rfl
    | split

end WalkM

section Walk

open WalkM

theorem visitExpr_warns (e : Expr) : (visitExpr e).Warns := by
  induction e using Expr.rec (motive_2 := fun es => (visitExprs es).Warns) with
  | int | float | str => exact Warns.pure _
  | name n => exact (recordName_warns n).bind fun _ => Warns.pure _
  | arg n => exact (Warns.of_found fun _ _ => rfl).bind fun _ => Warns.pure _
  | accessor sym _ prop _ => exact (recordAccessor_warns sym prop).bind fun _ => Warns.pure _
  | repr p args span ih => exact ih.bind fun _ => Warns.pure _
  | unop op operand span ih =>
    refine ih.bind fun o => ?_
    split
    all_goals (try split) <;> exact Warns.pure _
  | binop op l r span ihl ihr =>
    refine ihl.bind fun l' => ihr.bind fun r' => ?_
    split
    · split
      · refine Warns.read.bind fun s => ?_
        split
        · exact (Warns.of_found fun _ _ => rfl).bind fun _ => Warns.pure _
        · exact Warns.pure _
      · exact Warns.pure _
    all_goals exact Warns.pure _
  | nil => exact Warns.pure _
  | cons e es ih ihs => exact ih.bind fun _ => ihs.bind fun _ => Warns.pure _

theorem visitExprs_warns (es : List Expr) : (visitExprs es).Warns := by
  induction es with
  | nil => exact Warns.pure _
  | cons e es ih => exact (visitExpr_warns e).bind fun _ => ih.bind fun _ => Warns.pure _

theorem visitExprOption_warns (o : Option Expr) : (visitExprOption o).Warns := by
  cases o with
  | none => exact Warns.pure _
  | some e => exact (visitExpr_warns e).map

theorem visitFieldAssign_warns (st : Stmt) : (visitFieldAssign st).Warns :=
  (visitExprOption_warns st.value).bind fun _ => Warns.pure _

mutual

theorem visitStmt_warns : ∀ st : Stmt, (visitStmt st).Warns
  | ⟨kind, span, name, type, isLocal, value, index, times, cond, op, body, orElse, command, proc,
      args⟩ => by
    have hbody := visitStmts_warns body
    have helse := visitStmts_warns orElse
    unfold visitStmt
    -- each kind walks its own expressions and its bodies, recording references on the way
    cases kind <;> dsimp only <;> repeat' first
      | with_reducible exact Warns.pure _
      | exact hbody
      | exact helse
      | exact visitExprOption_warns _
      | exact visitExprs_warns _
      | with_reducible refine Warns.bind ?_ fun _ => ?_
      | exact Warns.of_found fun _ _ => rfl
      | split

theorem visitStmts_warns : ∀ sts : List Stmt, (visitStmts sts).Warns
  | [] => Warns.pure _
  | st :: sts => by
    have hrest := visitStmts_warns sts
    rw [visitStmts]
    refine Warns.read.bind fun sc => ?_
    split
    · exact (Warns.mapM visitFieldAssign_warns _).bind fun _ => hrest.bind fun _ => Warns.pure _
    · exact (visitStmt_warns st).bind fun _ => hrest.bind fun _ => Warns.pure _

end

theorem walkBody_found_isWarning (sc : Scope) {w : Walk} (hw : w.found = []) (body : List Stmt) :
    ∀ d ∈ (walkBody sc w body).2.found, d.IsWarning :=
  visitStmts_warns body sc w (by simp [hw])

theorem Sprite.resolve_isWarning (t : Sprite) (stage : Option Sprite) :
    ∀ d ∈ (t.resolve stage).2, d.IsWarning := by
  unfold Sprite.resolve
  dsimp only
  -- each body's walk starts without findings; the three loops gather what the walks report
  have hstep : ∀ (sc : Scope) (w : Walk) (body : List Stmt), w.found = [] →
      ∀ found : List Diagnostic, (∀ d ∈ found, d.IsWarning) →
        ∀ d ∈ found ++ (walkBody sc w body).2.found.reverse, d.IsWarning := by
    intro sc w body hw found hfound d hd
    rcases List.mem_append.1 hd with hd | hd
    · exact hfound d hd
    · exact walkBody_found_isWarning sc hw body d (List.mem_reverse.1 hd)
  -- the procedures' loop, after the handlers', after the events'
  refine (foldl_snoc_keeps (fun found : List Diagnostic => ∀ d ∈ found, d.IsWarning) (fun _ => True)
    ?handlers (by simp) ?procs).1
  case procs =>
    intro q _ acc hacc
    exact ⟨hstep _ _ _ rfl _ hacc, trivial⟩
  refine (foldl_snoc_keeps (fun found : List Diagnostic => ∀ d ∈ found, d.IsWarning) (fun _ => True)
    ?events (by simp) ?hs).1
  case hs =>
    intro h _ acc hacc
    exact ⟨hstep _ _ _ rfl _ hacc, trivial⟩
  refine (foldl_snoc_keeps (fun found : List Diagnostic => ∀ d ∈ found, d.IsWarning) (fun _ => True)
    (by simp) (by simp) ?evs).1
  intro ev _ acc hacc
  exact ⟨hstep _ _ _ rfl _ hacc, trivial⟩

theorem Project.resolve_isWarning (p : Project) : ∀ d ∈ p.resolve.2, d.IsWarning := by
  unfold Project.resolve
  dsimp only
  refine (foldl_snoc_keeps (fun found : List Diagnostic => ∀ d ∈ found, d.IsWarning) (fun _ => True)
    ?stage (by simp) ?sprites).1
  case stage => exact Sprite.resolve_isWarning p.stage none
  intro s _ acc hacc
  refine ⟨fun d hd => ?_, trivial⟩
  rcases List.mem_append.1 hd with hd | hd
  · exact hacc d hd
  · exact Sprite.resolve_isWarning s _ d hd

theorem Project.unusedArguments_isWarning (p : Project) : ∀ d ∈ p.unusedArguments, d.IsWarning := by
  intro d hd
  simp only [Project.unusedArguments, Proc.unusedArguments, List.mem_flatMap, List.mem_filterMap] at hd
  obtain ⟨-, -, proc, -, a, -, ha⟩ := hd
  split at ha
  · cases ha
    rw [Diagnostic.isWarning_withNote]
    exact Diagnostic.warning_isWarning _ _ _
  · cases ha

end Walk

/-- Generation reports warnings and errors only, whether or not a target stops it. -/
theorem Graph.generate_reports_isWarning (p : Project) :
    ∀ d ∈ (Graph.generate p).reports, d.IsWarning := by
  intro d hd
  simp only [Graph.Generation.reports, List.mem_flatMap, List.mem_filterMap] at hd
  obtain ⟨r, hr, x, hx, hxd⟩ := hd
  have hr' : r ∈ (Graph.emitTargets p p.messages p.targets 0 false).1 := hr
  obtain ⟨t, -, last, comma, rfl⟩ := Graph.emitTargets_mem hr'
  have hserious := Graph.TargetRun.emit_serious p p.messages t last comma x hx
  cases x with
  | report d' =>
    cases hxd
    exact hserious
  | block b => cases hxd
  | scriptStart o detail => cases hxd

namespace Compilation

variable {p : Project} {fs : FileSet} {limit : Int}

/-- Every finding the analyses and generation of a project report is a warning or an error. -/
theorem reports_isWarning (p : Project) : ∀ d ∈ reports p, d.IsWarning := by
  intro d hd
  unfold reports at hd
  simp only [List.mem_append] at hd
  rcases hd with (hd | hd) | hd
  · exact Project.resolve_isWarning _ d hd
  · exact Project.unusedArguments_isWarning _ d hd
  · exact Graph.generate_reports_isWarning _ d hd

/-- The reporter of a project holds a finding exactly when one was reported: the first finding
always finds room in the empty bag, and the bag never gives one back. -/
theorem reporter_items_eq_nil_iff : (reporter p limit).bag.items = [] ↔ reports p = [] := by
  unfold reporter
  rcases hr : reports p with _ | ⟨d, ds⟩
  · simp
  · have hfirst : (({ bag := Bag.empty limit } : Reporter).report d).bag.items = [d] := by
      simp [Reporter.report, Bag.push_of_room _ (Bag.empty_room limit)]
    have hpre := Reporter.prefix_reportAll (({ bag := Bag.empty limit } : Reporter).report d) ds
    rw [hfirst] at hpre
    rw [Reporter.reportAll_cons]
    simp only [reduceCtorEq, iff_false]
    intro hnil
    rw [hnil] at hpre
    exact List.cons_ne_nil d [] (List.prefix_nil.1 hpre)

/-- A compilation that completes holds no warning exactly when no finding was reported; its bag
is then empty. -/
theorem quiet_iff (h : (run p fs limit).generation.failure? = none) :
    (run p fs limit).bag.hasWarnings = false ↔ reports p = [] := by
  rw [bag_run_of_none h, Bag.sort_hasWarnings, ← reporter_items_eq_nil_iff]
  constructor
  · intro hw
    -- everything in the bag was reported, and all that is reported is a warning or an error
    rcases hitems : (reporter p limit).bag.items with _ | ⟨d, ds⟩
    · rfl
    · have hd : d ∈ (reporter p limit).bag.items := by rw [hitems]; exact List.mem_cons_self
      have hwarn : d.IsWarning := by
        rcases Reporter.mem_reportAll hd with hd | hd
        · cases hd
        · exact reports_isWarning p d hd
      rw [← Bool.not_eq_true, Bag.hasWarnings_iff] at hw
      exact absurd ⟨d, hd, hwarn⟩ hw
  · intro hnil
    rw [← Bool.not_eq_true, Bag.hasWarnings_iff, hnil]
    simp

/-- A compilation that completes without any finding leaves the empty bag. -/
theorem bag_run_of_quiet (h : (run p fs limit).generation.failure? = none) (hq : reports p = []) :
    (run p fs limit).bag = Bag.empty limit := by
  rw [bag_run_of_none h]
  have hnil : (reporter p limit).bag.items = [] := reporter_items_eq_nil_iff.2 hq
  have hlim : (reporter p limit).bag.limit = (Bag.empty limit).limit := Reporter.reportAll_limit _ _
  unfold Bag.sort
  rw [hnil, List.mergeSort_nil]
  cases hb : (reporter p limit).bag
  simp_all [Bag.empty]

end Compilation

end BlockGraph
