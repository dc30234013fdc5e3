import BlockGraph.Proofs.Resolve.Arguments
import BlockGraph.Proofs.Emission.Keys

namespace BlockGraph

def StmtKind.hasBody : StmtKind → Bool
  | .repeatTimes | .forever | .branch | .repeatUntil => true
  | _ => false

theorem StmtKind.bne_setVar (k : StmtKind) : (k != .setVar) = !decide (k = .setVar) := by
  cases k <;> rfl

namespace Scope

/-- The struct that statement `st` assigns as a whole: `st` sets a variable with no field, the
variable resolves to one of a struct type, and the struct resolves to one with fields. -/
def wholeStruct? (sc : Scope) (st : Stmt) : Option StructDecl :=
  if st.kind = .setVar ∧ st.name.field = "" then
    (sc.var? st.name.base).bind fun v => v.type.structName?.bind fun sn =>
      (sc.struct? sn).filter fun D => !D.fields.isEmpty
  else none

def copySource? (sc : Scope) (st : Stmt) (D : StructDecl) : Option Name :=
  match st.value with
  | some (.name n) =>
    if n.field = "" ∧ (sc.var? n.base).bind (·.type.structName?) = some D.name then some n else none
  | _ => none

/-- The assignment to field `f` that replaces a whole assignment `st` of struct `D`: the same
field of the copied variable, or else `st`'s value, rewritten. -/
def fieldAssign (sc : Scope) (st : Stmt) (D : StructDecl) (f : Field) : Stmt :=
  { kind := .setField, span := st.span, name := { base := st.name.base, field := f.name, span := st.name.span },
    value := match sc.copySource? st D with
      | some n => some (.accessor n.base n.span f.name n.span)
      | none => st.value.map (rewritten sc {}) }

theorem wholeStruct?_congr (sc : Scope) {st st' : Stmt} (hk : st'.kind = st.kind) (hn : st'.name = st.name) :
    sc.wholeStruct? st' = sc.wholeStruct? st := by
  simp only [wholeStruct?, hk, hn]

end Scope

def Stmt.Rebuilds (st st' : Stmt) : Prop :=
  st' = { st with value := st'.value, index := st'.index, times := st'.times, cond := st'.cond,
                  args := st'.args, body := st'.body, orElse := st'.orElse } ∧
  (st.kind.hasBody = false → st'.body = st.body) ∧ (st.kind ≠ .branch → st'.orElse = st.orElse)

/-- `out` is the statement list `sts` with each whole struct assignment replaced, where it
stands, by one assignment per field in declared order, and every other statement kept once, in
order, its bodies expanded alike. -/
inductive Stmt.Expands (sc : Scope) : List Stmt → List Stmt → Prop
  | nil : Stmt.Expands sc [] []
  | whole {st : Stmt} {D : StructDecl} {sts out : List Stmt} : sc.wholeStruct? st = some D →
      Stmt.Expands sc sts out → Stmt.Expands sc (st :: sts) (D.fields.map (sc.fieldAssign st D) ++ out)
  | keep {st st' : Stmt} {sts out : List Stmt} : sc.wholeStruct? st = none → st.Rebuilds st' →
      (st.kind.hasBody = true → Stmt.Expands sc st.body st'.body) →
      (st.kind = .branch → Stmt.Expands sc st.orElse st'.orElse) →
      Stmt.Expands sc sts out → Stmt.Expands sc (st :: sts) (st' :: out)

/-! ## The walk expands -/

theorem expandStructAssign_eq (sc : Scope) (st : Stmt) :
    expandStructAssign sc st = (sc.wholeStruct? st).map fun D => D.fields.map fun f =>
      { kind := .setField, span := st.span,
        name := { base := st.name.base, field := f.name, span := st.name.span },
        value := match sc.copySource? st D with
          | some n => some (.accessor n.base n.span f.name n.span)
          | none => st.value } := by
  unfold expandStructAssign Scope.wholeStruct?
  by_cases hset : st.kind = .setVar ∧ st.name.field = ""
  · have hguard : (st.kind != .setVar || st.name.field != "") = false := by
      rw [hset.1, hset.2]
      rfl
    rw [if_pos hset, hguard]
    simp only [Bool.false_eq_true, if_false, Option.bind_eq_bind]
    rcases sc.var? st.name.base with _ | v
    · rfl
    rcases hsn : v.type.structName? with _ | sn
    · simp [hsn]
    rcases hD : sc.struct? sn with _ | D
    · simp [hsn, hD]
    by_cases hempty : D.fields = []
    · simp [hsn, hD, hempty, Option.filter_some]
    · have hne : (!D.fields.isEmpty) = true := by simpa using hempty
      simp only [Option.bind_some, hsn, hD, Option.filter_some, List.isEmpty_iff, hempty, hne, if_true,
        if_false, Option.map_some]
      refine congrArg some (List.map_congr_left fun f _ => ?_)
      -- the copy the code finds is the one `copySource?` names
      unfold Scope.copySource?
      cases st.value with
      | none => rfl
      | some e =>
        cases e
        case name n =>
          by_cases hf : n.field = ""
          · cases hsrc : sc.var? n.base with
            | none => simp [hf, hsrc]
            | some src => by_cases hty : src.type.structName? = some D.name <;> simp [hf, hsrc, hty]
          · simp [hf]
        all_goals rfl
  · have hguard : (st.kind != .setVar || st.name.field != "") = true := by
      rw [StmtKind.bne_setVar]
      by_cases hk : st.kind = .setVar
      · simpa [hk] using fun h => hset ⟨hk, h⟩
      · simp [hk]
    rw [if_neg hset, hguard, if_pos rfl]
    rfl

theorem WalkM.read_apply (sc : Scope) (w : Walk) : (read : WalkM Scope) sc w = (sc, w) := rfl

theorem visitExprOption_fst (sc : Scope) (w : Walk) (o : Option Expr) :
    (visitExprOption o sc w).1 = o.map (rewritten sc {}) := by
  cases o with
  | none => rfl
  | some e => exact congrArg some (rewritten_walk sc e w {})

theorem mapM_visitFieldAssign (sc : Scope) :
    ∀ (xs : List Stmt) (w : Walk),
      ((xs.mapM visitFieldAssign) sc w).1 = xs.map fun s => { s with value := s.value.map (rewritten sc {}) }
  | [], _ => rfl
  | s :: xs, w => by
    rw [List.mapM_cons]
    simp only [WalkM.bind_apply, WalkM.pure_apply, List.map_cons]
    rw [mapM_visitFieldAssign sc xs]
    simp only [visitFieldAssign, WalkM.bind_apply, WalkM.pure_apply, visitExprOption_fst]

theorem walked_fieldAssigns (sc : Scope) (st : Stmt) (D : StructDecl) :
    (D.fields.map fun f =>
      ({ kind := .setField, span := st.span,
         name := { base := st.name.base, field := f.name, span := st.name.span },
         value := match sc.copySource? st D with
           | some n => some (.accessor n.base n.span f.name n.span)
           | none => st.value } : Stmt)).map (fun s => { s with value := s.value.map (rewritten sc {}) }) =
      D.fields.map (sc.fieldAssign st D) := by
  rw [List.map_map]
  refine List.map_congr_left fun f _ => ?_
  simp only [Function.comp, Scope.fieldAssign]
  cases sc.copySource? st D with
  | none => rfl
  | some n => rfl

mutual

theorem visitStmt_rebuilds (sc : Scope) : ∀ (st : Stmt) (w : Walk),
    st.Rebuilds (visitStmt st sc w).1 ∧
      (st.kind.hasBody = true → Stmt.Expands sc st.body (visitStmt st sc w).1.body) ∧
      (st.kind = .branch → Stmt.Expands sc st.orElse (visitStmt st sc w).1.orElse)
  | ⟨kind, span, name, type, isLocal, value, index, times, cond, op, body, orElse, command, proc,
      args⟩, w => by
    cases kind
    case repeatTimes | forever | repeatUntil =>
      exact ⟨⟨rfl, fun h => (by cases h), fun _ => rfl⟩, fun _ => visitStmts_expands sc body _,
        fun h => (by cases h)⟩
    case branch =>
      exact ⟨⟨rfl, fun h => (by cases h), fun h => absurd rfl h⟩, fun _ => visitStmts_expands sc body _,
        fun _ => visitStmts_expands sc orElse _⟩
    case block =>
      -- a block that sends a message records it first; either way only its arguments change
      unfold visitStmt
      dsimp only
      split
      · split
        all_goals exact ⟨⟨rfl, fun _ => rfl, fun _ => rfl⟩, fun h => (by cases h), fun h => (by cases h)⟩
      · exact ⟨⟨rfl, fun _ => rfl, fun _ => rfl⟩, fun h => (by cases h), fun h => (by cases h)⟩
    all_goals exact ⟨⟨rfl, fun _ => rfl, fun _ => rfl⟩, fun h => (by cases h), fun h => (by cases h)⟩

theorem visitStmts_expands (sc : Scope) : ∀ (sts : List Stmt) (w : Walk),
    Stmt.Expands sc sts (visitStmts sts sc w).1
  | [], _ => Stmt.Expands.nil
  | st :: sts, w => by
    rw [visitStmts]
    simp only [WalkM.bind_apply, WalkM.read_apply, expandStructAssign_eq]
    rcases hw : sc.wholeStruct? st with _ | D
    · -- kept: the statement walked, then the rest
      simp only [Option.map_none, WalkM.bind_apply, WalkM.pure_apply]
      obtain ⟨hre, hbody, helse⟩ := visitStmt_rebuilds sc st w
      exact Stmt.Expands.keep hw hre hbody helse (visitStmts_expands sc sts _)
    · -- replaced: one assignment per field, then the rest
      simp only [Option.map_some, WalkM.bind_apply, WalkM.pure_apply, mapM_visitFieldAssign,
        walked_fieldAssigns]
      exact Stmt.Expands.whole hw (visitStmts_expands sc sts _)

end

/-! ## No whole struct assignment is left -/

theorem Stmt.Rebuilds.kind_eq {st st' : Stmt} (h : st.Rebuilds st') : st'.kind = st.kind := by
  have e := congrArg Stmt.kind h.1
  exact e

theorem Stmt.Rebuilds.name_eq {st st' : Stmt} (h : st.Rebuilds st') : st'.name = st.name := by
  have e := congrArg Stmt.name h.1
  exact e

theorem Stmt.chainReached_eq_flatMap (sts : List Stmt) :
    Stmt.chainReached sts = sts.flatMap Stmt.reached := by
  induction sts with
  | nil => rfl
  | cons st sts ih => rw [Stmt.chainReached, ih, List.flatMap_cons]

theorem Stmt.mem_reached {x st : Stmt} (h : x ∈ st.reached) :
    x = st ∨ (st.kind.hasBody = true ∧ x ∈ Stmt.chainReached st.body) ∨
      (st.kind = .branch ∧ x ∈ Stmt.chainReached st.orElse) := by
  obtain ⟨kind, span, name, type, isLocal, value, index, times, cond, op, body, orElse, command, proc,
    args⟩ := st
  cases kind <;> simp_all [Stmt.reached, StmtKind.hasBody]

theorem Stmt.Expands.no_whole_reached {sc : Scope} {sts out : List Stmt} (h : Stmt.Expands sc sts out) :
    ∀ x ∈ Stmt.chainReached out, x.kind = .setVar → sc.wholeStruct? x = none := by
  induction h with
  | nil => intro x hx; cases hx
  | whole _ _ ih =>
    intro x hx hk
    rw [Stmt.chainReached_eq_flatMap, List.flatMap_append, List.mem_append] at hx
    rcases hx with hx | hx
    · -- a field assignment is no assignment of a variable
      obtain ⟨s, hs, hx⟩ := List.mem_flatMap.1 hx
      obtain ⟨f, -, rfl⟩ := List.mem_map.1 hs
      rw [Graph.Stmt.reached_single (by simp [Scope.fieldAssign]), List.mem_singleton] at hx
      rw [hx] at hk
      cases hk
    · exact ih x (by rwa [Stmt.chainReached_eq_flatMap]) hk
  | @keep st st' _ _ hw hre _ _ _ ihbody ihelse ihrest =>
    intro x hx hk
    rw [Stmt.chainReached, List.mem_append] at hx
    rcases hx with hx | hx
    · rcases Stmt.mem_reached hx with rfl | ⟨hb, hx⟩ | ⟨hbr, hx⟩
      · rw [Scope.wholeStruct?_congr sc hre.kind_eq hre.name_eq]
        exact hw
      · exact ihbody (hre.kind_eq ▸ hb) x hx hk
      · exact ihelse (hre.kind_eq ▸ hbr) x hx hk
    · exact ihrest x hx hk

/-! ## What emission reports of an assignment -/

/-- Whether emission in scope `es` takes `n` for a whole struct variable: a name with no field,
of a variable whose struct has fields. -/
def Graph.EmitScope.AssignsWhole (es : Graph.EmitScope) (n : Name) : Prop :=
  n.field = "" ∧ ∃ v, es.var? n.base = some v ∧ es.structFields v ≠ []

theorem assignedVariable_out {n : Name} {es : Graph.EmitScope} (h : ¬es.AssignsWhole n) (s : Graph.EmitState) :
    (Graph.assignedVariable n es s).2.out = s.out ∨
      (Graph.assignedVariable n es s).2.out =
        .report (.error .unresolvedName n.span ("unknown variable " ++ Text.quoteKept n.render)) :: s.out := by
  have hread : (read : Graph.EmitM Graph.EmitScope) es s = (.ok es, s) := rfl
  unfold Graph.assignedVariable
  rw [Graph.EmitM.bind_apply, hread]
  dsimp only
  split
  · exact Or.inr rfl
  split
  · rename_i hfield
    rcases hv : es.var? n.base with _ | v
    · exact Or.inl rfl
    by_cases hfields : (!(es.structFields v).isEmpty) = true
    · -- the report of a whole struct variable is exactly what `h` rules out
      exact absurd ⟨by simpa using hfield, v, hv, by simpa using hfields⟩ h
    · dsimp only
      rw [if_neg hfields]
      exact Or.inl rfl
  · exact Or.inl rfl

def Graph.EmitScope.AcceptsAssignment (es : Graph.EmitScope) (n : Name) : Prop :=
  ∀ s, (Graph.assignedVariable n es s).2.out = s.out ∨
    (Graph.assignedVariable n es s).2.out =
      .report (.error .unresolvedName n.span ("unknown variable " ++ Text.quoteKept n.render)) :: s.out

def Graph.EmitScope.Within (es : Graph.EmitScope) (sc : Scope) : Prop :=
  (∀ n v, es.var? n = some v → sc.var? n = some v) ∧ (∀ n D, es.struct? n = some D → sc.struct? n = some D)

theorem Graph.EmitScope.Within.not_assignsWhole {es : Graph.EmitScope} {sc : Scope} (h : es.Within sc)
    {st : Stmt} (hk : st.kind = .setVar) (hw : sc.wholeStruct? st = none) : ¬es.AssignsWhole st.name := by
  rintro ⟨hfield, v, hv, hfields⟩
  unfold Graph.EmitScope.structFields at hfields
  rcases hsn : v.type.structName? with _ | sn
  · simp [hsn] at hfields
  rcases hD : es.struct? sn with _ | D
  · simp [hsn, hD] at hfields
  simp only [hsn, hD, Option.map_some, Option.getD_some] at hfields
  have hne : (!D.fields.isEmpty) = true := by simpa using hfields
  have hwhole : sc.wholeStruct? st = some D := by
    simp [Scope.wholeStruct?, hk, hfield, h.1 _ _ hv, hsn, h.2 _ _ hD, Option.filter_some, hne]
  rw [hw] at hwhole
  cases hwhole

theorem Option.orElse_self {α : Type} (o : Option α) : (o.orElse fun _ => o) = o := by
  cases o <;> rfl

/-- Emission in a target whose declarations are the walk's, with no stage, the target itself as
its stage, or a stage declaring what the walk's does, finds no more than the walk, in a script
or in the procedure whose locals the walk sees. -/
theorem Graph.EmitScope.within {es : Graph.EmitScope} {t : Sprite} {stage : Option Sprite}
    (hvars : es.sprite.vars = t.vars) (hstructs : es.sprite.structs = t.structs)
    (hstage : es.stage = none ∨ es.stage = some es.sprite ∨
      ∃ s₁ s₂, es.stage = some s₁ ∧ stage = some s₂ ∧ s₁.vars = s₂.vars ∧ s₁.structs = s₂.structs)
    (o : Option Proc) :
    ({ es with proc := o }).Within { sprite := t, stage, locals := (o.map Proc.locals).getD [] } := by
  have hvar : ∀ n, es.sprite.var? n = t.var? n := fun n => by simp only [Sprite.var?, hvars]
  have hstruct : ∀ n, es.sprite.struct? n = t.struct? n := fun n => by simp only [Sprite.struct?, hstructs]
  -- what the stage of emission adds is nothing, the target again, or what the walk's stage adds
  have houter : ∀ {β : Type} (get : Sprite → String → Option β), (∀ n, get es.sprite n = get t n) →
      (∀ s₁ s₂ : Sprite, s₁.vars = s₂.vars → s₁.structs = s₂.structs → ∀ n, get s₁ n = get s₂ n) →
      ∀ n b, ((get es.sprite n).orElse fun _ => es.stage.bind (get · n)) = some b →
        ((get t n).orElse fun _ => stage.bind (get · n)) = some b := by
    intro β get hget hsame n b h
    rw [hget] at h
    rcases hstage with hnone | hself | ⟨s₁, s₂, h₁, h₂, hv, hs⟩
    · rw [hnone] at h
      cases ht : get t n with
      | none => rw [ht] at h; cases h
      | some b' => rw [ht] at h; exact h
    · rw [hself] at h
      simp only [Option.bind_some, hget, Option.orElse_self] at h
      rw [h]
      rfl
    · rw [h₁] at h
      rw [h₂]
      simpa only [Option.bind_some, hsame s₁ s₂ hv hs n] using h
  constructor
  · intro n v h
    unfold Graph.EmitScope.var? at h
    unfold Scope.var?
    cases o with
    | none => exact houter Sprite.var? hvar (fun s₁ s₂ hv _ n => by simp only [Sprite.var?, hv]) n v h
    | some q =>
      simp only [Option.map_some, Option.getD_some, Option.bind_some] at h ⊢
      cases hq : q.locals.find? (·.name == n) with
      | some v' =>
        simp only [hq] at h ⊢
        exact h
      | none =>
        simp only [hq] at h ⊢
        exact houter Sprite.var? hvar (fun s₁ s₂ hv _ n => by simp only [Sprite.var?, hv]) n v h
  · intro n D h
    exact houter Sprite.struct? hstruct (fun s₁ s₂ _ hs n => by simp only [Sprite.struct?, hs]) n D h

/-! ## The passes over a project -/

theorem Sprite.resolve_events (t : Sprite) (stage : Option Sprite) :
    (t.resolve stage).1.events = t.events.map fun ev =>
      { ev with body := (walkBody { sprite := t, stage } {} ev.body).1,
                refs := (walkBody { sprite := t, stage } {} ev.body).2.refs } := by
  unfold Sprite.resolve
  dsimp only
  rw [foldl_snoc_fst _ (fun acc ev => rfl)]
  rfl

theorem Sprite.resolve_handlers (t : Sprite) (stage : Option Sprite) :
    (t.resolve stage).1.handlers = t.sortedHandlers.map fun h =>
      let r := walkBody { sprite := t, stage } { refs := { messages := [h.message] } } h.body
      { h with body := r.1, refs := r.2.refs } := by
  unfold Sprite.resolve
  dsimp only
  rw [foldl_snoc_fst _ (fun acc h => rfl)]
  rfl

theorem Sprite.vars_resolve (t : Sprite) (stage : Option Sprite) : (t.resolve stage).1.vars = t.vars := by
  unfold Sprite.resolve
  rfl

/-- Each body of `t'` is the expansion of the matching body of `t`, in the scope the walk gives
it: events in order, handlers and procedures by name, each procedure with its locals. -/
structure Sprite.ExpandsInto (t : Sprite) (stage : Option Sprite) (t' : Sprite) : Prop where
  events : List.Forall₂ (fun ev ev' : Event => Stmt.Expands { sprite := t, stage } ev.body ev'.body)
    t.events t'.events
  handlers : List.Forall₂ (fun h h' : Handler => Stmt.Expands { sprite := t, stage } h.body h'.body)
    t.sortedHandlers t'.handlers
  procs : List.Forall₂ (fun q q' : Proc => q'.locals = q.locals ∧
      Stmt.Expands { sprite := t, stage, locals := q.locals } q.body q'.body) t.sortedProcs t'.procs

theorem walkBody_expands (sc : Scope) (w : Walk) (body : List Stmt) :
    Stmt.Expands sc body (walkBody sc w body).1 :=
  visitStmts_expands sc body w

theorem Sprite.resolve_expandsInto (t : Sprite) (stage : Option Sprite) :
    t.ExpandsInto stage (t.resolve stage).1 where
  events := by
    rw [t.resolve_events stage, List.forall₂_map_right_iff, List.forall₂_same]
    exact fun ev _ => walkBody_expands _ _ ev.body
  handlers := by
    rw [t.resolve_handlers stage, List.forall₂_map_right_iff, List.forall₂_same]
    exact fun h _ => walkBody_expands _ _ h.body
  procs := by
    rw [t.resolve_procs stage, List.forall₂_map_right_iff, List.forall₂_same]
    exact fun q _ => ⟨rfl, walkBody_expands _ _ q.body⟩

theorem forall₂_mem_right {α β : Type} {R : α → β → Prop} :
    ∀ {l₁ : List α} {l₂ : List β}, List.Forall₂ R l₁ l₂ → ∀ b ∈ l₂, ∃ a ∈ l₁, R a b
  | _, _, .nil, _, h => by cases h
  | _, _, .cons hr hrest, b, h => by
    rcases List.mem_cons.1 h with rfl | h
    · exact ⟨_, List.mem_cons_self, hr⟩
    · obtain ⟨a, ha, hab⟩ := forall₂_mem_right hrest b h
      exact ⟨a, List.mem_cons_of_mem _ ha, hab⟩

/-- Emission accepts every assignment of a variable in the scripts of target `t'`: each is
written with no report, or only the report that its name is no variable. -/
def Sprite.AcceptsAssignments (t' : Sprite) (es : Graph.EmitScope) : Prop :=
  (∀ b ∈ t'.events.map (·.body) ++ t'.handlers.map (·.body), ∀ st ∈ Stmt.chainReached b,
      st.kind = .setVar → es.AcceptsAssignment st.name) ∧
    ∀ q ∈ t'.procs, ∀ st ∈ Stmt.chainReached q.body, st.kind = .setVar →
      ({ es with proc := some q }).AcceptsAssignment st.name

theorem Stmt.Expands.accepts {sc : Scope} {b b' : List Stmt} (h : Stmt.Expands sc b b')
    {es : Graph.EmitScope} (hes : es.Within sc) :
    ∀ st ∈ Stmt.chainReached b', st.kind = .setVar → es.AcceptsAssignment st.name :=
  fun st hst hk s => assignedVariable_out (hes.not_assignsWhole hk (h.no_whole_reached st hst hk)) s

theorem Sprite.ExpandsInto.accepts {t t' : Sprite} {stage : Option Sprite} (h : t.ExpandsInto stage t')
    {es : Graph.EmitScope} (hvars : es.sprite.vars = t.vars) (hstructs : es.sprite.structs = t.structs)
    (hstage : es.stage = none ∨ es.stage = some es.sprite ∨
      ∃ s₁ s₂, es.stage = some s₁ ∧ stage = some s₂ ∧ s₁.vars = s₂.vars ∧ s₁.structs = s₂.structs)
    (hproc : es.proc = none) : t'.AcceptsAssignments es := by
  have hwithin := Graph.EmitScope.within hvars hstructs hstage
  have hscript : es.Within { sprite := t, stage } := by
    have e : ({ es with proc := none } : Graph.EmitScope) = es := by rw [← hproc]
    simpa [e] using hwithin none
  constructor
  · intro b hb
    rcases List.mem_append.1 hb with hb | hb
    · obtain ⟨ev', hev', rfl⟩ := List.mem_map.1 hb
      obtain ⟨ev, -, hexp⟩ := forall₂_mem_right h.events ev' hev'
      exact hexp.accepts hscript
    · obtain ⟨h', hh', rfl⟩ := List.mem_map.1 hb
      obtain ⟨h₀, -, hexp⟩ := forall₂_mem_right h.handlers h' hh'
      exact hexp.accepts hscript
  · intro q' hq'
    obtain ⟨q, -, hlocals, hexp⟩ := forall₂_mem_right h.procs q' hq'
    refine hexp.accepts ?_
    have hw := hwithin (some q')
    simpa [hlocals] using hw

/-- Resolution expands every whole struct assignment of every body: after the declaration pass
each body of the stage and of each sprite is, in the scope the walk gives it, the expansion of
the body it had, at any depth of loops and conditionals; and emission of the compiled project,
whose scopes find no more than the walk's, never refuses an assignment of a variable as one of a
whole struct. -/
theorem whole_struct_assignments_expanded (p : Project) :
    p.declareAssigned.stage.ExpandsInto none p.declareAssigned.resolve.1.stage ∧
      List.Forall₂ (fun t t' => t.ExpandsInto (some p.declareAssigned.stage) t')
        p.declareAssigned.sprites p.declareAssigned.resolve.1.sprites ∧
      ∀ t ∈ p.declareAssigned.resolve.1.targets,
        t.AcceptsAssignments (p.declareAssigned.resolve.1.scope t) := by
  have htargets := Project.resolve_targets p.declareAssigned
  have hstage : p.declareAssigned.resolve.1.stage = (p.declareAssigned.stage.resolve none).1 :=
    (List.cons.inj htargets).1
  have hsprites : p.declareAssigned.resolve.1.sprites =
      p.declareAssigned.sprites.map fun t => (t.resolve (some p.declareAssigned.stage)).1 :=
    (List.cons.inj htargets).2
  refine ⟨hstage ▸ p.declareAssigned.stage.resolve_expandsInto none, ?_, ?_⟩
  · rw [hsprites, List.forall₂_map_right_iff, List.forall₂_same]
    exact fun t _ => t.resolve_expandsInto _
  · intro t' ht'
    rcases List.mem_cons.1 ht' with rfl | ht'
    · -- the stage: emission sees it alone, or it again as its stage
      rw [hstage]
      refine (p.declareAssigned.stage.resolve_expandsInto none).accepts (Sprite.vars_resolve _ _)
        (Sprite.structs_resolve _ _) ?_ rfl
      unfold Project.scope
      split
      · exact Or.inl rfl
      · exact Or.inr (Or.inl (by rw [hstage]))
    · -- a sprite: emission sees the stage as resolved, which declares what it declared
      rw [hsprites] at ht'
      obtain ⟨t, -, rfl⟩ := List.mem_map.1 ht'
      refine (t.resolve_expandsInto _).accepts (Sprite.vars_resolve _ _) (Sprite.structs_resolve _ _) ?_ rfl
      unfold Project.scope
      split
      · exact Or.inl rfl
      · refine Or.inr (Or.inr ⟨_, _, rfl, rfl, ?_, ?_⟩)
        · rw [hstage, Sprite.vars_resolve]
        · rw [hstage, Sprite.structs_resolve]

end BlockGraph
