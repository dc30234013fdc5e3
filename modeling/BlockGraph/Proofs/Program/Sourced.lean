import BlockGraph.Proofs.Resolve.Normal

namespace BlockGraph

mutual

/-- A statement as building makes it: its reporters and, for a block statement, its command are
from the catalogue, a list change has an operator, and the statements of its bodies likewise. -/
def Stmt.Sourced : Stmt → Prop
  | ⟨kind, _, _, _, _, value, index, times, cond, op, body, orElse, command, _, args⟩ =>
    (∀ e ∈ value, ∀ p ∈ e.primitives, p ∈ reporters) ∧
    (∀ e ∈ index, ∀ p ∈ e.primitives, p ∈ reporters) ∧
    (∀ e ∈ times, ∀ p ∈ e.primitives, p ∈ reporters) ∧
    (∀ e ∈ cond, ∀ p ∈ e.primitives, p ∈ reporters) ∧
    (∀ p ∈ Expr.primitivesOf args, p ∈ reporters) ∧
    (kind = .block → command ∈ commands) ∧ (kind = .listChange → op.isSome = true) ∧
    Stmt.AllSourced body ∧ Stmt.AllSourced orElse

/-- Every statement of a list is sourced. -/
def Stmt.AllSourced : List Stmt → Prop
  | [] => True
  | st :: sts => st.Sourced ∧ Stmt.AllSourced sts

end

theorem Stmt.sourced_iff {st : Stmt} :
    st.Sourced ↔ (∀ e ∈ st.value, ∀ p ∈ e.primitives, p ∈ reporters) ∧
      (∀ e ∈ st.index, ∀ p ∈ e.primitives, p ∈ reporters) ∧
      (∀ e ∈ st.times, ∀ p ∈ e.primitives, p ∈ reporters) ∧
      (∀ e ∈ st.cond, ∀ p ∈ e.primitives, p ∈ reporters) ∧
      (∀ p ∈ Expr.primitivesOf st.args, p ∈ reporters) ∧
      (st.kind = .block → st.command ∈ commands) ∧ (st.kind = .listChange → st.op.isSome = true) ∧
      Stmt.AllSourced st.body ∧ Stmt.AllSourced st.orElse := by
  cases st
  rfl

theorem Stmt.allSourced_iff {sts : List Stmt} : Stmt.AllSourced sts ↔ ∀ st ∈ sts, st.Sourced := by
  induction sts with
  | nil => simp [Stmt.AllSourced]
  | cons st sts ih => simp [Stmt.AllSourced, ih]

theorem Stmt.allSourced_append {sts sts' : List Stmt} :
    Stmt.AllSourced (sts ++ sts') ↔ Stmt.AllSourced sts ∧ Stmt.AllSourced sts' := by
  simp only [Stmt.allSourced_iff, List.forall_mem_append]

/-! ## Building -/

open BuildM

mutual

theorem buildStmt_sourced (files : List Nat) : ∀ d : Dump.Stmt, (buildStmt files d).Yields Stmt.Sourced
  | ⟨kindText, span, name, field, type, isLocal, value, index, times, cond, op, body, orElse, block,
      proc, args, a, b, c⟩ => by
    have hbody := buildStmts_sourced files 0 body
    have helse := buildStmts_sourced files 0 orElse
    rw [buildStmt]
    split
    · exact Yields.throw
    rename_i kind _
    refine (Yields.any _).bind fun _ _ => (Yields.any _).bind fun _ _ =>
      (Yields.any _).bind fun _ _ => (Yields.any _).bind fun _ _ => ?_
    split
    · exact Yields.throw
    refine (buildExprOption_yields files times).bind fun times htimes =>
      (buildExprOption_yields files cond).bind fun cond hcond =>
      (buildExprOption_yields files value).bind fun value hvalue =>
      (buildExprOption_yields files index).bind fun index hindex =>
      (buildExprs_reporters files args).bind fun args hargs =>
      hbody.bind fun body hbody => helse.bind fun orElse helse => ?_
    -- a list change takes its operator, a block statement its command; no other kind has either
    split
    · rename_i hlist
      split
      · exact Yields.throw
      · exact Yields.pure (Stmt.sourced_iff.2 ⟨hvalue, hindex, htimes, hcond, hargs,
          fun h => absurd (hlist.symm.trans h) (by decide), fun _ => rfl, hbody, helse⟩)
    split
    · rename_i hlist hblock
      split
      · exact Yields.throw
      · rename_i p hp
        exact Yields.pure (Stmt.sourced_iff.2 ⟨hvalue, hindex, htimes, hcond, hargs,
          fun _ => mem_of_findNumbered hp, fun h => absurd h hlist, hbody, helse⟩)
    · rename_i hlist hblock
      exact Yields.pure (Stmt.sourced_iff.2 ⟨hvalue, hindex, htimes, hcond, hargs,
        fun h => absurd h hblock, fun h => absurd h hlist, hbody, helse⟩)

theorem buildStmts_sourced (files : List Nat) : ∀ (i : Nat) (ds : List Dump.Stmt),
    (buildStmts files i ds).Yields Stmt.AllSourced
  | _, [] => Yields.pure trivial
  | i, d :: ds => by
    rw [buildStmts]
    exact (buildStmt_sourced files d).within.bind fun _ hst =>
      (buildStmts_sourced files (i + 1) ds).bind fun _ hsts => Yields.pure ⟨hst, hsts⟩

end

/-! ## The analyses -/

theorem expandStructAssign_sourced {sc : Scope} {st : Stmt} {expanded : List Stmt}
    (hex : expandStructAssign sc st = some expanded) (hst : st.Sourced) : Stmt.AllSourced expanded := by
  unfold expandStructAssign at hex
  split at hex
  · cases hex
  simp only [bind, Option.bind_eq_some_iff] at hex
  obtain ⟨_, -, _, -, def_, -, hex⟩ := hex
  split at hex
  · cases hex
  cases hex
  -- one field assignment per field, of an accessor or of the assigned value
  obtain ⟨hv, -⟩ := Stmt.sourced_iff.1 hst
  refine Stmt.allSourced_iff.2 fun s hs => ?_
  obtain ⟨f, -, rfl⟩ := List.mem_map.1 hs
  refine Stmt.sourced_iff.2 ⟨?_, by simp, by simp, by simp, by simp [Expr.primitivesOf],
    by simp, by simp, trivial, trivial⟩
  dsimp only
  split
  · simp [Expr.primitives]
  · exact hv

theorem visitFieldAssign_sourced {st : Stmt} (h : st.Sourced) :
    (visitFieldAssign st).Yields Stmt.Sourced := by
  obtain ⟨hv, hi, ht, hco, ha, hb, hl, hbody, helse⟩ := Stmt.sourced_iff.1 h
  unfold visitFieldAssign
  exact (visitExprOption_keeps hv).bind fun _ hv' =>
    WalkM.Yields.pure (Stmt.sourced_iff.2 ⟨hv', hi, ht, hco, ha, hb, hl, hbody, helse⟩)

mutual

theorem visitStmt_sourced : ∀ st : Stmt, st.Sourced → (visitStmt st).Yields Stmt.Sourced
  | ⟨kind, span, name, type, isLocal, value, index, times, cond, op, body, orElse, command, proc,
      args⟩, h => by
    obtain ⟨hv, hi, ht, hco, ha, hb, hl, hbody, helse⟩ := Stmt.sourced_iff.1 h
    have hbody' := visitStmts_sourced body hbody
    have helse' := visitStmts_sourced orElse helse
    have hv' := visitExprOption_keeps hv
    have hi' := visitExprOption_keeps hi
    have ht' := visitExprOption_keeps ht
    have hco' := visitExprOption_keeps hco
    have ha' := visitExprs_keeps ha
    unfold visitStmt
    -- each kind walks some of its parts and keeps the others, its command and its operator
    cases kind
    case repeatTimes =>
      exact ht'.bind fun _ ht' => hbody'.bind fun _ hb' =>
        WalkM.Yields.pure (Stmt.sourced_iff.2 ⟨hv, hi, ht', hco, ha, hb, hl, hb', helse⟩)
    case forever =>
      exact hbody'.bind fun _ hb' =>
        WalkM.Yields.pure (Stmt.sourced_iff.2 ⟨hv, hi, ht, hco, ha, hb, hl, hb', helse⟩)
    case branch =>
      exact hco'.bind fun _ hco' => hbody'.bind fun _ hb' => helse'.bind fun _ he' =>
        WalkM.Yields.pure (Stmt.sourced_iff.2 ⟨hv, hi, ht, hco', ha, hb, hl, hb', he'⟩)
    case repeatUntil =>
      exact hco'.bind fun _ hco' => hbody'.bind fun _ hb' =>
        WalkM.Yields.pure (Stmt.sourced_iff.2 ⟨hv, hi, ht, hco', ha, hb, hl, hb', helse⟩)
    case setVar | changeVar | setField =>
      exact hv'.bind fun _ hv' =>
        WalkM.Yields.pure (Stmt.sourced_iff.2 ⟨hv', hi, ht, hco, ha, hb, hl, hbody, helse⟩)
    case showData | hideData => exact WalkM.Yields.pure h
    case listAdd =>
      exact (WalkM.Yields.any _).bind fun _ _ => hv'.bind fun _ hv' =>
        WalkM.Yields.pure (Stmt.sourced_iff.2 ⟨hv', hi, ht, hco, ha, hb, hl, hbody, helse⟩)
    case listDelete =>
      exact (WalkM.Yields.any _).bind fun _ _ => hi'.bind fun _ hi' =>
        WalkM.Yields.pure (Stmt.sourced_iff.2 ⟨hv, hi', ht, hco, ha, hb, hl, hbody, helse⟩)
    case listDeleteAll => exact (WalkM.Yields.any _).bind fun _ _ => WalkM.Yields.pure h
    case listInsert | listSet | listChange =>
      exact (WalkM.Yields.any _).bind fun _ _ => hi'.bind fun _ hi' => hv'.bind fun _ hv' =>
        WalkM.Yields.pure (Stmt.sourced_iff.2 ⟨hv', hi', ht, hco, ha, hb, hl, hbody, helse⟩)
    case block =>
      -- a block that sends a message records the message first
      have hdone : ∀ args', (∀ p ∈ Expr.primitivesOf args', p ∈ reporters) →
          (Stmt.mk .block span name type isLocal value index times cond op body orElse command proc
            args').Sourced :=
        fun _ ha' => Stmt.sourced_iff.2 ⟨hv, hi, ht, hco, ha', hb, hl, hbody, helse⟩
      dsimp only
      split
      · split
        · exact (WalkM.Yields.any _).bind fun _ _ => ha'.bind fun _ ha' =>
            WalkM.Yields.pure (hdone _ ha')
        · exact ha'.bind fun _ ha' => WalkM.Yields.pure (hdone _ ha')
      · exact ha'.bind fun _ ha' => WalkM.Yields.pure (hdone _ ha')
    case procCall =>
      exact (WalkM.Yields.any _).bind fun _ _ => ha'.bind fun _ ha' =>
        WalkM.Yields.pure (Stmt.sourced_iff.2 ⟨hv, hi, ht, hco, ha', hb, hl, hbody, helse⟩)

theorem visitStmts_sourced :
    ∀ sts : List Stmt, Stmt.AllSourced sts → (visitStmts sts).Yields Stmt.AllSourced
  | [], _ => WalkM.Yields.pure trivial
  | st :: sts, ⟨hst, hrest⟩ => by
    have hrest' := visitStmts_sourced sts hrest
    rw [visitStmts]
    refine (WalkM.Yields.any _).bind fun sc _ => ?_
    split
    · -- a whole struct assignment becomes one assignment per field
      rename_i expanded hex
      exact (WalkM.Yields.mapM fun s hs => visitFieldAssign_sourced
        (Stmt.allSourced_iff.1 (expandStructAssign_sourced hex hst) s hs)).bind
        fun _ hfirst => hrest'.bind fun _ hrest' =>
          WalkM.Yields.pure (Stmt.allSourced_append.2 ⟨Stmt.allSourced_iff.2 hfirst, hrest'⟩)
    · exact (visitStmt_sourced st hst).bind fun _ hst' => hrest'.bind fun _ hrest' =>
        WalkM.Yields.pure ⟨hst', hrest'⟩

end

theorem walkBody_sourced {sc : Scope} {w : Walk} {body : List Stmt} (h : Stmt.AllSourced body) :
    Stmt.AllSourced (walkBody sc w body).1 :=
  visitStmts_sourced body h sc w

theorem Sprite.hats_resolve (t : Sprite) (stage : Option Sprite) :
    ∀ ev ∈ (t.resolve stage).1.events, ∃ ev₀ ∈ t.events, ev.hat = ev₀.hat := by
  intro ev hev
  unfold Sprite.resolve at hev
  dsimp only at hev
  obtain hev | ⟨ev₀, hev₀, _, rfl⟩ := mem_foldl_snoc hev
  · cases hev
  · exact ⟨ev₀, hev₀, rfl⟩

/-- After building from a dump and the analyses, every body of every target is normal and
sourced, and every event has a hat of the catalogue. -/
theorem analysed_targets_sourced {doc : Dump.Document} {origin : String} {p : Project}
    {fs : FileSet} (h : Project.build doc origin = .ok (p, fs)) :
    ∀ t ∈ p.declareAssigned.resolve.1.targets,
      (∀ b ∈ t.bodies, Stmt.allNormal b = true ∧ Stmt.AllSourced b) ∧
        ∀ ev ∈ t.events, ev.hat ∈ hats := by
  intro t ht
  have hbuilt := build_targets
    (fun files name isStage d => buildSprite_yields (buildStmts_sourced files 0) name isStage d) h
  obtain ⟨t₁, ht₁, stage, rfl⟩ := Project.targets_resolve _ t ht
  obtain ⟨t₀, ht₀, globals, rfl⟩ := Project.targets_declareAssigned p t₁ ht₁
  obtain ⟨hbodies, hhats⟩ := hbuilt t₀ ht₀
  refine ⟨fun b hb => ⟨resolved_bodies_normal p _ ht b hb, ?_⟩, fun ev hev => ?_⟩
  · obtain ⟨b₁, hb₁, sc, w, rfl⟩ := Sprite.bodies_resolve _ stage b hb
    exact walkBody_sourced (hbodies b₁ (Sprite.bodies_declareAssigned t₀ globals b₁ hb₁))
  · -- declaring assigned variables keeps the events
    obtain ⟨ev₀, hev₀, heq⟩ := Sprite.hats_resolve _ stage ev hev
    rw [heq]
    exact hhats ev₀ hev₀

end BlockGraph
