import BlockGraph.Proofs.Emission.Target
import BlockGraph.Proofs.Resolve.Meaning
import BlockGraph.Compilation

namespace BlockGraph

/-- A primitive of the catalogue: a reporter, a command block, or the missing entry that a
statement other than a block statement carries. -/
def Primitive.Catalogued (p : Primitive) : Prop :=
  p ∈ reporters ∨ p ∈ commands ∨ p = Primitive.invalid

theorem reporters_menuOnce : ∀ p ∈ reporters, p.MenuOnce := by decide

theorem commands_menuOnce : ∀ p ∈ commands, p.MenuOnce := by decide

theorem value_fixedField {name value : String} (hname : ∀ c ∈ name.toList, Json.Grammar.Unescaped c)
    (hvalue : ∀ c ∈ value.toList, Json.Grammar.Unescaped c) :
    Json.Grammar.Value (fixedField name value).toList :=
  Graph.value_fixedObject hname hvalue

theorem reporters_fields : ∀ p ∈ reporters, p.fields = "" ∨ Json.Grammar.Value p.fields.toList := by
  simp only [reporters, List.forall_mem_cons, List.not_mem_nil, IsEmpty.forall_iff, implies_true,
    and_true, true_or, true_and]
  and_intros
  all_goals exact Or.inr (value_fixedField (by simp [Json.Grammar.Unescaped]) (by simp [Json.Grammar.Unescaped]))

theorem commands_fields : ∀ p ∈ commands, p.fields = "" ∨ Json.Grammar.Value p.fields.toList := by
  simp only [commands, List.forall_mem_cons, List.not_mem_nil, IsEmpty.forall_iff, implies_true,
    and_true, true_or, true_and]
  and_intros
  all_goals exact Or.inr (value_fixedField (by simp [Json.Grammar.Unescaped]) (by simp [Json.Grammar.Unescaped]))

/-- A primitive of the catalogue can be written: its menu fills at most one slot, and its fixed
fields are none or a JSON object. -/
theorem Primitive.Catalogued.writable {p : Primitive} (h : p.Catalogued) : p.Writable := by
  rcases h with h | h | rfl
  · exact ⟨reporters_menuOnce p h, reporters_fields p h⟩
  · exact ⟨commands_menuOnce p h, commands_fields p h⟩
  · exact ⟨by decide, Or.inl rfl⟩

theorem mem_of_findNumbered {table : List Primitive} {name : String} {i : Nat} {p : Primitive}
    (h : findNumbered table name = some (i, p)) : p ∈ table := by
  obtain ⟨⟨q, j⟩, hq, hf⟩ := List.exists_of_findSome?_eq_some h
  dsimp only at hf
  split at hf
  · cases hf
    exact List.fst_mem_of_mem_zipIdx hq
  · cases hf

/-- Every primitive that a body applies is from the catalogue. -/
def CataloguedBody (sts : List Stmt) : Prop := ∀ st ∈ sts, ∀ p ∈ st.primitives, p.Catalogued

theorem Stmt.mem_primitivesOf {p : Primitive} :
    ∀ {sts : List Stmt}, p ∈ Stmt.primitivesOf sts ↔ ∃ st ∈ sts, p ∈ st.primitives
  | [] => by simp [Stmt.primitivesOf]
  | st :: sts => by simp [Stmt.primitivesOf, Stmt.mem_primitivesOf]

theorem Stmt.primitives_eq (st : Stmt) :
    st.primitives = st.command :: Expr.primitivesOf (st.value.toList ++ st.index.toList ++
      st.times.toList ++ st.cond.toList ++ st.args) ++ Stmt.primitivesOf st.body ++
        Stmt.primitivesOf st.orElse := by
  cases st
  rfl

theorem Stmt.catalogued_iff {st : Stmt} :
    (∀ p ∈ st.primitives, p.Catalogued) ↔ st.command.Catalogued ∧
      (∀ e ∈ st.value, ∀ p ∈ e.primitives, p.Catalogued) ∧
      (∀ e ∈ st.index, ∀ p ∈ e.primitives, p.Catalogued) ∧
      (∀ e ∈ st.times, ∀ p ∈ e.primitives, p.Catalogued) ∧
      (∀ e ∈ st.cond, ∀ p ∈ e.primitives, p.Catalogued) ∧
      (∀ p ∈ Expr.primitivesOf st.args, p.Catalogued) ∧ CataloguedBody st.body ∧
      CataloguedBody st.orElse := by
  rw [Stmt.primitives_eq]
  simp only [List.cons_append, List.forall_mem_cons, List.forall_mem_append, Expr.mem_primitivesOf,
    Stmt.mem_primitivesOf, forall_exists_index, and_imp, Option.mem_toList, CataloguedBody,
    and_assoc, Option.mem_def, forall_and]
  constructor
  · rintro ⟨hc, hv, hi, ht, hco, ha, hb, he⟩
    exact ⟨hc, fun e h p hp => hv p e h hp, fun e h p hp => hi p e h hp, fun e h p hp => ht p e h hp,
      fun e h p hp => hco p e h hp, ha, fun s h p hp => hb p s h hp, fun s h p hp => he p s h hp⟩
  · rintro ⟨hc, hv, hi, ht, hco, ha, hb, he⟩
    exact ⟨hc, fun p e h hp => hv e h p hp, fun p e h hp => hi e h p hp, fun p e h hp => ht e h p hp,
      fun p e h hp => hco e h p hp, ha, fun p s h hp => hb s h p hp, fun p s h hp => he s h p hp⟩
/-- The bodies of a sprite's scripts: its events', its handlers' and its procedures'. -/
def Sprite.bodies (t : Sprite) : List (List Stmt) :=
  t.events.map (·.body) ++ t.handlers.map (·.body) ++ t.procs.map (·.body)

/-- Every body of the sprite applies catalogue primitives only. -/
def Sprite.Catalogued (t : Sprite) : Prop := ∀ b ∈ t.bodies, CataloguedBody b

theorem Sprite.mem_bodies {t : Sprite} {b : List Stmt} :
    b ∈ t.bodies ↔ (∃ ev ∈ t.events, ev.body = b) ∨ (∃ h ∈ t.handlers, h.body = b) ∨
      ∃ q ∈ t.procs, q.body = b := by
  simp [Sprite.bodies]

theorem Sprite.mem_bodies_of_mem_scripts {t : Sprite} {sc : String × List Stmt}
    (h : sc ∈ t.scripts) : sc.2 ∈ t.bodies := by
  unfold Sprite.scripts at h
  simp only [List.mem_append, List.mem_map] at h
  rcases h with (⟨ev, hev, rfl⟩ | ⟨hd, hhd, rfl⟩) | ⟨q, hq, rfl⟩
  · exact Sprite.mem_bodies.2 (Or.inl ⟨ev, hev, rfl⟩)
  · exact Sprite.mem_bodies.2 (Or.inr (Or.inl ⟨hd, List.mem_mergeSort.1 hhd, rfl⟩))
  · exact Sprite.mem_bodies.2 (Or.inr (Or.inr ⟨q, List.mem_mergeSort.1 hq, rfl⟩))

theorem Sprite.Catalogued.writable {t : Sprite} (h : t.Catalogued) : t.Writable := by
  intro sc hsc p hp
  obtain ⟨st, hst, hp⟩ := Stmt.mem_primitivesOf.1 hp
  exact (h sc.2 (Sprite.mem_bodies_of_mem_scripts hsc) st hst p hp).writable

-- Building

namespace BuildM

/-- Every value that `x` returns satisfies `P`. -/
def Yields {α : Type} (x : BuildM α) (P : α → Prop) : Prop :=
  ∀ s a s', x s = .ok (a, s') → P a

namespace Yields

variable {α β : Type} {P : α → Prop} {Q : β → Prop}

theorem pure {a : α} (h : P a) : (Pure.pure a : BuildM α).Yields P := by
  intro s b s' hrun
  cases hrun
  exact h

theorem bind {x : BuildM α} {f : α → BuildM β} (hx : x.Yields P) (hf : ∀ a, P a → (f a).Yields Q) :
    (x >>= f).Yields Q := by
  intro s b s'' hrun
  change (x s >>= fun r => f r.1 r.2) = _ at hrun
  rcases hxs : x s with e | ⟨a, s'⟩
  · rw [hxs] at hrun
    cases hrun
  · rw [hxs] at hrun
    exact hf a (hx s a s' hxs) s' b s'' hrun

theorem any (x : BuildM α) : x.Yields fun _ => True := fun _ _ _ _ => trivial

theorem throw {e : BuildError} : (MonadExcept.throw e : BuildM α).Yields P := by
  intro s a s' hrun
  cases hrun

theorem map {x : BuildM α} {f : α → β} (hx : x.Yields P) (hf : ∀ a, P a → Q (f a)) :
    (f <$> x).Yields Q := by
  intro s b s' hrun
  change (x s >>= fun r => Pure.pure (f r.1, r.2)) = _ at hrun
  rcases hxs : x s with e | ⟨a, s₁⟩
  · rw [hxs] at hrun
    cases hrun
  · rw [hxs] at hrun
    cases hrun
    exact hf a (hx s a s₁ hxs)

theorem foldlM {γ : Type} {f : α → γ → BuildM α} (I : α → Prop) :
    ∀ {xs : List γ} {init : α}, I init → (∀ a x, I a → (f a x).Yields I) →
      (xs.foldlM f init).Yields I
  | [], _, h₀, _ => Yields.pure h₀
  | x :: xs, init, h₀, hf => by
    rw [List.foldlM_cons]
    exact (hf init x h₀).bind fun a ha => foldlM I ha hf

theorem imp {x : BuildM α} {Q : α → Prop} (hx : x.Yields P) (h : ∀ a, P a → Q a) : x.Yields Q :=
  fun s a s' hrun => h a (hx s a s' hrun)

theorem within {act : BuildM α} {wrap : BuildError → BuildError} (h : act.Yields P) :
    (BuildM.within wrap act).Yields P := by
  intro s a s' hrun
  unfold BuildM.within at hrun
  split at hrun
  · rename_i r hr
    cases hrun
    exact h s _ _ hr
  · cases hrun

end Yields

end BuildM

open BuildM

mutual

theorem buildExpr_reporters (files : List Nat) :
    ∀ d : Dump.Expr, (buildExpr files d).Yields fun e => ∀ p ∈ e.primitives, p ∈ reporters
  | ⟨kind, span, int, float, str, name, field, repr, args, op, operand, lhs, rhs, spare⟩ => by
    have hargs := buildExprs_reporters files args
    have hoperand := buildExprOption_reporters files operand
    have hlhs := buildExprOption_reporters files lhs
    have hrhs := buildExprOption_reporters files rhs
    rw [buildExpr]
    -- literals and names apply no primitive
    split
    · exact Yields.pure (by simp [Expr.primitives])
    split
    · exact Yields.pure (by simp [Expr.primitives])
    split
    · exact Yields.pure (by simp [Expr.primitives])
    split
    · exact (Yields.any _).bind fun _ _ => (Yields.any _).bind fun _ _ =>
        Yields.pure (by simp [Expr.primitives])
    split
    · exact (Yields.any _).bind fun _ _ => (Yields.any _).bind fun _ _ =>
        Yields.pure (by simp [Expr.primitives])
    split
    · exact (Yields.any _).bind fun _ _ => (Yields.any _).bind fun _ _ =>
        Yields.pure (by simp [Expr.primitives])
    -- a reporter is found in the catalogue; its arguments are built
    split
    · split
      · exact Yields.throw
      · rename_i p hp
        exact hargs.bind fun es hes => Yields.pure fun q hq => by
          rcases List.mem_cons.1 hq with rfl | hq
          · exact mem_of_findNumbered hp
          · exact hes q hq
    split
    · split
      · exact Yields.throw
      · split
        · exact Yields.throw
        · exact (hoperand _ rfl).bind fun e he => Yields.pure he
    split
    · split
      · exact Yields.throw
      · split
        · exact (hlhs _ rfl).bind fun l hl => (hrhs _ rfl).bind fun r hr => Yields.pure fun q hq => by
            rcases List.mem_append.1 hq with hq | hq
            · exact hl q hq
            · exact hr q hq
        · exact Yields.throw
    · exact Yields.throw

theorem buildExprs_reporters (files : List Nat) :
    ∀ ds : List Dump.Expr, (buildExprs files ds).Yields fun es => ∀ p ∈ Expr.primitivesOf es, p ∈ reporters
  | [] => Yields.pure (by simp [Expr.primitivesOf])
  | d :: ds => by
    rw [buildExprs]
    exact (buildExpr_reporters files d).bind fun e he => (buildExprs_reporters files ds).bind
      fun es hes => Yields.pure (by simp only [Expr.primitivesOf, List.mem_append]; grind)

theorem buildExprOption_reporters (files : List Nat) :
    ∀ o : Option Dump.Expr, ∀ d ∈ o, (buildExpr files d).Yields fun e => ∀ p ∈ e.primitives, p ∈ reporters
  | none => by simp
  | some d => by
    intro d' hd'
    cases hd'
    exact buildExpr_reporters files d

end

theorem buildExprOption_yields (files : List Nat) :
    ∀ o : Option Dump.Expr,
      (buildExprOption files o).Yields fun v => ∀ e ∈ v, ∀ p ∈ e.primitives, p ∈ reporters
  | none => Yields.pure (by simp)
  | some d => (buildExpr_reporters files d).map fun e he => by simpa using he

/-- A statement whose expressions apply reporters only, under a catalogue command. -/
theorem Stmt.catalogued_of_reporters {st : Stmt} (hc : st.command.Catalogued)
    (hv : ∀ e ∈ st.value, ∀ p ∈ e.primitives, p ∈ reporters)
    (hi : ∀ e ∈ st.index, ∀ p ∈ e.primitives, p ∈ reporters)
    (ht : ∀ e ∈ st.times, ∀ p ∈ e.primitives, p ∈ reporters)
    (hco : ∀ e ∈ st.cond, ∀ p ∈ e.primitives, p ∈ reporters)
    (ha : ∀ p ∈ Expr.primitivesOf st.args, p ∈ reporters) (hb : CataloguedBody st.body)
    (he : CataloguedBody st.orElse) : ∀ p ∈ st.primitives, p.Catalogued :=
  Stmt.catalogued_iff.2 ⟨hc, fun e h p hp => Or.inl (hv e h p hp), fun e h p hp => Or.inl (hi e h p hp),
    fun e h p hp => Or.inl (ht e h p hp), fun e h p hp => Or.inl (hco e h p hp),
    fun p hp => Or.inl (ha p hp), hb, he⟩

mutual

theorem buildStmt_catalogued (files : List Nat) :
    ∀ d : Dump.Stmt, (buildStmt files d).Yields fun st => ∀ p ∈ st.primitives, p.Catalogued
  | ⟨kindText, span, name, field, type, isLocal, value, index, times, cond, op, body, orElse, block,
      proc, args, a, b, c⟩ => by
    have hbody := buildStmts_catalogued files 0 body
    have helse := buildStmts_catalogued files 0 orElse
    rw [buildStmt]
    split
    · exact Yields.throw
    refine (Yields.any _).bind fun _ _ => (Yields.any _).bind fun _ _ =>
      (Yields.any _).bind fun _ _ => (Yields.any _).bind fun _ _ => ?_
    split
    · exact Yields.throw
    refine (buildExprOption_yields files times).bind fun times htimes =>
      (buildExprOption_yields files cond).bind fun cond hcond =>
      (buildExprOption_yields files value).bind fun value hvalue =>
      (buildExprOption_yields files index).bind fun index hindex =>
      (buildExprs_reporters files args).bind fun args hargs =>
      hbody.bind fun body hbody => helse.bind fun orElse helse => ?_
    -- the command is the missing entry, but for a block statement, whose block is looked up
    split
    · split
      · exact Yields.throw
      · exact Yields.pure (Stmt.catalogued_of_reporters (Or.inr (Or.inr rfl)) hvalue hindex htimes
          hcond hargs hbody helse)
    split
    · split
      · exact Yields.throw
      · rename_i p hp
        exact Yields.pure (Stmt.catalogued_of_reporters (Or.inr (Or.inl (mem_of_findNumbered hp)))
          hvalue hindex htimes hcond hargs hbody helse)
    · exact Yields.pure (Stmt.catalogued_of_reporters (Or.inr (Or.inr rfl)) hvalue hindex htimes
        hcond hargs hbody helse)

theorem buildStmts_catalogued (files : List Nat) : ∀ (i : Nat) (ds : List Dump.Stmt),
    (buildStmts files i ds).Yields CataloguedBody
  | _, [] => Yields.pure (by simp [CataloguedBody])
  | i, d :: ds => by
    rw [buildStmts]
    exact (buildStmt_catalogued files d).within.bind fun st hst =>
      (buildStmts_catalogued files (i + 1) ds).bind fun sts hsts =>
        Yields.pure (List.forall_mem_cons.2 ⟨hst, hsts⟩)

end

section Bodies

/-! Building a sprite builds each of its bodies with `buildStmts`: what every body so built
satisfies, every body of the sprite does. -/

variable {files : List Nat} {P : List Stmt → Prop}

theorem buildProc_yields (hP : ∀ ds, (buildStmts files 0 ds).Yields P) (d : Dump.ProcEntry) :
    (buildProc files d).Yields fun q => P q.body := by
  unfold buildProc
  exact (Yields.any _).bind fun _ _ => (Yields.any _).bind fun _ _ =>
    (hP d.body).bind fun _ hbody => Yields.pure hbody

theorem declare_yields {α : Type} {kind : String} {nameOf : α → String} {table : List α}
    {name : String} {x : α} {P : α → Prop} (htable : ∀ y ∈ table, P y) (hx : P x) :
    (declare kind nameOf table name x).Yields fun t => ∀ y ∈ t, P y := by
  unfold declare
  split
  · exact Yields.throw
  · exact Yields.pure fun y hy => by
      rcases List.mem_append.1 hy with hy | hy
      · exact htable y hy
      · rw [List.mem_singleton.1 hy]
        exact hx

/-- Every body of a built sprite satisfies what built bodies do, and every event has a hat of
the catalogue. -/
theorem buildSprite_yields (hP : ∀ ds, (buildStmts files 0 ds).Yields P) (name : String)
    (isStage : Bool) (d : Dump.SpriteEntry) :
    (buildSprite files name isStage d).Yields fun t =>
      (∀ b ∈ t.bodies, P b) ∧ ∀ ev ∈ t.events, ev.hat ∈ hats := by
  unfold buildSprite
  refine (Yields.any _).bind fun _ _ => (Yields.any _).bind fun vars _ =>
    (Yields.any _).bind fun lists _ => (Yields.any _).bind fun enums _ =>
    (Yields.any _).bind fun structs _ => ?_
  -- each loop keeps what it has built as built bodies are
  refine (Yields.foldlM (fun procs : List Proc => ∀ q ∈ procs, P q.body) (by simp)
    fun procs x hprocs => ?_).bind fun procs hprocs => ?_
  · exact (buildProc_yields hP x).within.bind fun _ hproc => declare_yields hprocs hproc
  refine (Yields.foldlM (fun r : List Event × Nat => ∀ ev ∈ r.1, P ev.body ∧ ev.hat ∈ hats)
    (by simp) fun r x hr => ?_).bind fun r hr => ?_
  · refine Yields.bind (Yields.within ?_) fun ev (hev : P ev.body ∧ ev.hat ∈ hats) =>
      Yields.pure fun ev' hev' => ?_
    · split
      · exact Yields.throw
      · rename_i hat hhat
        exact (hP x.body).bind fun _ hbody =>
          Yields.pure ⟨hbody, List.mem_of_find?_eq_some hhat⟩
    · rcases List.mem_append.1 hev' with hev' | hev'
      · exact hr ev' hev'
      · rw [List.mem_singleton.1 hev']
        exact hev
  obtain ⟨events, _⟩ := r
  refine (Yields.foldlM (fun hs : List Handler => ∀ h ∈ hs, P h.body) (by simp)
    fun hs x hhs => ?_).bind fun handlers hhandlers => ?_
  · exact (hP x.body).within.bind fun _ hbody => declare_yields hhs hbody
  refine (Yields.any _).bind fun bad _ => ?_
  split
  · exact Yields.throw
  · refine Yields.pure ⟨fun b hb => ?_, fun ev hev => (hr ev hev).2⟩
    simp only [Sprite.bodies, List.mem_append, List.mem_map] at hb
    rcases hb with (⟨ev, hev, rfl⟩ | ⟨h, hh, rfl⟩) | ⟨q, hq, rfl⟩
    · exact (hr ev hev).1
    · exact hhandlers h hh
    · exact hprocs q hq

end Bodies

theorem buildSprite_catalogued (files : List Nat) (name : String) (isStage : Bool)
    (d : Dump.SpriteEntry) : (buildSprite files name isStage d).Yields Sprite.Catalogued :=
  (buildSprite_yields (buildStmts_catalogued files 0) name isStage d).imp fun _ h => h.1

/-- A built sprite is the stage exactly when it was built as the stage. -/
theorem buildSprite_isStage (files : List Nat) (name : String) (isStage : Bool)
    (d : Dump.SpriteEntry) : (buildSprite files name isStage d).Yields fun t => t.isStage = isStage := by
  unfold buildSprite
  refine (Yields.any _).bind fun _ _ => (Yields.any _).bind fun _ _ => (Yields.any _).bind fun _ _ =>
    (Yields.any _).bind fun _ _ => (Yields.any _).bind fun _ _ => (Yields.any _).bind fun _ _ =>
    (Yields.any _).bind fun r _ => ?_
  obtain ⟨events, _⟩ := r
  refine (Yields.any _).bind fun _ _ => (Yields.any _).bind fun bad _ => ?_
  split
  · exact Yields.throw
  · exact Yields.pure rfl

theorem except_bind_eq_ok {ε α β : Type} {x : Except ε α} {f : α → Except ε β} {b : β} :
    (x >>= f) = .ok b ↔ ∃ a, x = .ok a ∧ f a = .ok b := by
  cases x <;> simp [bind, Except.bind]

theorem except_foldlM_inv {ε α β : Type} {f : β → α → Except ε β} (I : β → Prop) :
    ∀ {xs : List α} {init r : β}, I init → (∀ b x r, I b → f b x = .ok r → I r) →
      xs.foldlM f init = .ok r → I r
  | [], _, _, h₀, _, h => by
    cases h
    exact h₀
  | x :: xs, init, r, h₀, hf, h => by
    rw [List.foldlM_cons] at h
    obtain ⟨b, hb, h⟩ := except_bind_eq_ok.1 h
    exact except_foldlM_inv I (hf init x b h₀ hb) hf h

/-- The stage of a project built from a dump is a sprite that `buildSprite` built as the stage,
and every other target one it built as a sprite. -/
theorem build_roles {P : Bool → Sprite → Prop}
    (hP : ∀ files name isStage d, (buildSprite files name isStage d).Yields (P isStage))
    {doc : Dump.Document} {origin : String} {p : Project} {fs : FileSet}
    (h : Project.build doc origin = .ok (p, fs)) : P true p.stage ∧ ∀ t ∈ p.sprites, P false t := by
  unfold Project.build at h
  generalize loadFiles origin doc.files = lf at h
  obtain ⟨fs₀, files⟩ := lf
  dsimp only at h
  obtain ⟨⟨stage, _⟩, hstage, h⟩ := except_bind_eq_ok.1 h
  obtain ⟨sprites, hsprites, h⟩ := except_bind_eq_ok.1 h
  cases h
  -- a sprite whose name collides or repeats is refused; any other is built and kept
  have hsprites' : ∀ t ∈ sprites, P false t := by
    refine except_foldlM_inv (fun acc : List Sprite => ∀ t ∈ acc, P false t) (by simp) ?_ hsprites
    intro acc x r hacc hr
    split at hr
    · obtain ⟨_, hthrow, -⟩ := except_bind_eq_ok.1 hr
      cases hthrow
    split at hr
    · obtain ⟨_, hthrow, -⟩ := except_bind_eq_ok.1 hr
      cases hthrow
    obtain ⟨⟨t, _⟩, ht, hr⟩ := except_bind_eq_ok.1 hr
    cases hr
    intro t' ht'
    rcases List.mem_append.1 ht' with ht' | ht'
    · exact hacc t' ht'
    · rw [List.mem_singleton.1 ht']
      exact (hP files _ false x.2).within none t _ ht
  exact ⟨(hP files stageName true doc.stage).within none stage _ hstage,
    fun t ht => hsprites' t (List.mem_mergeSort.1 ht)⟩

/-- Every target of a project built from a dump is a sprite that `buildSprite` built, so it
satisfies what every built sprite does. -/
theorem build_targets {P : Sprite → Prop}
    (hP : ∀ files name isStage d, (buildSprite files name isStage d).Yields P)
    {doc : Dump.Document} {origin : String} {p : Project} {fs : FileSet}
    (h : Project.build doc origin = .ok (p, fs)) : ∀ t ∈ p.targets, P t := by
  obtain ⟨hstage, hsprites⟩ := build_roles (P := fun _ => P) hP h
  intro t ht
  rcases List.mem_cons.1 ht with rfl | ht
  · exact hstage
  · exact hsprites t ht

theorem build_catalogued {doc : Dump.Document} {origin : String} {p : Project} {fs : FileSet}
    (h : Project.build doc origin = .ok (p, fs)) : ∀ t ∈ p.targets, t.Catalogued :=
  build_targets buildSprite_catalogued h

-- The analyses

namespace WalkM

/-- Every value that `x` returns satisfies `P`, whatever the scope and what was gathered. -/
def Yields {α : Type} (x : WalkM α) (P : α → Prop) : Prop := ∀ sc w, P (x sc w).1

namespace Yields

variable {α β : Type} {P : α → Prop} {Q : β → Prop}

theorem pure {a : α} (h : P a) : (Pure.pure a : WalkM α).Yields P := fun _ _ => h

theorem bind {x : WalkM α} {f : α → WalkM β} (hx : x.Yields P) (hf : ∀ a, P a → (f a).Yields Q) :
    (x >>= f).Yields Q := fun sc w => hf _ (hx sc w) sc _

theorem any (x : WalkM α) : x.Yields fun _ => True := fun _ _ => trivial

theorem map {x : WalkM α} {f : α → β} (hx : x.Yields P) (hf : ∀ a, P a → Q (f a)) :
    (f <$> x).Yields Q := fun sc w => hf _ (hx sc w)

theorem imp {x : WalkM α} {Q : α → Prop} (hx : x.Yields P) (h : ∀ a, P a → Q a) : x.Yields Q :=
  fun sc w => h _ (hx sc w)

theorem mapM {γ : Type} {f : γ → WalkM α} :
    ∀ {xs : List γ}, (∀ x ∈ xs, (f x).Yields P) → (xs.mapM f).Yields fun ys => ∀ y ∈ ys, P y
  | [], _ => Yields.pure (by simp)
  | x :: xs, hf => by
    rw [List.mapM_cons]
    exact (hf x List.mem_cons_self).bind fun y hy =>
      (mapM fun x' hx' => hf x' (List.mem_cons_of_mem x hx')).bind fun ys hys =>
        Yields.pure fun y' hy' => by
          rcases List.mem_cons.1 hy' with rfl | hy'
          · exact hy
          · exact hys y' hy'

end Yields

end WalkM

theorem negate_primitives (o : Expr) (span : Span) : ∀ p ∈ (negate o span).primitives, p ∈ o.primitives := by
  intro p hp
  unfold negate at hp
  split at hp
  · simp [Expr.primitives] at hp
  · simp [Expr.primitives] at hp
  · split at hp
    · simp [Expr.primitives, hp]
    · simpa [Expr.primitives] using hp
  · simpa [Expr.primitives] using hp

theorem foldArith_primitives {op : BinOp} {l r : Expr} {span : Span} :
    ∀ e ∈ foldArith op l r span, e.primitives = [] := by
  intro e he
  unfold foldArith at he
  -- whatever the operator, a folded value is a literal
  split at he <;> dsimp only at he <;> split at he <;> cases he <;> rfl

theorem foldArith_getD_primitives (op : BinOp) (l r : Expr) (span : Span) :
    ∀ p ∈ ((foldArith op l r span).getD (.binop op l r span)).primitives,
      p ∈ l.primitives ++ r.primitives := by
  intro p hp
  rcases hf : foldArith op l r span with _ | e
  · rw [hf] at hp
    exact hp
  · rw [hf, Option.getD_some, foldArith_primitives e hf] at hp
    cases hp

mutual

theorem visitExpr_primitives :
    ∀ e : Expr, (visitExpr e).Yields fun e' => ∀ p ∈ e'.primitives, p ∈ e.primitives
  | .accessor .. | .name _ | .arg _ => by
    rw [visitExpr]
    exact (WalkM.Yields.any _).bind fun _ _ => WalkM.Yields.pure (by simp [Expr.primitives])
  | .repr p args span => by
    rw [visitExpr]
    exact (visitExprs_primitives args).bind fun args' h => WalkM.Yields.pure fun q hq => by
      rcases List.mem_cons.1 hq with rfl | hq
      · exact List.mem_cons_self
      · exact List.mem_cons_of_mem _ (h q hq)
  | .unop op operand span => by
    rw [visitExpr]
    refine (visitExpr_primitives operand).bind fun o ho => ?_
    split
    · exact WalkM.Yields.pure fun q hq => ho q (negate_primitives o span q hq)
    · split
      · exact WalkM.Yields.pure fun q hq => ho q hq
      · exact WalkM.Yields.pure ho
    · exact WalkM.Yields.pure ho
  | .binop op lhs rhs span => by
    rw [visitExpr]
    refine (visitExpr_primitives lhs).bind fun l hl => (visitExpr_primitives rhs).bind
      fun r hr => ?_
    -- whatever the operator becomes, its operands are the walked ones
    have hlr : ∀ q ∈ l.primitives ++ r.primitives, q ∈ (Expr.binop op lhs rhs span).primitives := by
      intro q hq
      rcases List.mem_append.1 hq with hq | hq
      · exact List.mem_append_left _ (hl q hq)
      · exact List.mem_append_right _ (hr q hq)
    have hrl : ∀ q ∈ r.primitives ++ l.primitives, q ∈ (Expr.binop op lhs rhs span).primitives :=
      fun q hq => hlr q (List.perm_append_comm.mem_iff.1 hq)
    split
    · split
      · refine (WalkM.Yields.any _).bind fun _ _ => ?_
        split
        · exact (WalkM.Yields.any _).bind fun _ _ => WalkM.Yields.pure hlr
        · exact WalkM.Yields.pure hlr
      · exact WalkM.Yields.pure hlr
    · exact WalkM.Yields.pure fun q hq => hlr q (foldArith_getD_primitives _ l r span q hq)
    · exact WalkM.Yields.pure fun q hq => hlr q (foldArith_getD_primitives _ l r span q hq)
    · exact WalkM.Yields.pure fun q hq => hlr q (foldArith_getD_primitives _ l r span q hq)
    · exact WalkM.Yields.pure hrl
    · exact WalkM.Yields.pure hrl
    · exact WalkM.Yields.pure hlr
    · exact WalkM.Yields.pure hlr
    · exact WalkM.Yields.pure hlr
  | .int .. | .float .. | .str .. => WalkM.Yields.pure fun _ hq => hq

theorem visitExprs_primitives :
    ∀ es : List Expr, (visitExprs es).Yields fun es' =>
      ∀ p ∈ Expr.primitivesOf es', p ∈ Expr.primitivesOf es
  | [] => WalkM.Yields.pure fun _ hq => hq
  | e :: es => by
    rw [visitExprs]
    exact (visitExpr_primitives e).bind fun e' he => (visitExprs_primitives es).bind fun es' hes =>
      WalkM.Yields.pure fun q hq => by
        rcases List.mem_append.1 hq with hq | hq
        · exact List.mem_append_left _ (he q hq)
        · exact List.mem_append_right _ (hes q hq)

end

/-- Walking an optional expression keeps a property of every primitive it applies. -/
theorem visitExprOption_keeps {Q : Primitive → Prop} {o : Option Expr}
    (h : ∀ e ∈ o, ∀ p ∈ e.primitives, Q p) :
    (visitExprOption o).Yields fun o' => ∀ e ∈ o', ∀ p ∈ e.primitives, Q p := by
  cases o with
  | none => exact WalkM.Yields.pure (by simp)
  | some e =>
    exact (visitExpr_primitives e).map fun e' he' e'' he'' p hp => by
      cases he''
      exact h e rfl p (he' p hp)

theorem visitExprs_keeps {Q : Primitive → Prop} {es : List Expr}
    (h : ∀ p ∈ Expr.primitivesOf es, Q p) :
    (visitExprs es).Yields fun es' => ∀ p ∈ Expr.primitivesOf es', Q p :=
  (visitExprs_primitives es).imp fun _ h' p hp => h p (h' p hp)

theorem expandStructAssign_catalogued {sc : Scope} {st : Stmt} {expanded : List Stmt}
    (hex : expandStructAssign sc st = some expanded) (hst : ∀ p ∈ st.primitives, p.Catalogued) :
    CataloguedBody expanded := by
  unfold expandStructAssign at hex
  split at hex
  · cases hex
  simp only [bind, Option.bind_eq_some_iff] at hex
  obtain ⟨_, -, _, -, def_, -, hex⟩ := hex
  split at hex
  · cases hex
  cases hex
  -- one field assignment per field, of an accessor or of the assigned value
  obtain ⟨-, hv, -⟩ := Stmt.catalogued_iff.1 hst
  intro s hs
  obtain ⟨f, -, rfl⟩ := List.mem_map.1 hs
  refine Stmt.catalogued_iff.2 ⟨Or.inr (Or.inr rfl), ?_, by simp, by simp, by simp,
    by simp [Expr.primitivesOf], by simp [CataloguedBody], by simp [CataloguedBody]⟩
  dsimp only
  split
  · simp [Expr.primitives]
  · exact hv

theorem visitFieldAssign_catalogued {st : Stmt} (h : ∀ p ∈ st.primitives, p.Catalogued) :
    (visitFieldAssign st).Yields fun st' => ∀ p ∈ st'.primitives, p.Catalogued := by
  obtain ⟨hc, hv, hi, ht, hco, ha, hb, he⟩ := Stmt.catalogued_iff.1 h
  unfold visitFieldAssign
  exact (visitExprOption_keeps hv).bind fun _ hv' =>
    WalkM.Yields.pure (Stmt.catalogued_iff.2 ⟨hc, hv', hi, ht, hco, ha, hb, he⟩)

mutual

theorem visitStmt_catalogued :
    ∀ st : Stmt, (∀ p ∈ st.primitives, p.Catalogued) →
      (visitStmt st).Yields fun st' => ∀ p ∈ st'.primitives, p.Catalogued
  | ⟨kind, span, name, type, isLocal, value, index, times, cond, op, body, orElse, command, proc,
      args⟩, h => by
    obtain ⟨hc, hv, hi, ht, hco, ha, hb, he⟩ := Stmt.catalogued_iff.1 h
    have hbody := visitStmts_catalogued body hb
    have helse := visitStmts_catalogued orElse he
    have hv' := visitExprOption_keeps hv
    have hi' := visitExprOption_keeps hi
    have ht' := visitExprOption_keeps ht
    have hco' := visitExprOption_keeps hco
    have ha' := visitExprs_keeps ha
    unfold visitStmt
    -- each kind walks some of its parts and keeps the others, and its command
    cases kind
    case repeatTimes =>
      exact ht'.bind fun _ ht' => hbody.bind fun _ hb' =>
        WalkM.Yields.pure (Stmt.catalogued_iff.2 ⟨hc, hv, hi, ht', hco, ha, hb', he⟩)
    case forever =>
      exact hbody.bind fun _ hb' =>
        WalkM.Yields.pure (Stmt.catalogued_iff.2 ⟨hc, hv, hi, ht, hco, ha, hb', he⟩)
    case branch =>
      exact hco'.bind fun _ hco' => hbody.bind fun _ hb' => helse.bind fun _ he' =>
        WalkM.Yields.pure (Stmt.catalogued_iff.2 ⟨hc, hv, hi, ht, hco', ha, hb', he'⟩)
    case repeatUntil =>
      exact hco'.bind fun _ hco' => hbody.bind fun _ hb' =>
        WalkM.Yields.pure (Stmt.catalogued_iff.2 ⟨hc, hv, hi, ht, hco', ha, hb', he⟩)
    case setVar | changeVar | setField =>
      exact hv'.bind fun _ hv' =>
        WalkM.Yields.pure (Stmt.catalogued_iff.2 ⟨hc, hv', hi, ht, hco, ha, hb, he⟩)
    case showData | hideData => exact WalkM.Yields.pure h
    case listAdd =>
      exact (WalkM.Yields.any _).bind fun _ _ => hv'.bind fun _ hv' =>
        WalkM.Yields.pure (Stmt.catalogued_iff.2 ⟨hc, hv', hi, ht, hco, ha, hb, he⟩)
    case listDelete =>
      exact (WalkM.Yields.any _).bind fun _ _ => hi'.bind fun _ hi' =>
        WalkM.Yields.pure (Stmt.catalogued_iff.2 ⟨hc, hv, hi', ht, hco, ha, hb, he⟩)
    case listDeleteAll => exact (WalkM.Yields.any _).bind fun _ _ => WalkM.Yields.pure h
    case listInsert | listSet | listChange =>
      exact (WalkM.Yields.any _).bind fun _ _ => hi'.bind fun _ hi' => hv'.bind fun _ hv' =>
        WalkM.Yields.pure (Stmt.catalogued_iff.2 ⟨hc, hv', hi', ht, hco, ha, hb, he⟩)
    case block =>
      -- a block that sends a message records the message first
      have hdone : ∀ args', (∀ p ∈ Expr.primitivesOf args', p.Catalogued) →
          ∀ p ∈ (Stmt.mk .block span name type isLocal value index times cond op body orElse
            command proc args').primitives, p.Catalogued :=
        fun _ ha' => Stmt.catalogued_iff.2 ⟨hc, hv, hi, ht, hco, ha', hb, he⟩
      dsimp only
      split
      · split
        · exact (WalkM.Yields.any _).bind fun _ _ => ha'.bind fun _ ha' =>
            WalkM.Yields.pure (hdone _ ha')
        · exact ha'.bind fun _ ha' => WalkM.Yields.pure (hdone _ ha')
      · exact ha'.bind fun _ ha' => WalkM.Yields.pure (hdone _ ha')
    case procCall =>
      exact (WalkM.Yields.any _).bind fun _ _ => ha'.bind fun _ ha' =>
        WalkM.Yields.pure (Stmt.catalogued_iff.2 ⟨hc, hv, hi, ht, hco, ha', hb, he⟩)

theorem visitStmts_catalogued :
    ∀ sts : List Stmt, CataloguedBody sts → (visitStmts sts).Yields CataloguedBody
  | [], _ => WalkM.Yields.pure (by simp [CataloguedBody])
  | st :: sts, h => by
    have hst := h st List.mem_cons_self
    have hrest := visitStmts_catalogued sts fun s hs => h s (List.mem_cons_of_mem st hs)
    rw [visitStmts]
    refine (WalkM.Yields.any _).bind fun sc _ => ?_
    split
    · -- a whole struct assignment becomes one assignment per field
      rename_i expanded hex
      exact (WalkM.Yields.mapM fun s hs =>
        visitFieldAssign_catalogued (expandStructAssign_catalogued hex hst s hs)).bind
        fun _ hfirst => hrest.bind fun _ hrest' =>
          WalkM.Yields.pure (List.forall_mem_append.2 ⟨hfirst, hrest'⟩)
    · exact (visitStmt_catalogued st hst).bind fun _ hst' => hrest.bind fun _ hrest' =>
        WalkM.Yields.pure (List.forall_mem_cons.2 ⟨hst', hrest'⟩)

end

/-- A loop that appends one item per element, made from the element and what the loop holds,
holds only such items. -/
theorem mem_foldl_snoc {α β γ : Type} {f : α → List β × γ → β} {g : List β × γ → α → γ} :
    ∀ {xs : List α} {init : List β × γ} {y : β},
      y ∈ (xs.foldl (fun acc x => (acc.1 ++ [f x acc], g acc x)) init).1 →
        y ∈ init.1 ∨ ∃ x ∈ xs, ∃ acc, y = f x acc
  | [], _, _, h => Or.inl h
  | x :: xs, init, y, h => by
    rw [List.foldl_cons] at h
    rcases mem_foldl_snoc h with h | ⟨x', hx', acc, rfl⟩
    · change y ∈ init.1 ++ [f x init] at h
      rcases List.mem_append.1 h with h | h
      · exact Or.inl h
      · exact Or.inr ⟨x, List.mem_cons_self, init, List.mem_singleton.1 h⟩
    · exact Or.inr ⟨x', List.mem_cons_of_mem x hx', acc, rfl⟩

theorem Sprite.bodies_declareAssigned (t : Sprite) (globals : List Var) :
    ∀ b ∈ (t.declareAssigned globals).bodies, b ∈ t.bodies := by
  intro b hb
  unfold Sprite.declareAssigned at hb
  dsimp only at hb
  rcases Sprite.mem_bodies.1 hb with hb | hb | ⟨q, hq, rfl⟩
  · exact Sprite.mem_bodies.2 (Or.inl hb)
  · exact Sprite.mem_bodies.2 (Or.inr (Or.inl hb))
  · obtain hq | ⟨q₀, hq₀, _, rfl⟩ := mem_foldl_snoc hq
    · cases hq
    · exact Sprite.mem_bodies.2 (Or.inr (Or.inr ⟨q₀, List.mem_mergeSort.1 hq₀, rfl⟩))

theorem Sprite.bodies_resolve (t : Sprite) (stage : Option Sprite) :
    ∀ b ∈ (t.resolve stage).1.bodies, ∃ b₀ ∈ t.bodies, ∃ sc w, b = (walkBody sc w b₀).1 := by
  intro b hb
  unfold Sprite.resolve at hb
  dsimp only at hb
  rcases Sprite.mem_bodies.1 hb with ⟨ev, hev, rfl⟩ | ⟨h, hh, rfl⟩ | ⟨q, hq, rfl⟩
  · obtain hev | ⟨ev₀, hev₀, _, rfl⟩ := mem_foldl_snoc hev
    · cases hev
    · exact ⟨ev₀.body, Sprite.mem_bodies.2 (Or.inl ⟨ev₀, hev₀, rfl⟩), _, _, rfl⟩
  · obtain hh | ⟨h₀, hh₀, _, rfl⟩ := mem_foldl_snoc hh
    · cases hh
    · exact ⟨h₀.body, Sprite.mem_bodies.2 (Or.inr (Or.inl ⟨h₀, List.mem_mergeSort.1 hh₀, rfl⟩)),
        _, _, rfl⟩
  · obtain hq | ⟨q₀, hq₀, _, rfl⟩ := mem_foldl_snoc hq
    · cases hq
    · exact ⟨q₀.body, Sprite.mem_bodies.2 (Or.inr (Or.inr ⟨q₀, List.mem_mergeSort.1 hq₀, rfl⟩)),
        _, _, rfl⟩

theorem Project.targets_declareAssigned (p : Project) :
    ∀ t ∈ p.declareAssigned.targets, ∃ t₀ ∈ p.targets, ∃ globals, t = t₀.declareAssigned globals := by
  intro t ht
  unfold Project.declareAssigned Project.targets at ht
  rcases List.mem_cons.1 ht with rfl | ht
  · exact ⟨p.stage, List.mem_cons_self, _, rfl⟩
  · obtain ⟨t₀, ht₀, rfl⟩ := List.mem_map.1 ht
    exact ⟨t₀, List.mem_cons_of_mem _ ht₀, _, rfl⟩

theorem Project.targets_resolve (p : Project) :
    ∀ t ∈ p.resolve.1.targets, ∃ t₀ ∈ p.targets, ∃ stage, t = (t₀.resolve stage).1 := by
  intro t ht
  unfold Project.resolve Project.targets at ht
  dsimp only at ht
  rcases List.mem_cons.1 ht with rfl | ht
  · exact ⟨p.stage, List.mem_cons_self, _, rfl⟩
  · obtain ht | ⟨t₀, ht₀, _, rfl⟩ := mem_foldl_snoc ht
    · cases ht
    · exact ⟨t₀, List.mem_cons_of_mem _ ht₀, _, rfl⟩
theorem walkBody_catalogued {sc : Scope} {w : Walk} {body : List Stmt} (h : CataloguedBody body) :
    CataloguedBody (walkBody sc w body).1 :=
  visitStmts_catalogued body h sc w

theorem Sprite.Catalogued.declareAssigned {t : Sprite} (h : t.Catalogued) (globals : List Var) :
    (t.declareAssigned globals).Catalogued :=
  fun b hb => h b (Sprite.bodies_declareAssigned t globals b hb)

theorem Sprite.Catalogued.resolve {t : Sprite} (h : t.Catalogued) (stage : Option Sprite) :
    (t.resolve stage).1.Catalogued := by
  intro b hb
  obtain ⟨b₀, hb₀, sc, w, rfl⟩ := Sprite.bodies_resolve t stage b hb
  exact walkBody_catalogued (h b₀ hb₀)

/-- The targets of a project built from a dump and analysed apply catalogue primitives only, so
each of their primitives can be written. -/
theorem analysed_targets_catalogued {doc : Dump.Document} {origin : String} {p : Project}
    {fs : FileSet} (h : Project.build doc origin = .ok (p, fs)) :
    ∀ t ∈ p.declareAssigned.resolve.1.targets, t.Catalogued := by
  intro t ht
  obtain ⟨t₁, ht₁, stage, rfl⟩ := Project.targets_resolve _ t ht
  obtain ⟨t₀, ht₀, globals, rfl⟩ := Project.targets_declareAssigned p t₁ ht₁
  exact ((build_catalogued h t₀ ht₀).declareAssigned globals).resolve stage

theorem analysed_targets_writable {doc : Dump.Document} {origin : String} {p : Project}
    {fs : FileSet} (h : Project.build doc origin = .ok (p, fs)) :
    ∀ t ∈ p.declareAssigned.resolve.1.targets, t.Writable := fun t ht =>
  (analysed_targets_catalogued h t ht).writable

end BlockGraph
