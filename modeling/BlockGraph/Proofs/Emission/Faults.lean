import BlockGraph.Proofs.Emission.FirstError
import BlockGraph.Proofs.Emission.Errors
import BlockGraph.Proofs.Program.Sourced
/-!
# When generation fails

Generating an analysed project fails exactly when a target reaches a construct emission cannot
write or has too many scripts to place; the analyses and the catalogue close every other way.
-/

namespace BlockGraph

open Graph

def Expr.ArityFault : Expr → Prop
  | .repr p args _ => args.length ≠ p.args.length
  | _ => False

/-- The operators that cannot change a list item: those with no block of their own, and `[]`,
which picks a letter. -/
def unchangingOperators : List BinOp := [.le, .ge, .ne, .floorDiv, .letterOf]

example : unchangingOperators.map BinOp.symbol = ["<=", ">=", "!=", "//", "[]"] := rfl

/-- A statement emission cannot write: a block statement given another number of arguments
than its command takes, or a list item changed by an operator that cannot change it. -/
def Stmt.Fault (st : Stmt) : Prop :=
  (st.kind = .block ∧ st.args.length ≠ st.command.args.length) ∨
    (st.kind = .listChange ∧ ∃ o ∈ st.op, o ∈ unchangingOperators)

def Sprite.reachedStmts (t : Sprite) : List Stmt := t.bodies.flatMap Stmt.chainReached

def Sprite.reachedExprs (t : Sprite) : List Expr := t.reachedStmts.flatMap (Stmt.writtenExprs t)

/-- Whether emission reaches, in a script of the target, a construct it cannot write. -/
def Sprite.ReachesFault (t : Sprite) : Prop :=
  (∃ st ∈ t.reachedStmts, st.Fault) ∨ ∃ e ∈ t.reachedExprs, e.ArityFault

/-- Whether emitting the target fails: it reaches a construct emission cannot write, or it has
so many scripts that the place of the last does not fit a 32-bit coordinate. -/
def Sprite.Faulty (t : Sprite) : Prop := t.ReachesFault ∨ 5368711 ≤ t.scriptCount

theorem reporters_opcode : ∀ p ∈ reporters, p.opcode ≠ "" := by decide

theorem commands_opcode : ∀ p ∈ commands, p.opcode ≠ "" := by decide

theorem hats_opcode : ∀ h ∈ hats, h.opcode ≠ "" := by decide

/-! ## Expressions -/

theorem Primitive.applyError_internal {p : Primitive} {given : Nat} {span : Span} {x : EmitError}
    (h : p.applyError given span = some x) : ∃ ie, x = .internal ie := by
  unfold Primitive.applyError at h
  (repeat' split at h) <;>
    simp only [Option.some_or, Option.none_or, Option.some.injEq, reduceCtorEq] at h <;>
    exact ⟨_, h.symm⟩

theorem Expr.ownError_internal {e : Expr} {x : EmitError} (h : e.ownError = some x) :
    ∃ ie, x = .internal ie := by
  cases e with
  | repr p args span => exact Primitive.applyError_internal h
  | unop op o span =>
    simp only [Expr.ownError, UnOp.writeError] at h
    split at h
    · exact ⟨_, (Option.some.inj h).symm⟩
    · cases h
  | binop op l r span =>
    simp only [Expr.ownError, BinOp.writeError] at h
    split at h
    · exact ⟨_, (Option.some.inj h).symm⟩
    · cases h
  | int | float | str | name | arg | accessor => cases h

theorem Primitive.applyError_isSome {p : Primitive} {given : Nat} {span : Span} :
    (p.applyError given span).isSome ↔ p.opcode = "" ∨ given ≠ p.args.length := by
  unfold Primitive.applyError
  by_cases hop : p.opcode = "" <;> by_cases hargs : given = p.args.length <;> simp [hop, hargs]

theorem UnOp.writeError_eq_none {op : UnOp} (h : op.isSugar = false) (span : Span) :
    op.writeError span = none :=
  if_neg (UnOp.not_unwritable h)

theorem BinOp.writeError_eq_none {op : BinOp} (h : op.isSugar = false) (span : Span) :
    op.writeError span = none :=
  if_neg (BinOp.not_unwritable h)

theorem Expr.ownError_isSome_iff {e : Expr} (hn : e.normal = true)
    (hp : ∀ p ∈ e.primitives, p ∈ reporters) : e.ownError.isSome ↔ e.ArityFault := by
  cases e with
  | repr p args span =>
    have hop := reporters_opcode p (hp p (by simp [Expr.primitives]))
    simp only [Expr.ownError, Expr.ArityFault, Primitive.applyError_isSome, hop, false_or]
  | unop op o span =>
    simp [Expr.ownError, Expr.ArityFault, UnOp.writeError_eq_none (Expr.normal_unop hn).1]
  | binop op l r span =>
    simp [Expr.ownError, Expr.ArityFault, BinOp.writeError_eq_none (Expr.normal_binop hn).1]
  | int | float | str | name | arg | accessor => simp [Expr.ownError, Expr.ArityFault]

mutual

theorem Expr.written_sub : ∀ e : Expr, ∀ e' ∈ e.written,
    (e.normal = true → e'.normal = true) ∧ ∀ p ∈ e'.primitives, p ∈ e.primitives
  | .repr p args span, e', h => by
    rw [Expr.written, List.mem_cons] at h
    rcases h with rfl | h
    · exact ⟨id, fun _ hq => hq⟩
    · obtain ⟨hn, hq⟩ := Expr.writtenArgs_sub p _ p.args args e' h
      exact ⟨fun hn' => hn (by simpa [Expr.normal] using hn'),
        fun q hq' => List.mem_cons_of_mem _ (hq q hq')⟩
  | .unop op o span, e', h => by
    rw [Expr.written, List.mem_cons] at h
    rcases h with rfl | h
    · exact ⟨id, fun _ hq => hq⟩
    · obtain ⟨hn, hq⟩ := Expr.written_sub o e' h
      exact ⟨fun hn' => hn (Expr.normal_unop hn').2, fun q hq' => by simpa [Expr.primitives] using hq q hq'⟩
  | .binop op l r span, e', h => by
    rw [Expr.written, List.mem_cons, List.mem_append] at h
    rcases h with rfl | h | h
    · exact ⟨id, fun _ hq => hq⟩
    · obtain ⟨hn, hq⟩ := Expr.written_sub l e' h
      exact ⟨fun hn' => hn (Expr.normal_binop hn').2.1,
        fun q hq' => List.mem_append_left _ (hq q hq')⟩
    · obtain ⟨hn, hq⟩ := Expr.written_sub r e' h
      exact ⟨fun hn' => hn (Expr.normal_binop hn').2.2,
        fun q hq' => List.mem_append_right _ (hq q hq')⟩
  | .int .., e', h | .float .., e', h | .str .., e', h | .name _, e', h | .arg _, e', h
  | .accessor .., e', h => by
    simp only [Expr.written, List.mem_singleton] at h
    subst h
    exact ⟨id, fun _ hq => hq⟩

theorem Expr.writtenArgs_sub (p : Primitive) (used : Bool) :
    ∀ (slots : List String) (args : List Expr), ∀ e' ∈ Expr.writtenArgs p used slots args,
      (Expr.allNormal args = true → e'.normal = true) ∧ ∀ q ∈ e'.primitives, q ∈ Expr.primitivesOf args
  | slot :: slots, e :: es, e', h => by
    rw [Expr.writtenArgs, List.mem_append] at h
    rcases h with h | h
    · split at h
      · cases h
      · obtain ⟨hn, hq⟩ := Expr.written_sub e e' h
        exact ⟨fun hn' => hn (by simp only [Expr.allNormal, Bool.and_eq_true] at hn'; exact hn'.1),
          fun q hq' => List.mem_append_left _ (hq q hq')⟩
    · obtain ⟨hn, hq⟩ := Expr.writtenArgs_sub p used slots es e' h
      exact ⟨fun hn' => hn (by simp only [Expr.allNormal, Bool.and_eq_true] at hn'; exact hn'.2),
        fun q hq' => List.mem_append_right _ (hq q hq')⟩
  | [], _, e', h => by simp [Expr.writtenArgs] at h
  | _ :: _, [], e', h => by simp [Expr.writtenArgs] at h

end

/-- In what emission writes for normal expressions whose reporters are from the catalogue, a
block fails to be written exactly when a reporter is given a wrong number of arguments. -/
theorem Expr.written_faults {es : List Expr} (hn : ∀ e ∈ es, e.normal = true)
    (hp : ∀ e ∈ es, ∀ p ∈ e.primitives, p ∈ reporters) :
    ∀ e' ∈ es.flatMap Expr.written, e'.ownError.isSome ↔ e'.ArityFault := by
  intro e' he'
  obtain ⟨e, he, he'⟩ := List.mem_flatMap.1 he'
  obtain ⟨hn', hp'⟩ := Expr.written_sub e e' he'
  exact Expr.ownError_isSome_iff (hn' (hn e he)) fun p hq => hp e he p (hp' p hq)

/-! ## Statements -/

theorem Stmt.ownError_internal {st : Stmt} {x : EmitError} (h : st.ownError = some x) :
    ∃ ie, x = .internal ie := by
  unfold Stmt.ownError at h
  split at h
  · exact Primitive.applyError_internal h
  · unfold listChangeError at h
    repeat' split at h
    all_goals first | exact ⟨_, (Option.some.inj h).symm⟩ | cases h
  · cases h

theorem Stmt.localError_internal {t : Sprite} {st : Stmt} {x : EmitError}
    (h : st.localError t = some x) : ∃ ie, x = .internal ie := by
  rcases Option.or_eq_some_iff.1 h with h | ⟨-, h⟩
  · exact Stmt.ownError_internal h
  · obtain ⟨e, -, he⟩ := List.exists_of_findSome?_eq_some h
    exact Expr.ownError_internal he

theorem listChangeError_isSome {o : BinOp} {span : Span} :
    (listChangeError (some o) span).isSome ↔ o ∈ unchangingOperators := by
  cases o <;> simp [listChangeError, unchangingOperators, BinOp.isSugar, BinOp.opcode] <;> decide

theorem Stmt.ownError_isSome_iff {st : Stmt} (hs : st.Sourced) : st.ownError.isSome ↔ st.Fault := by
  obtain ⟨-, -, -, -, -, hblock, hlist, -, -⟩ := Stmt.sourced_iff.1 hs
  unfold Stmt.ownError Stmt.Fault
  split
  · rename_i hk
    rw [Primitive.applyError_isSome]
    simp [hk, commands_opcode _ (hblock hk)]
  · rename_i hk
    obtain ⟨o, ho⟩ := Option.isSome_iff_exists.1 (hlist hk)
    rw [ho, listChangeError_isSome]
    simp [hk]
  · simp_all

theorem Expr.written_option_faults {o : Option Expr} (hn : o.all Expr.normal = true)
    (hp : ∀ e ∈ o, ∀ p ∈ e.primitives, p ∈ reporters) :
    ∀ e' ∈ o.toList.flatMap Expr.written, e'.ownError.isSome ↔ e'.ArityFault := by
  cases o with
  | none => simp
  | some e => exact Expr.written_faults (by simpa using hn) (by simpa using hp)

theorem Stmt.writtenExprs_faults {t : Sprite} {st : Stmt} (hn : st.normal = true)
    (hs : st.Sourced) : ∀ e ∈ st.writtenExprs t, e.ownError.isSome ↔ e.ArityFault := by
  obtain ⟨kind, span, name, type, isLocal, value, index, times, cond, op, body, orElse, command,
    proc, args⟩ := st
  obtain ⟨hv, hi, ht, hc, ha, -, -, -, -⟩ := Stmt.sourced_iff.1 hs
  cases kind <;> simp only [Stmt.normal, Bool.and_eq_true] at hn <;>
    simp only [Stmt.writtenExprs, List.flatMap_append, List.forall_mem_append]
  case repeatTimes => exact Expr.written_option_faults hn.1 ht
  case branch => exact Expr.written_option_faults hn.1.1 hc
  case repeatUntil => exact Expr.written_option_faults hn.1 hc
  case setVar | changeVar | listAdd | setField => exact Expr.written_option_faults hn hv
  case listDelete => exact Expr.written_option_faults hn hi
  case listInsert | listSet =>
    exact ⟨Expr.written_option_faults hn.1 hi, Expr.written_option_faults hn.2 hv⟩
  case listChange =>
    -- the index is written twice, once under each block that reads it
    exact ⟨⟨Expr.written_option_faults hn.1 hi, Expr.written_option_faults hn.1 hi⟩,
      Expr.written_option_faults hn.2 hv⟩
  case block =>
    intro e he
    obtain ⟨hn', hp'⟩ := Expr.writtenArgs_sub _ _ _ _ e he
    exact Expr.ownError_isSome_iff (hn' hn) fun p hp => ha p (hp' p hp)
  case procCall =>
    -- a call writes the arguments its procedure declares, and none of a procedure not found
    rw [Expr.allNormal_iff] at hn
    split
    · exact Expr.written_faults (fun e he => hn e (List.mem_of_mem_take he))
        fun e he p hp => ha p (Expr.mem_primitivesOf.2 ⟨e, List.mem_of_mem_take he, hp⟩)
    · simp
  all_goals simp

theorem Stmt.localError_isSome_iff {t : Sprite} {st : Stmt} (hn : st.normal = true)
    (hs : st.Sourced) :
    (st.localError t).isSome ↔ st.Fault ∨ ∃ e ∈ st.writtenExprs t, e.ArityFault := by
  rw [Stmt.localError, Option.isSome_or, Bool.or_eq_true, Stmt.ownError_isSome_iff hs,
    List.findSome?_isSome_iff]
  refine or_congr_right (exists_congr fun e => and_congr_right fun he => ?_)
  exact Stmt.writtenExprs_faults hn hs e he

theorem Stmt.mem_reached_of_normal {st st' : Stmt} (hn : st.normal = true) (h : st' ∈ st.reached) :
    st' = st ∨ (Stmt.allNormal st.body = true ∧ st' ∈ Stmt.chainReached st.body) ∨
      (Stmt.allNormal st.orElse = true ∧ st' ∈ Stmt.chainReached st.orElse) := by
  obtain ⟨kind, _, _, _, _, _, _, _, _, _, body, orElse, _, _, _⟩ := st
  cases kind <;> simp only [Stmt.normal, Bool.and_eq_true] at hn <;>
    simp only [Stmt.reached, List.mem_cons, List.mem_append, List.not_mem_nil, or_false] at h
  all_goals tauto

mutual

theorem Stmt.reached_analysed : ∀ st : Stmt, st.normal = true → st.Sourced →
    ∀ st' ∈ st.reached, st'.normal = true ∧ st'.Sourced
  | st@⟨_, _, _, _, _, _, _, _, _, _, body, orElse, _, _, _⟩, hn, hs, st', h => by
    obtain ⟨-, -, -, -, -, -, -, hbody, helse⟩ := Stmt.sourced_iff.1 hs
    rcases Stmt.mem_reached_of_normal hn h with h | ⟨hnb, h⟩ | ⟨hne, h⟩
    · subst h
      exact ⟨hn, hs⟩
    · exact Stmt.chainReached_analysed body hnb hbody st' h
    · exact Stmt.chainReached_analysed orElse hne helse st' h

theorem Stmt.chainReached_analysed : ∀ sts : List Stmt, Stmt.allNormal sts = true →
    Stmt.AllSourced sts → ∀ st' ∈ Stmt.chainReached sts, st'.normal = true ∧ st'.Sourced
  | [], _, _, st', h => by simp [Stmt.chainReached] at h
  | st :: sts, hn, hs, st', h => by
    simp only [Stmt.allNormal, Bool.and_eq_true] at hn
    simp only [Stmt.AllSourced] at hs
    rw [Stmt.chainReached, List.mem_append] at h
    rcases h with h | h
    · exact Stmt.reached_analysed st hn.1 hs.1 st' h
    · exact Stmt.chainReached_analysed sts hn.2 hs.2 st' h

end

theorem Stmt.chainError_isSome_iff {t : Sprite} {sts : List Stmt} (hn : Stmt.allNormal sts = true)
    (hs : Stmt.AllSourced sts) :
    (Stmt.chainError t sts).isSome ↔
      ∃ st ∈ Stmt.chainReached sts, st.Fault ∨ ∃ e ∈ st.writtenExprs t, e.ArityFault := by
  rw [Stmt.chainError, List.findSome?_isSome_iff]
  refine exists_congr fun st => and_congr_right fun hst => ?_
  obtain ⟨hn', hs'⟩ := Stmt.chainReached_analysed sts hn hs st hst
  exact Stmt.localError_isSome_iff hn' hs'

theorem Stmt.chainError_internal {t : Sprite} {sts : List Stmt} {x : EmitError}
    (h : Stmt.chainError t sts = some x) : ∃ ie, x = .internal ie := by
  obtain ⟨st, -, hst⟩ := List.exists_of_findSome?_eq_some h
  exact Stmt.localError_internal hst

/-! ## Scripts -/

section Steps

variable {γ : Type} {err : γ → Nat → Option EmitError} {n : Nat}

theorem seq_shift (k n : Nat) : ∀ i, k + n + n * i = k + n * (i + 1) := fun i => by
  rw [Nat.mul_succ, Nat.add_assoc, Nat.add_comm n]

theorem seqError_isSome_iff : ∀ {xs : List γ} {k : Nat},
    (seqError err n xs k).isSome ↔ ∃ (i : Nat) (h : i < xs.length), (err xs[i] (k + n * i)).isSome
  | [], k => by simp [seqError]
  | x :: xs, k => by
    have hshift := seq_shift k n
    rw [seqError, Option.isSome_or, Bool.or_eq_true, seqError_isSome_iff]
    constructor
    · rintro (h | ⟨i, hi, h⟩)
      · exact ⟨0, by simp, by simpa using h⟩
      · exact ⟨i + 1, by simpa using hi, by simpa [hshift] using h⟩
    · rintro ⟨_ | i, hi, h⟩
      · exact .inl (by simpa using h)
      · exact .inr ⟨i, by simpa using hi, by simpa [hshift] using h⟩

theorem seqError_eq_some : ∀ {xs : List γ} {k : Nat} {x : EmitError},
    seqError err n xs k = some x →
      ∃ (i : Nat) (h : i < xs.length), err xs[i] (k + n * i) = some x ∧
        ∀ (j : Nat) (hj : j < i), err xs[j] (k + n * j) = none
  | [], k, x, h => by simp [seqError] at h
  | y :: xs, k, x, h => by
    have hshift := seq_shift k n
    rw [seqError] at h
    rcases Option.or_eq_some_iff.1 h with h | ⟨hy, h⟩
    · exact ⟨0, by simp, by simpa using h, fun j hj => absurd hj (Nat.not_lt_zero j)⟩
    · obtain ⟨i, hi, hx, hfirst⟩ := seqError_eq_some h
      refine ⟨i + 1, by simpa using hi, by simpa [hshift] using hx, ?_⟩
      rintro (_ | j) hj
      · simpa using hy
      · simpa [hshift] using hfirst j (by omega)

end Steps

theorem placeError_isSome_iff {k : Nat} : (placeError k).isSome ↔ 5368710 ≤ k := by
  unfold placeError maxPlace
  split <;> simp <;> omega

theorem placeError_eq_some {k : Nat} {x : EmitError} (h : placeError k = some x) :
    x = .layout (k * 400) := by
  unfold placeError at h
  split at h
  · exact (Option.some.inj h).symm
  · cases h

/-- A target as building and the analyses leave it: its bodies are normal and sourced, and the
hats of its events are from the catalogue. -/
structure Sprite.Analysed (t : Sprite) : Prop where
  bodies : ∀ b ∈ t.bodies, Stmt.allNormal b = true ∧ Stmt.AllSourced b
  hats : ∀ ev ∈ t.events, ev.hat ∈ hats

theorem Sprite.length_scriptBodies (t : Sprite) : t.scriptBodies.length = t.scriptCount := by
  simp [Sprite.scriptBodies, Sprite.scriptCount, Sprite.sortedHandlers, Sprite.sortedProcs,
    List.length_mergeSort, Nat.add_assoc]

theorem Sprite.mem_scriptBodies {t : Sprite} (ht : t.Analysed) {s : Option EmitError × List Stmt}
    (hs : s ∈ t.scriptBodies) : s.1 = none ∧ s.2 ∈ t.bodies := by
  simp only [Sprite.scriptBodies, Sprite.sortedHandlers, Sprite.sortedProcs, List.mem_append,
    List.mem_map, List.mem_mergeSort] at hs
  rcases hs with (⟨ev, hev, rfl⟩ | ⟨h, hh, rfl⟩) | ⟨q, hq, rfl⟩
  · have hop := hats_opcode _ (ht.hats ev hev)
    exact ⟨by simp [Event.hatError, hop], Sprite.mem_bodies.2 (.inl ⟨ev, hev, rfl⟩)⟩
  · exact ⟨rfl, Sprite.mem_bodies.2 (.inr (.inl ⟨h, hh, rfl⟩))⟩
  · exact ⟨rfl, Sprite.mem_bodies.2 (.inr (.inr ⟨q, hq, rfl⟩))⟩

theorem Sprite.exists_scriptBody {t : Sprite} {b : List Stmt} (hb : b ∈ t.bodies) :
    ∃ s ∈ t.scriptBodies, s.2 = b := by
  simp only [Sprite.scriptBodies, Sprite.sortedHandlers, Sprite.sortedProcs, List.mem_append,
    List.mem_map, List.mem_mergeSort]
  rcases Sprite.mem_bodies.1 hb with ⟨ev, hev, rfl⟩ | ⟨h, hh, rfl⟩ | ⟨q, hq, rfl⟩
  · exact ⟨_, .inl (.inl ⟨ev, hev, rfl⟩), rfl⟩
  · exact ⟨_, .inl (.inr ⟨h, hh, rfl⟩), rfl⟩
  · exact ⟨_, .inr ⟨q, hq, rfl⟩, rfl⟩

theorem Sprite.reachesFault_iff {t : Sprite} (ht : t.Analysed) :
    t.ReachesFault ↔ ∃ b ∈ t.bodies, (Stmt.chainError t b).isSome := by
  simp only [Sprite.ReachesFault, Sprite.reachedExprs, Sprite.reachedStmts, List.mem_flatMap]
  constructor
  · rintro (⟨st, ⟨b, hb, hst⟩, hf⟩ | ⟨e, ⟨st, ⟨b, hb, hst⟩, he⟩, hf⟩) <;>
      refine ⟨b, hb, (Stmt.chainError_isSome_iff (ht.bodies b hb).1 (ht.bodies b hb).2).2 ?_⟩
    · exact ⟨st, hst, .inl hf⟩
    · exact ⟨st, hst, .inr ⟨e, he, hf⟩⟩
  · rintro ⟨b, hb, h⟩
    obtain ⟨st, hst, hf | ⟨e, he, hf⟩⟩ :=
      (Stmt.chainError_isSome_iff (ht.bodies b hb).1 (ht.bodies b hb).2).1 h
    · exact .inl ⟨st, ⟨b, hb, hst⟩, hf⟩
    · exact .inr ⟨e, ⟨st, ⟨b, hb, hst⟩, he⟩, hf⟩

theorem Sprite.scriptsError_isSome_iff {t : Sprite} (ht : t.Analysed) :
    (t.scriptsError 0).isSome ↔ t.Faulty := by
  rw [Sprite.scriptsError, seqError_isSome_iff, Sprite.Faulty, Sprite.reachesFault_iff ht,
    ← Sprite.length_scriptBodies]
  constructor
  · rintro ⟨i, hi, h⟩
    obtain ⟨hhat, hbody⟩ := Sprite.mem_scriptBodies ht (List.getElem_mem hi)
    rw [hhat, Option.none_or, Option.isSome_or, Bool.or_eq_true, Nat.zero_add, Nat.one_mul,
      placeError_isSome_iff] at h
    rcases h with h | h
    · exact .inr (by omega)
    · exact .inl ⟨_, hbody, h⟩
  · rintro (⟨b, hb, h⟩ | h)
    · obtain ⟨s, hs, rfl⟩ := Sprite.exists_scriptBody hb
      obtain ⟨i, hi, rfl⟩ := List.getElem_of_mem hs
      refine ⟨i, hi, ?_⟩
      rw [(Sprite.mem_scriptBodies ht hs).1, Option.none_or, Option.isSome_or, h, Bool.or_true]
    · refine ⟨5368710, by omega, ?_⟩
      rw [Option.isSome_or, Option.isSome_or, placeError_isSome_iff.2 (by omega), Bool.true_or,
        Bool.or_true]

/-- The error the scripts of an analysed target stop with: internal when it has too few scripts
to misplace one, and otherwise, when no fault is reached, that of placing script 5,368,711. -/
theorem Sprite.scriptsError_eq_some {t : Sprite} (ht : t.Analysed) {x : EmitError}
    (h : t.scriptsError 0 = some x) :
    (t.scriptCount < 5368711 → ∃ ie, x = .internal ie) ∧
      (¬ t.ReachesFault → x = .layout 2147484000) := by
  obtain ⟨i, hi, hx, hfirst⟩ := seqError_eq_some h
  obtain ⟨hhat, hbody⟩ := Sprite.mem_scriptBodies ht (List.getElem_mem hi)
  rw [hhat, Option.none_or, Nat.zero_add, Nat.one_mul] at hx
  rw [Sprite.length_scriptBodies] at hi
  rcases Option.or_eq_some_iff.1 hx with hp | ⟨-, hc⟩
  · -- script `i` is the first that cannot be placed, so it follows exactly 5,368,710 others
    have hi' : i = 5368710 := by
      have hle := placeError_isSome_iff.1 (Option.isSome_of_eq_some hp)
      refine Nat.le_antisymm (Nat.not_lt.1 fun hlt => ?_) hle
      have hj := (Option.or_eq_none_iff.1 (Option.or_eq_none_iff.1 (hfirst 5368710 hlt)).2).1
      have hplace := placeError_isSome_iff.2 (Nat.le_refl 5368710)
      rw [Nat.zero_add, Nat.one_mul] at hj
      rw [hj] at hplace
      cases hplace
    subst hi'
    exact ⟨fun hlt => absurd hi (by omega), fun _ => placeError_eq_some hp⟩
  · refine ⟨fun _ => Stmt.chainError_internal hc, fun hno => absurd ?_ hno⟩
    exact (Sprite.reachesFault_iff ht).2 ⟨_, hbody, Option.isSome_of_eq_some hc⟩

/-! ## Generation -/

namespace Graph

theorem analysed_targets_analysed {doc : Dump.Document} {origin : String} {p : Project}
    {fs : FileSet} (h : Project.build doc origin = .ok (p, fs)) :
    ∀ t ∈ p.declareAssigned.resolve.1.targets, t.Analysed := fun t ht =>
  ⟨(analysed_targets_sourced h t ht).1, (analysed_targets_sourced h t ht).2⟩

/-- Generating analysed targets fails exactly when one of them is faulty. It fails at the first
faulty target, after completing the targets before it, with an internal error when that target
has too few scripts to misplace one, and with the place of its script 5,368,711 when it reaches
no fault. -/
theorem generate_fails_iff_faulty {q : Project} (hq : ∀ t ∈ q.targets, t.Analysed) :
    ((generate q).failure?.isSome ↔ ∃ t ∈ q.targets, t.Faulty) ∧
    ∀ name e, (generate q).failure? = some (name, e) →
      ∃ before t after, q.targets = before ++ t :: after ∧ t.name = name ∧ t.Faulty ∧
        (∀ t' ∈ before, ¬ t'.Faulty) ∧ (generate q).targetsDone = before.length ∧
        (t.scriptCount < 5368711 → ∃ ie, e = .internal ie) ∧
        (¬ t.ReachesFault → e = .layout 2147484000) := by
  refine ⟨?_, fun name e h => ?_⟩
  · rw [generate_failure?, List.findSome?_isSome_iff]
    refine exists_congr fun t => and_congr_right fun ht => ?_
    rw [Sprite.failure, Option.isSome_map, Sprite.scriptsError_isSome_iff (hq t ht)]
  · rw [generate_failure?, List.findSome?_eq_some_iff] at h
    obtain ⟨before, t, after, hts, hfail, hbefore⟩ := h
    have hA : ∀ t' ∈ before ++ t :: after, t'.Analysed := hts ▸ hq
    have htA := hA t (by simp)
    obtain ⟨x, hx, hxe⟩ := Option.map_eq_some_iff.1 hfail
    obtain ⟨rfl, rfl⟩ := Prod.mk.inj hxe
    -- the targets before the failing one end normally
    have hnone : ∀ t' ∈ before, t'.scriptsError 0 = none := fun t' h' =>
      Option.map_eq_none_iff.1 (hbefore t' h')
    refine ⟨before, t, after, hts, rfl, (Sprite.scriptsError_isSome_iff htA).1
      (Option.isSome_of_eq_some hx), fun t' h' hf => ?_, ?_, Sprite.scriptsError_eq_some htA hx⟩
    · have hs := (Sprite.scriptsError_isSome_iff (hA t' (List.mem_append_left _ h'))).2 hf
      rw [hnone t' h'] at hs
      cases hs
    · rw [generate_targetsDone, hts, List.takeWhile_append_of_pos fun t' h' => by simp [hnone t' h'],
        List.takeWhile_cons_of_neg (by simp [hx]), List.append_nil]

/-- Generating a project built from a dump and analysed fails exactly when some target is
faulty: it reaches a block statement or a reporter given a wrong number of arguments, or a list
item changed by an operator that cannot change it, or it has at least 5,368,711 scripts.
Generation stops at the first faulty target, after completing those before it; the error is
internal when the target has fewer scripts, and the place of script 5,368,711 when it reaches
no fault. -/
theorem compiled_generation_fails_iff_faulty {doc : Dump.Document} {origin : String} {p : Project}
    {fs : FileSet} (hbuild : Project.build doc origin = .ok (p, fs)) (limit : Int) :
    ((Compilation.run p fs limit).generation.failure?.isSome ↔
      ∃ t ∈ (Compilation.run p fs limit).project.targets, t.Faulty) ∧
    ∀ name e, (Compilation.run p fs limit).generation.failure? = some (name, e) →
      ∃ before t after, (Compilation.run p fs limit).project.targets = before ++ t :: after ∧
        t.name = name ∧ t.Faulty ∧ (∀ t' ∈ before, ¬ t'.Faulty) ∧
        (Compilation.run p fs limit).generation.targetsDone = before.length ∧
        (t.scriptCount < 5368711 → ∃ ie, e = .internal ie) ∧
        (¬ t.ReachesFault → e = .layout 2147484000) := by
  rw [Compilation.generation_run, Compilation.project_run]
  exact generate_fails_iff_faulty (analysed_targets_analysed hbuild)

/-- A dump whose stage repeats a change of its variable and whose sprite `dog` says, forever,
without the text `say` takes. -/
def faultyScripts : Dump.Document where
  stage :=
    { vars := [{ name := "score" }]
      events := [
        { hat := "flag"
          body := [
            { kind := "repeat"
              times := some { kind := "int", int := 3 }
              body := [{ kind := "change_var", name := "score",
                         value := some { kind := "int", int := 1 } }] }] }] }
  sprites := [("dog",
    { events := [
        { hat := "flag"
          body := [{ kind := "forever", body := [{ kind := "block", block := "say" }] }] }] })]

theorem compiled_generation_fails_iff_faulty_arity : ∃ p fs,
    Project.build faultyScripts "game.json" = .ok (p, fs) ∧
    (Compilation.run p fs 0).generation.failure?.isSome = true ∧
    (Compilation.run p fs 0).generation.targetsDone = 1 ∧
    (((Compilation.run p fs 0).generation.failure?.isSome ↔
      ∃ t ∈ (Compilation.run p fs 0).project.targets, t.Faulty) ∧
    ∀ name e, (Compilation.run p fs 0).generation.failure? = some (name, e) →
      ∃ before t after, (Compilation.run p fs 0).project.targets = before ++ t :: after ∧
        t.name = name ∧ t.Faulty ∧ (∀ t' ∈ before, ¬ t'.Faulty) ∧
        (Compilation.run p fs 0).generation.targetsDone = before.length ∧
        (t.scriptCount < 5368711 → ∃ ie, e = .internal ie) ∧
        (¬ t.ReachesFault → e = .layout 2147484000)) := by
  -- the stage is written, then `dog` stops the generation
  have hrun : (match Project.build faultyScripts "game.json" with
      | .ok (p, fs) => (Compilation.run p fs 0).generation.failure?.isSome &&
          decide ((Compilation.run p fs 0).generation.targetsDone = 1)
      | .error _ => false) = true := by decide +kernel
  split at hrun
  · rename_i p fs hb
    simp only [Bool.and_eq_true, decide_eq_true_eq] at hrun
    exact ⟨p, fs, hb, hrun.1, hrun.2, compiled_generation_fails_iff_faulty hb 0⟩
  · cases hrun

end Graph

end BlockGraph
