import BlockGraph.Proofs.Resolve.ArenaStep
import Mathlib.Data.List.Forall2
/-!
# The walk of a body over the arena

Between two visits the walk keeps `Visit.Sound`: a slot the memo does not answer for is as parsed,
and the memo answers for a slot with the rewriting of the slot's tree.
-/

namespace BlockGraph

theorem Arena.eq_zero_of_get?_none {a : Arena} {j : ExprId} (h : a.get? j = none)
    (hj : j.toNat ≤ a.slots.length) : j = 0 := by
  by_cases hz : j.toNat = 0
  · exact ExprId.eq_zero_iff.mpr hz
  · rw [Arena.get?_of_ne_zero a hz, List.getElem?_eq_none_iff] at h
    omega

namespace Visit

variable {sc : Scope} {a₀ : Arena} {n₀ : Nat} {v v' v'' : Visit} {id j k : ExprId}

/-- A slot that no later write of the body touches, and whose tree is part of what the body
walked from slot `j`: one added during the body, or one the body returned as its own rewriting,
at `j` or below. -/
def Below (n₀ : Nat) (v : Visit) (j k : ExprId) : Prop :=
  n₀ < k.toNat ∨ (k.toNat ≤ j.toNat ∧ v.memo.lookup k = some k)

def keyed (n₀ : Nat) (v : Visit) : Nat :=
  (List.range n₀).countP fun i => (v.memo.lookup (UInt32.ofNat (i + 1))).isSome

/-- What the walk of a body keeps, started on the arena `a₀` of `n₀` slots: the slots it added
stay within two per slot it answers for; a slot it does not answer for is as it was; and the
memo answers for a slot only with an id whose tree, made of slots no later write touches, is the
rewriting of the tree the slot held. -/
structure Sound (sc : Scope) (a₀ : Arena) (v : Visit) : Prop where
  grows : a₀.slots.length ≤ v.arena.slots.length
  room : v.arena.slots.length ≤ a₀.slots.length + 2 * v.keyed a₀.slots.length
  intact : ∀ j, j.toNat ≤ a₀.slots.length → v.memo.lookup j = none → v.arena.get? j = a₀.get? j
  rewrites : ∀ j x, j.toNat ≤ a₀.slots.length → v.memo.lookup j = some x →
    ∃ e, a₀.Holds Node.AfterOperands j e ∧
      v.arena.Holds (fun k _ => v.Below a₀.slots.length j k) x (rewritten sc {} e)

structure Le (n₀ : Nat) (v v' : Visit) : Prop where
  memo : ∀ k x, k.toNat ≤ n₀ → v.memo.lookup k = some x → v'.memo.lookup k = some x
  slots : ∀ k x, (n₀ < k.toNat ∨ (v.memo.lookup k).isSome) → v.arena.get? k = some x →
    v'.arena.get? k = some x

theorem countP_lt_countP {α : Type} {p q : α → Bool} {l : List α}
    (h : ∀ x ∈ l, p x → q x) {y : α} (hy : y ∈ l) (hp : p y = false) (hq : q y = true) :
    l.countP p < l.countP q := by
  induction l with
  | nil => simp at hy
  | cons a l ih =>
      have hmono := List.countP_mono_left fun x hx => h x (List.mem_cons_of_mem a hx)
      simp only [List.countP_cons]
      rcases List.mem_cons.mp hy with rfl | hy
      · simp only [hp, hq, Bool.false_eq_true, ↓reduceIte]
        omega
      · have := ih (fun x hx => h x (List.mem_cons_of_mem a hx)) hy
        have ha := h a List.mem_cons_self
        cases hpa : p a <;> cases hqa : q a <;>
          simp only [hpa, hqa, Bool.false_eq_true, ↓reduceIte, imp_false, not_true] at ha ⊢ <;> omega

theorem toNat_ofNat_le {i : Nat} (hi : i ∈ List.range n₀) : (UInt32.ofNat (i + 1)).toNat ≤ n₀ := by
  have := List.mem_range.mp hi
  rw [UInt32.toNat_ofNat']
  exact Nat.le_trans (Nat.mod_le _ _) this

namespace Le

theorem refl (n₀ : Nat) (v : Visit) : Le n₀ v v := ⟨fun _ _ _ h => h, fun _ _ _ h => h⟩

theorem trans (h : Le n₀ v v') (h' : Le n₀ v' v'') : Le n₀ v v'' := by
  refine ⟨fun k x hk hx => h'.memo k x hk (h.memo k x hk hx), fun k x hk hx => ?_⟩
  refine h'.slots k x ?_ (h.slots k x hk hx)
  rcases hk with hk | hk
  · exact .inl hk
  · by_cases hk' : n₀ < k.toNat
    · exact .inl hk'
    · obtain ⟨y, hy⟩ := Option.isSome_iff_exists.mp hk
      exact .inr (by rw [h.memo k y (by omega) hy]; rfl)

theorem below (h : Le n₀ v v') (hk : v.Below n₀ j k) : v'.Below n₀ j k := by
  rcases hk with hk | ⟨hkj, hk⟩
  · exact .inl hk
  · by_cases hk' : n₀ < k.toNat
    · exact .inl hk'
    · exact .inr ⟨hkj, h.memo k k (by omega) hk⟩

theorem holds {x : ExprId} {t : Expr} (h : Le n₀ v v')
    (ht : v.arena.Holds (fun k _ => v.Below n₀ j k) x t) :
    v'.arena.Holds (fun k _ => v'.Below n₀ j k) x t :=
  ht.congr fun k n hk hg => ⟨h.below hk, h.slots k n (by
    rcases hk with hk | ⟨_, hk⟩
    · exact .inl hk
    · exact .inr (by rw [hk]; rfl)) hg⟩

theorem keyed_lt (h : Le n₀ v v') (hj : 0 < j.toNat ∧ j.toNat ≤ n₀) (hv : v.memo.lookup j = none)
    (hv' : (v'.memo.lookup j).isSome) : v.keyed n₀ < v'.keyed n₀ := by
  have hj' : UInt32.ofNat (j.toNat - 1 + 1) = j := by
    rw [Nat.sub_add_cancel hj.1, UInt32.ofNat_toNat]
  refine countP_lt_countP (fun i hi hk => ?_) (List.mem_range.mpr (by omega : j.toNat - 1 < n₀))
    (by rw [hj', hv]; rfl) (by rw [hj']; exact hv')
  obtain ⟨y, hy⟩ := Option.isSome_iff_exists.mp hk
  rw [h.memo _ y (toNat_ofNat_le hi) hy]
  rfl

end Le

theorem lookup_remember (m : List (ExprId × ExprId)) (id out k : ExprId) :
    ((out, out) :: (id, out) :: m).lookup k =
      if k = out then some out else if k = id then some out else m.lookup k := by
  simp only [List.lookup_cons]
  cases h₁ : k == out <;> cases h₂ : k == id <;> simp_all

/-- Remembering `out` for a slot the memo did not answer for, once the step of that slot is
taken, forgets nothing: `out` is the slot itself, new, or answered for itself already. -/
theorem Le.remember {m : Nat} {w : Visit} {out : ExprId} (hid : id.toNat ≤ n₀)
    (hkey : v.memo.lookup id = none) (htail : Tail id m v w) (hfrom : out = id ∨ v.Below n₀ id out) :
    Le n₀ v { w with memo := (out, out) :: (id, out) :: w.memo } := by
  refine ⟨fun k x hk hx => ?_, fun k x hk hx => ?_⟩
  · have hkid : k ≠ id := by rintro rfl; simp [hkey] at hx
    simp only [lookup_remember, htail.memo, hkid, if_false]
    split
    · rename_i hko
      subst hko
      rcases hfrom with rfl | hk' | ⟨_, hk'⟩
      · exact absurd rfl hkid
      · omega
      · rw [hk'] at hx; exact hx
    · exact hx
  · have hkid : k ≠ id := by
      rintro rfl
      rcases hk with hk | hk
      · omega
      · simp [hkey] at hk
    exact htail.keep k x hkid hx

/-- What visiting slot `id` from `v` gives, `r` being the id that replaces it and the walk
after: the walk is still sound and went on from `v`, the memo answers for `id` with `r.1`, and
it answers for no new slot above `id`. -/
structure Visited (sc : Scope) (a₀ : Arena) (id : ExprId) (v : Visit) (r : ExprId × Visit) : Prop where
  sound : r.2.Sound sc a₀
  le : Le a₀.slots.length v r.2
  key : r.2.memo.lookup id = some r.1
  above : ∀ k, id.toNat < k.toNat → k.toNat ≤ a₀.slots.length → r.2.memo.lookup k = v.memo.lookup k

theorem Sound.remember (hs : v.Sound sc a₀) {e : Expr} (he : a₀.Holds Node.AfterOperands id e)
    (hkey : v.memo.lookup id = none) {out : ExprId} {w : Visit} (htail : Tail id 2 v w)
    (hout : w.arena.Holds (fun k _ => v.Below a₀.slots.length id k ∨ k = out) out
      (rewritten sc {} e))
    (hfrom : out = id ∨ v.Below a₀.slots.length id out) :
    Visited sc a₀ id v (out, { w with memo := (out, out) :: (id, out) :: w.memo }) := by
  obtain ⟨_, hid₀, _⟩ := he.root
  have hid := Arena.lt_of_get? hid₀
  have hlookup : ∀ k, ((out, out) :: (id, out) :: w.memo).lookup k =
      if k = out then some out else if k = id then some out else v.memo.lookup k := fun k => by
    rw [htail.memo]
    exact lookup_remember v.memo id out k
  -- the memo only gains `id` and `out`, and `out` answered for itself already if it is old
  have hout_le : out.toNat ≤ id.toNat ∨ a₀.slots.length < out.toNat := by
    rcases hfrom with rfl | hk | ⟨hk, _⟩ <;> omega
  have hle := Le.remember hid.2 hkey htail hfrom
  have hkeyed := hle.keyed_lt hid hkey (by simp only [hlookup]; split <;> simp)
  -- the new tree is settled once `out` answers for itself
  have hbelow : ∀ k (n : Node), (v.Below a₀.slots.length id k ∨ k = out) →
      Visit.Below a₀.slots.length { w with memo := (out, out) :: (id, out) :: w.memo } id k := by
    rintro k _ (hk | rfl)
    · exact hle.below hk
    · rcases hout_le with h | h
      · exact .inr ⟨h, by simp [hlookup]⟩
      · exact .inl h
  have hnew := hout.congr fun k n hk hg => ⟨hbelow k n hk, hg⟩
  refine ⟨⟨by have := htail.grows; have := hs.grows; simp only; omega,
    by have := htail.bounded; have := hs.room; simp only; omega, fun j hj hjk => ?_,
    fun j x hj hjx => ?_⟩, hle, by simp [hlookup], fun k hk hk' => ?_⟩
  · -- a slot not answered for now was not answered for before, and was not written
    simp only [hlookup] at hjk
    split at hjk
    · simp at hjk
    split at hjk
    · simp at hjk
    rename_i hjo hjid
    rw [← hs.intact j hj hjk]
    cases hg : v.arena.get? j with
    | none =>
        rw [Arena.eq_zero_of_get?_none hg (by have := hs.grows; omega), Arena.get?_zero]
    | some x => exact htail.keep j x hjid hg
  · simp only [hlookup] at hjx
    split at hjx
    · -- `out` answers for itself: it is `id`, or it did already
      rename_i hjo
      subst hjo
      cases hjx
      rcases hfrom with rfl | hk | ⟨_, hk⟩
      · exact ⟨e, he, hnew⟩
      · omega
      · obtain ⟨e', he', ht⟩ := hs.rewrites _ _ hj hk
        exact ⟨e', he', hle.holds ht⟩
    split at hjx
    · rename_i _ hjid
      subst hjid
      cases hjx
      exact ⟨e, he, hnew⟩
    · obtain ⟨e', he', ht⟩ := hs.rewrites _ _ hj hjx
      exact ⟨e', he', hle.holds ht⟩
  · have hko : k ≠ out := by rintro rfl; omega
    have hkid : k ≠ id := by rintro rfl; omega
    simp [hlookup, hko, hkid]

theorem Below.mono {j' : ExprId} (h : v.Below n₀ j k) (hj : j.toNat ≤ j'.toNat) : v.Below n₀ j' k := by
  rcases h with h | ⟨hk, h⟩
  · exact .inl h
  · exact .inr ⟨Nat.le_trans hk hj, h⟩

theorem not_below (hj : j.toNat ≤ n₀) (hkey : v.memo.lookup j = none) : ¬ v.Below n₀ id j := by
  rintro (h | ⟨_, h⟩)
  · omega
  · simp [hkey] at h

theorem Sound.room_lt (hs : v.Sound sc a₀) (hj : 0 < j.toNat ∧ j.toNat ≤ a₀.slots.length)
    (hkey : v.memo.lookup j = none) : v.arena.slots.length + 2 ≤ 3 * a₀.slots.length := by
  have hlt : v.keyed a₀.slots.length < a₀.slots.length := by
    have hj' : UInt32.ofNat (j.toNat - 1 + 1) = j := by
      rw [Nat.sub_add_cancel hj.1, UInt32.ofNat_toNat]
    have := (List.length_filter_lt_length_iff_exists
      (p := fun i => (v.memo.lookup (UInt32.ofNat (i + 1))).isSome)
      (l := List.range a₀.slots.length)).mpr
      ⟨j.toNat - 1, List.mem_range.mpr (by omega), by rw [hj', hkey]; simp⟩
    rw [List.length_range] at this
    rw [keyed, List.countP_eq_length_filter]
    exact this
  have := hs.room
  omega

theorem Visited.holds {c : ExprId} {ec : Expr} {r : ExprId × Visit} (h : Visited sc a₀ c v r)
    (hc : a₀.Holds Node.AfterOperands c ec) :
    r.2.arena.Holds (fun k _ => r.2.Below a₀.slots.length c k) r.1 (rewritten sc {} ec) := by
  obtain ⟨_, hg, _⟩ := hc.root
  obtain ⟨e', he', ht⟩ := h.sound.rewrites c r.1 (Arena.lt_of_get? hg).2 h.key
  rwa [hc.unique he']

theorem Visited.after {c : ExprId} {v₁ : Visit} {r : ExprId × Visit}
    (h₁ : Le a₀.slots.length v v₁)
    (habove : ∀ k, c.toNat < k.toNat → k.toNat ≤ a₀.slots.length → v₁.memo.lookup k = v.memo.lookup k)
    (hc : c.toNat < id.toNat) (h : Visited sc a₀ id v₁ r) : Visited sc a₀ id v r :=
  ⟨h.sound, h₁.trans h.le, h.key, fun k hk hk' => by
    rw [h.above k hk hk', habove k (by omega) hk']⟩

theorem Sound.start (sc : Scope) (a₀ : Arena) (w : Walk) :
    Sound sc a₀ { arena := a₀, walk := w } :=
  ⟨Nat.le_refl _, Nat.le_add_right _ _, fun _ _ _ => rfl, fun _ _ _ h => by simp at h⟩

end Visit

namespace ArenaM

open Visit

variable {sc : Scope} {a₀ : Arena} {v : Visit} {id : ExprId}

theorem visitId_hit {x : ExprId} (f : Nat) (hid : id ≠ 0) (hkey : v.memo.lookup id = some x) :
    visitId (f + 1) id sc v = (x, v) := by
  rw [visitId]
  simp [hid, bind_apply, hkey, pure_apply]

theorem visited_of_miss {f : Nat} (hs : v.Sound sc a₀) (hid : 0 < id.toNat)
    (hmiss : v.memo.lookup id = none → Visited sc a₀ id v (visitId (f + 1) id sc v)) :
    Visited sc a₀ id v (visitId (f + 1) id sc v) := by
  cases hkey : v.memo.lookup id with
  | none => exact hmiss hkey
  | some x =>
      rw [visitId_hit f (fun h => by rw [h] at hid; exact absurd hid (Nat.lt_irrefl 0)) hkey]
      exact ⟨hs, Le.refl _ _, hkey, fun _ _ _ => rfl⟩

/-- Visiting a slot that holds a tree, with fuel enough for it, rewrites it as the tree walk
does: the memo answers for the slot with an id that holds the rewritten tree. Sharing is what
the memo is for: an operand visited before is answered for, not walked again, and slots are
written in place only before the memo answers for them. -/
theorem visitId_visited (hn : 3 * a₀.slots.length < Nat.pow 2 32) {id : ExprId} {e : Expr}
    (he : a₀.Holds Node.AfterOperands id e) :
    ∀ fuel v, id.toNat ≤ fuel → v.Sound sc a₀ → Visited sc a₀ id v (visitId fuel id sc v) := by
  have he' := he
  induction he with
  | int hg hp | float hg hp | str hg hp | name hg hp | arg hg hp | accessor hg hp =>
      -- a leaf is its own rewriting, in its own slot
      intro fuel v hfuel hs
      have hid := Arena.lt_of_get? hg
      obtain ⟨f, rfl⟩ : ∃ f, fuel = f + 1 := ⟨fuel - 1, by omega⟩
      refine visited_of_miss hs hid.1 fun hkey => ?_
      have hget := (hs.intact _ hid.2 hkey).trans hg
      rw [visitId]
      simp only [Arena.ne_zero_of_get? hg, if_false, bind_apply, memoized?_apply, hkey, node?_apply,
        hget, pure_apply, remember_apply]
      first
        | exact Sound.remember hs he' hkey (Tail.refl _ _ _)
            (by constructor <;> first | exact hget | exact Or.inr rfl) (Or.inl rfl)
        | exact Sound.remember hs he' hkey ((Tail.record _ _ _ _).weaken (by omega))
            (by constructor <;> first | exact hget | exact Or.inr rfl) (Or.inl rfl)
  | @unop id c op span ec hg hp hc ih =>
      intro fuel v hfuel hs
      have hid := Arena.lt_of_get? hg
      have hcid : c.toNat < id.toNat := hp c (by simp [Node.operands])
      obtain ⟨f, rfl⟩ : ∃ f, fuel = f + 1 := ⟨fuel - 1, by omega⟩
      refine visited_of_miss hs hid.1 fun hkey => ?_
      have hget := (hs.intact _ hid.2 hkey).trans hg
      have h₁ := ih hc f v (by omega) hs
      rw [visitId]
      simp only [Arena.ne_zero_of_get? hg, if_false, bind_apply, memoized?_apply, hkey, node?_apply,
        hget, pure_apply, remember_apply]
      generalize visitId f c sc v = r₁ at h₁ ⊢
      obtain ⟨o, v₁⟩ := r₁
      -- the operand's visit answered for nothing at or above `id`
      have hkey₁ : v₁.memo.lookup id = none := (h₁.above id hcid hid.2).trans hkey
      obtain ⟨htail, hout, hfrom⟩ := rewriteUnOp_spec sc span op (P := v₁.Below a₀.slots.length id)
        (not_below hid.2 hkey₁) ⟨_, (h₁.sound.intact _ hid.2 hkey₁).trans hg⟩
        (fun k hk => .inl (by have := h₁.sound.grows; omega))
        (by have := h₁.sound.room_lt hid hkey₁; omega)
        ((h₁.holds hc).mono fun _ _ h => h.mono (Nat.le_of_lt hcid))
      exact (Sound.remember h₁.sound (.unop hg hp hc) hkey₁ htail hout hfrom).after h₁.le h₁.above hcid
  | @binop id l r op span el er hg hp hl hr ihl ihr =>
      intro fuel v hfuel hs
      have hid := Arena.lt_of_get? hg
      have hlid : l.toNat < id.toNat := hp l (by simp [Node.operands])
      have hrid : r.toNat < id.toNat := hp r (by simp [Node.operands])
      obtain ⟨f, rfl⟩ : ∃ f, fuel = f + 1 := ⟨fuel - 1, by omega⟩
      refine visited_of_miss hs hid.1 fun hkey => ?_
      have hget := (hs.intact _ hid.2 hkey).trans hg
      have h₁ := ihl hl f v (by omega) hs
      rw [visitId]
      simp only [Arena.ne_zero_of_get? hg, if_false, bind_apply, memoized?_apply, hkey, node?_apply,
        hget, pure_apply, remember_apply]
      generalize visitId f l sc v = r₁ at h₁ ⊢
      obtain ⟨ol, v₁⟩ := r₁
      have h₂ := ihr hr f v₁ (by omega) h₁.sound
      generalize visitId f r sc v₁ = r₂ at h₂ ⊢
      obtain ⟨or, v₂⟩ := r₂
      -- neither operand's visit answered for anything at or above `id`
      have hkey₂ : v₂.memo.lookup id = none :=
        (h₂.above id hrid hid.2).trans ((h₁.above id hlid hid.2).trans hkey)
      obtain ⟨htail, hout, hfrom⟩ := rewriteBinOp_spec sc span op (P := v₂.Below a₀.slots.length id)
        (not_below hid.2 hkey₂) ⟨_, (h₂.sound.intact _ hid.2 hkey₂).trans hg⟩
        (fun k hk => .inl (by have := h₂.sound.grows; omega))
        (by have := h₂.sound.room_lt hid hkey₂; omega)
        ((h₂.le.holds (h₁.holds hl)).mono fun _ _ h => h.mono (Nat.le_of_lt hlid))
        ((h₂.holds hr).mono fun _ _ h => h.mono (Nat.le_of_lt hrid))
      exact ((Sound.remember h₂.sound (.binop hg hp hl hr) hkey₂ htail hout hfrom).after h₂.le h₂.above
        hrid).after h₁.le h₁.above hlid

theorem visitExprs_visited (hn : 3 * a₀.slots.length < Nat.pow 2 32) {ids : List ExprId}
    {es : List Expr} (hes : List.Forall₂ (a₀.Holds Node.AfterOperands) ids es) :
    ∀ v : Visit, v.Sound sc a₀ →
      (visitExprs ids sc v).2.Sound sc a₀ ∧ Le a₀.slots.length v (visitExprs ids sc v).2 ∧
        List.Forall₂ (fun id out => (visitExprs ids sc v).2.memo.lookup id = some out) ids
          (visitExprs ids sc v).1 := by
  induction hes with
  | nil => exact fun v hs => ⟨hs, Le.refl _ _, .nil⟩
  | @cons id e ids es he _ ih =>
      intro v hs
      have hvisit := visitId_visited hn he v.arena.slots.length v
        (by have := (Arena.lt_of_get? he.root.choose_spec.1).2; have := hs.grows; omega) hs
      simp only [visitExprs, List.mapM_cons, bind_apply, visitExpr, get_apply, pure_apply] at ih ⊢
      generalize visitId v.arena.slots.length id sc v = r₁ at hvisit ⊢
      obtain ⟨out, v₁⟩ := r₁
      obtain ⟨hs', hle, hall⟩ := ih v₁ hvisit.sound
      have hid := (Arena.lt_of_get? he.root.choose_spec.1).2
      exact ⟨hs', hvisit.le.trans hle, .cons (hle.memo id out hid hvisit.key) hall⟩

theorem visitExprs_refines (hn : 3 * a₀.slots.length < Nat.pow 2 32) {ids : List ExprId}
    {es : List Expr} (hes : List.Forall₂ (a₀.Holds Node.AfterOperands) ids es) (w : Walk) :
    List.Forall₂ (fun e out =>
        (visitExprs ids sc { arena := a₀, walk := w }).2.arena.Holds (fun _ _ => True) out
          (rewritten sc {} e))
      es (visitExprs ids sc { arena := a₀, walk := w }).1 := by
  obtain ⟨hs, -, hall⟩ := visitExprs_visited hn hes _ (Sound.start sc a₀ w)
  generalize visitExprs ids sc { arena := a₀, walk := w } = r at hs hall ⊢
  obtain ⟨outs, v⟩ := r
  dsimp only at hs hall ⊢
  -- each answer of the memo holds the rewriting of the tree its slot held
  induction hes generalizing outs with
  | nil => cases hall; exact .nil
  | cons he _ ih =>
      cases hall with
      | cons hkey hrest =>
          obtain ⟨_, hg, _⟩ := he.root
          obtain ⟨e', he', ht⟩ := hs.rewrites _ _ (Arena.lt_of_get? hg).2 hkey
          rw [← he.unique he'] at ht
          exact .cons (ht.mono fun _ _ _ => trivial) (ih _ hrest)

-- The two stand-ins share one rewriting, `not (6 < x + 1)` in two new slots after the folded `6`.
example : (visitExprs [7, 7] { sprite := default, stage := none }
    { arena := { slots := [.name { base := "x" }, .int 1 {}, .binop .add 1 2 {}, .int 2 {},
      .int 3 {}, .binop .mul 4 5 {}, .binop .le 3 6 {}] } }).1 = [10, 10] := by
  decide

end ArenaM

end BlockGraph
