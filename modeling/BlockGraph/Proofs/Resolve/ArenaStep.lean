import BlockGraph.Analysis.Arena
import BlockGraph.Proofs.Resolve.Meaning

namespace BlockGraph

theorem ExprId.eq_zero_iff {id : ExprId} : id = 0 ↔ id.toNat = 0 :=
  ⟨fun h => h ▸ rfl, fun h => UInt32.toNat_inj.mp h⟩

namespace Arena

theorem get?_of_ne_zero (a : Arena) {id : ExprId} (h : id.toNat ≠ 0) :
    a.get? id = a.slots[id.toNat - 1]? := by
  simp [get?, ExprId.eq_zero_iff, h]

theorem get?_zero (a : Arena) : a.get? 0 = none := rfl

theorem lt_of_get? {a : Arena} {id : ExprId} {n : Node} (h : a.get? id = some n) :
    0 < id.toNat ∧ id.toNat ≤ a.slots.length := by
  have hz : id.toNat ≠ 0 := fun hz => by simp [get?, ExprId.eq_zero_iff.mpr hz] at h
  rw [get?_of_ne_zero a hz] at h
  have := (List.getElem?_eq_some_iff.mp h).1
  omega

theorem ne_zero_of_get? {a : Arena} {id : ExprId} {n : Node} (h : a.get? id = some n) : id ≠ 0 := by
  rintro rfl
  simp [get?_zero] at h

theorem get?_set_ne (a : Arena) {id j : ExprId} (n : Node) (h : j ≠ id) :
    (a.set id n).get? j = a.get? j := by
  by_cases hid : id.toNat = 0
  · simp [set, ExprId.eq_zero_iff.mpr hid]
  by_cases hj : j.toNat = 0
  · simp [ExprId.eq_zero_iff.mpr hj, get?_zero]
  have hne : j.toNat - 1 ≠ id.toNat - 1 := fun he => h (UInt32.toNat_inj.mp (by omega))
  simp only [set, ExprId.eq_zero_iff, hid, if_false]
  rw [get?_of_ne_zero _ hj, get?_of_ne_zero _ hj, List.getElem?_set_ne (Ne.symm hne)]

theorem get?_set_self {a : Arena} {id : ExprId} {old : Node} (h : a.get? id = some old) (n : Node) :
    (a.set id n).get? id = some n := by
  obtain ⟨hpos, hlen⟩ := lt_of_get? h
  simp only [set, ExprId.eq_zero_iff, Nat.pos_iff_ne_zero.mp hpos, if_false]
  rw [get?_of_ne_zero _ (Nat.pos_iff_ne_zero.mp hpos), List.getElem?_set_self (by omega)]

@[simp] theorem length_set (a : Arena) (id : ExprId) (n : Node) :
    (a.set id n).slots.length = a.slots.length := by
  unfold set; split <;> simp

@[simp] theorem length_alloc (a : Arena) (n : Node) :
    (a.alloc n).2.slots.length = a.slots.length + 1 := by
  simp [alloc]

theorem get?_alloc_of_le (a : Arena) (n : Node) {j : ExprId} (h : j.toNat ≤ a.slots.length) :
    (a.alloc n).2.get? j = a.get? j := by
  by_cases hj : j.toNat = 0
  · simp [ExprId.eq_zero_iff.mpr hj, get?_zero]
  rw [get?_of_ne_zero _ hj, get?_of_ne_zero _ hj, alloc, List.getElem?_append_left (by omega)]

theorem get?_alloc_of_get? (a : Arena) (n : Node) {j : ExprId} {x : Node} (h : a.get? j = some x) :
    (a.alloc n).2.get? j = some x := by
  rw [get?_alloc_of_le a n (lt_of_get? h).2, h]

theorem alloc_id (a : Arena) (n : Node) (h : a.slots.length + 1 < Nat.pow 2 32) :
    (a.alloc n).1.toNat = a.slots.length + 1 := by
  have : Nat.pow 2 32 = 4294967296 := rfl
  simp only [alloc]
  exact UInt32.toNat_ofNat_of_lt' (by rw [UInt32.size]; omega)

theorem get?_alloc_self (a : Arena) (n : Node) (h : a.slots.length + 1 < Nat.pow 2 32) :
    (a.alloc n).2.get? (a.alloc n).1 = some n := by
  have hid := alloc_id a n h
  rw [get?_of_ne_zero _ (by omega), hid]
  simp [alloc]

/-- The slot `id` holds the tree `e`: the root of `e` sits in slot `id` and each operand's
subtree in the slot the node names, every slot of it one that `P` admits. Reporters of
primitives are not read. -/
inductive Holds (a : Arena) (P : ExprId → Node → Prop) : ExprId → Expr → Prop
  | int {id : ExprId} {v : Int} {span : Span} :
      a.get? id = some (.int v span) → P id (.int v span) → Holds a P id (.int v span)
  | float {id : ExprId} {v : Float} {span : Span} :
      a.get? id = some (.float v span) → P id (.float v span) → Holds a P id (.float v span)
  | str {id : ExprId} {s : String} {span : Span} :
      a.get? id = some (.str s span) → P id (.str s span) → Holds a P id (.str s span)
  | name {id : ExprId} {n : Name} :
      a.get? id = some (.name n) → P id (.name n) → Holds a P id (.name n)
  | arg {id : ExprId} {n : Name} :
      a.get? id = some (.arg n) → P id (.arg n) → Holds a P id (.arg n)
  | accessor {id : ExprId} {sym : String} {s₁ : Span} {prop : String} {s₂ : Span} :
      a.get? id = some (.accessor sym s₁ prop s₂) → P id (.accessor sym s₁ prop s₂) →
      Holds a P id (.accessor sym s₁ prop s₂)
  | unop {id c : ExprId} {op : UnOp} {span : Span} {e : Expr} :
      a.get? id = some (.unop op c span) → P id (.unop op c span) → Holds a P c e →
      Holds a P id (.unop op e span)
  | binop {id l r : ExprId} {op : BinOp} {span : Span} {el er : Expr} :
      a.get? id = some (.binop op l r span) → P id (.binop op l r span) → Holds a P l el →
      Holds a P r er → Holds a P id (.binop op el er span)

namespace Holds

variable {a a' : Arena} {P Q : ExprId → Node → Prop} {id : ExprId} {e : Expr}

theorem root (h : a.Holds P id e) : ∃ n, a.get? id = some n ∧ P id n := by
  cases h <;> exact ⟨_, ‹_›, ‹_›⟩

/-- A tree is read the same from another arena that keeps its slots, under a weaker
admission. -/
theorem congr (h : a.Holds P id e)
    (hslot : ∀ k n, P k n → a.get? k = some n → Q k n ∧ a'.get? k = some n) : a'.Holds Q id e := by
  induction h with
  | int hg hp | float hg hp | str hg hp | name hg hp | arg hg hp | accessor hg hp =>
      obtain ⟨hq, hg'⟩ := hslot _ _ hp hg
      constructor <;> assumption
  | unop hg hp _ ih =>
      obtain ⟨hq, hg'⟩ := hslot _ _ hp hg
      exact .unop hg' hq ih
  | binop hg hp _ _ ihl ihr =>
      obtain ⟨hq, hg'⟩ := hslot _ _ hp hg
      exact .binop hg' hq ihl ihr

theorem mono (h : a.Holds P id e) (hPQ : ∀ k n, P k n → Q k n) : a.Holds Q id e :=
  h.congr fun k n hp hg => ⟨hPQ k n hp, hg⟩

theorem set {j : ExprId} (h : a.Holds P id e) (hj : ∀ k n, P k n → k ≠ j) (x : Node) :
    (a.set j x).Holds P id e :=
  h.congr fun k n hp hg => ⟨hp, by rw [get?_set_ne a x (hj k n hp), hg]⟩

theorem alloc (h : a.Holds P id e) (x : Node) : (a.alloc x).2.Holds P id e :=
  h.congr fun _ _ hp hg => ⟨hp, get?_alloc_of_get? a x hg⟩

theorem unique {e' : Expr} (h : a.Holds P id e) (h' : a.Holds Q id e') : e = e' := by
  induction h generalizing e' with
  | int hg | float hg | str hg | name hg | arg hg | accessor hg =>
      cases h' <;> simp_all
  | unop hg _ _ ih =>
      cases h' with
      | unop hg' _ hc =>
          rw [hg] at hg'
          cases hg'
          rw [ih hc]
      | _ => simp_all
  | binop hg _ _ _ ihl ihr =>
      cases h' with
      | binop hg' _ hl hr =>
          rw [hg] at hg'
          cases hg'
          rw [ihl hl, ihr hr]
      | _ => simp_all

end Holds

end Arena

/-- The operands of the node in slot `id` sit in earlier slots: the layout of a parser that
allocates the operands of an expression before the expression. -/
def Node.AfterOperands (id : ExprId) (n : Node) : Prop := ∀ c ∈ n.operands, c.toNat < id.toNat

-- The instance is given by hand: searched for, it would find the finite-type one over all of `ExprId`.
instance (id : ExprId) (n : Node) : Decidable (n.AfterOperands id) :=
  List.decidableBAll (fun c : ExprId => c.toNat < id.toNat) n.operands

namespace ArenaM

variable {α β : Type} (sc : Scope) (v : Visit)

theorem bind_apply (x : ArenaM α) (f : α → ArenaM β) : (x >>= f) sc v = f (x sc v).1 sc (x sc v).2 :=
  rfl

theorem pure_apply (a : α) : (pure a : ArenaM α) sc v = (a, v) := rfl

@[simp] theorem node?_apply (id : ExprId) : node? id sc v = (v.arena.get? id, v) := rfl

@[simp] theorem setNode_apply (id : ExprId) (n : Node) :
    setNode id n sc v = ((), { v with arena := v.arena.set id n }) := rfl

@[simp] theorem new_apply (n : Node) :
    new n sc v = ((v.arena.alloc n).1, { v with arena := (v.arena.alloc n).2 }) := rfl

@[simp] theorem get_apply : (get : ArenaM Visit) sc v = (v, v) := rfl

@[simp] theorem read_apply : (read : ArenaM Scope) sc v = (sc, v) := rfl

@[simp] theorem memoized?_apply (id : ExprId) : memoized? id sc v = (v.memo.lookup id, v) := rfl

@[simp] theorem remember_apply (id out : ExprId) :
    remember id out sc v = ((), { v with memo := (out, out) :: (id, out) :: v.memo }) := rfl

@[simp] theorem record_apply (x : WalkM Unit) :
    record x sc v = ((), { v with walk := (x sc v.walk).2 }) := rfl

end ArenaM

namespace Visit

/-- What a step of the rewriting of slot `id` may do: write slot `id`, add at most `m` slots,
and nothing else to the arena or the memo. -/
structure Tail (id : ExprId) (m : Nat) (v w : Visit) : Prop where
  memo : w.memo = v.memo
  keep : ∀ k x, k ≠ id → v.arena.get? k = some x → w.arena.get? k = some x
  grows : v.arena.slots.length ≤ w.arena.slots.length
  bounded : w.arena.slots.length ≤ v.arena.slots.length + m

namespace Tail

variable {id : ExprId} {m m' : Nat} {v w u : Visit}

theorem refl (id : ExprId) (m : Nat) (v : Visit) : Tail id m v v :=
  ⟨rfl, fun _ _ _ h => h, Nat.le_refl _, Nat.le_add_right _ _⟩

theorem trans (h : Tail id m v w) (h' : Tail id m' w u) : Tail id (m + m') v u :=
  ⟨h'.memo.trans h.memo, fun k x hk hx => h'.keep k x hk (h.keep k x hk hx),
    Nat.le_trans h.grows h'.grows, by have := h.bounded; have := h'.bounded; omega⟩

theorem weaken (h : Tail id m v w) (hm : m ≤ m') : Tail id m' v w :=
  ⟨h.memo, h.keep, h.grows, Nat.le_trans h.bounded (by omega)⟩

theorem setNode (id : ExprId) (x : Node) (v : Visit) :
    Tail id 0 v { v with arena := v.arena.set id x } :=
  ⟨rfl, fun _ _ hk hx => by simp only; rw [Arena.get?_set_ne _ _ hk, hx], by simp, by simp⟩

theorem new (id : ExprId) (x : Node) (v : Visit) :
    Tail id 1 v { v with arena := (v.arena.alloc x).2 } :=
  ⟨rfl, fun _ _ _ hx => Arena.get?_alloc_of_get? _ _ hx, by simp, by simp⟩

theorem walk (id : ExprId) (v : Visit) (walk : Walk) : Tail id 0 v { v with walk } :=
  ⟨rfl, fun _ _ _ hx => hx, Nat.le_refl _, Nat.le_refl _⟩

theorem record (id : ExprId) (x : WalkM Unit) (sc : Scope) (v : Visit) :
    Tail id 0 v (ArenaM.record x sc v).2 :=
  walk id v _

theorem holds {P : ExprId → Node → Prop} {k : ExprId} {t : Expr} (h : Tail id m v w)
    (hid : ∀ j n, P j n → j ≠ id) (ht : v.arena.Holds P k t) : w.arena.Holds P k t :=
  ht.congr fun j n hp hg => ⟨hp, h.keep j n (hid j n hp) hg⟩

/-- A step that writes no slot (there is none numbered 0) keeps every tree. -/
theorem holds_of_zero {P : ExprId → Node → Prop} {k : ExprId} {t : Expr} (h : Tail 0 m v w)
    (ht : v.arena.Holds P k t) : w.arena.Holds P k t :=
  ht.congr fun j n hp hg => ⟨hp, h.keep j n (Arena.ne_zero_of_get? hg) hg⟩

theorem of_zero (h : Tail 0 m v w) : Tail id m v w :=
  ⟨h.memo, fun k x _ hx => h.keep k x (Arena.ne_zero_of_get? hx) hx, h.grows, h.bounded⟩

end Tail

end Visit

theorem Arena.Holds.isZero {a : Arena} {P : ExprId → Node → Prop} {k : ExprId} {t : Expr}
    {n : Node} (h : a.Holds P k t) (hn : a.get? k = some n) : n.isZero = t.isZero := by
  cases h <;> simp only [hn, Option.some.injEq] at * <;> subst_vars <;> rfl

theorem Arena.Holds.literal? {a : Arena} {Q : ExprId → Node → Prop} {k : ExprId} {t : Expr}
    {n : Node} (h : a.Holds Q k t) (hn : a.get? k = some n) :
    n.literal? = some t ∨
      (n.literal? = none ∧ ∀ op r span, foldArith op t r span = none ∧ foldArith op r t span = none) := by
  cases h <;> simp only [hn, Option.some.injEq] at * <;> subst_vars
  case int | float => exact .inl rfl
  all_goals exact .inr ⟨rfl, fun _ r _ => ⟨rfl, by cases r <;> rfl⟩⟩

theorem foldArith_shape (op : BinOp) (l r : Expr) (span : Span) :
    foldArith op l r span = none ∨ (∃ v, foldArith op l r span = some (.int v span)) ∨
      ∃ v, foldArith op l r span = some (.float v span) := by
  cases l <;> cases r <;>
    first | exact .inl rfl | exact .inr (.inl ⟨_, rfl⟩) | exact .inr (.inr ⟨_, rfl⟩)

namespace ArenaM

open Visit

variable (sc : Scope) {v : Visit} {P : ExprId → Prop} {id o : ExprId} {t : Expr} (span : Span)

theorem new_spec (x : Node) (h : v.arena.slots.length + 1 < Nat.pow 2 32) :
    (new x sc v).1.toNat = v.arena.slots.length + 1 ∧
      (new x sc v).2.arena.get? (new x sc v).1 = some x :=
  ⟨Arena.alloc_id v.arena x h, Arena.get?_alloc_self v.arena x h⟩

theorem subtractFromZero_spec (hfresh : ∀ k, v.arena.slots.length < k.toNat → P k)
    (hroom : v.arena.slots.length + 2 < Nat.pow 2 32) (ho : v.arena.Holds (fun k _ => P k) o t) :
    Tail 0 2 v (subtractFromZero o span sc v).2 ∧
      (subtractFromZero o span sc v).2.arena.Holds (fun k _ => P k) (subtractFromZero o span sc v).1
        (.binop .sub (.int 0 span) t span) ∧
      P (subtractFromZero o span sc v).1 := by
  simp only [subtractFromZero, bind_apply, new_apply]
  obtain ⟨hz, hzget⟩ := new_spec sc (v := v) (.int 0 span) (by omega)
  obtain ⟨hs, hsget⟩ := new_spec sc (v := (new (.int 0 span) sc v).2)
    (.binop .sub (new (.int 0 span) sc v).1 o span) (by simp; omega)
  simp only [new_apply, Arena.length_alloc] at hz hzget hs hsget
  refine ⟨(Tail.new 0 _ v).trans (Tail.new 0 _ _), .binop hsget (hfresh _ (by omega))
    (.int (Arena.get?_alloc_of_get? _ _ hzget) (hfresh _ (by omega))) (ho.alloc _ |>.alloc _),
    hfresh _ (by omega)⟩

theorem negateId_spec {inner : Node} (hfresh : ∀ k, v.arena.slots.length < k.toNat → P k)
    (hroom : v.arena.slots.length + 2 < Nat.pow 2 32) (ho : v.arena.Holds (fun k _ => P k) o t)
    (hinner : v.arena.get? o = some inner) :
    Tail 0 2 v (negateId o inner span sc v).2 ∧
      (negateId o inner span sc v).2.arena.Holds (fun k _ => P k) (negateId o inner span sc v).1
        (negate t span) ∧
      P (negateId o inner span sc v).1 := by
  have hsub := subtractFromZero_spec sc span hfresh hroom ho
  have hnew : ∀ x : Node, Tail 0 2 v (new x sc v).2 ∧
      (new x sc v).2.arena.get? (new x sc v).1 = some x ∧ P (new x sc v).1 := fun x =>
    have h := new_spec sc (v := v) x (by omega)
    ⟨(Tail.new 0 x v).weaken (by omega), h.2, hfresh _ (by omega)⟩
  cases ho with
  | int hg =>
      rw [hg] at hinner
      cases hinner
      obtain ⟨htail, hget, hp⟩ := hnew (.int (wrapWord (-_)) span)
      exact ⟨htail, .int hget hp, hp⟩
  | float hg =>
      rw [hg] at hinner
      cases hinner
      obtain ⟨htail, hget, hp⟩ := hnew (.float (-_) span)
      exact ⟨htail, .float hget hp, hp⟩
  | @binop _ l r op s el er hg _ hl hr =>
      rw [hg] at hinner
      cases hinner
      by_cases hop : op = .sub
      · subst hop
        obtain ⟨nl, hnl, _⟩ := hl.root
        obtain ⟨_, _, hpr⟩ := hr.root
        simp only [negateId, bind_apply, node?_apply, hnl, Option.map_some, Option.getD_some,
          hl.isZero hnl, negate]
        split
        · exact ⟨Tail.refl 0 2 v, hr, hpr⟩
        · exact hsub
      · have harena : negateId o (.binop op l r s) span = subtractFromZero o span := by
          cases op <;> first | rfl | exact absurd rfl hop
        have htree : negate (.binop op el er s) span = .binop .sub (.int 0 span) (.binop op el er s) span := by
          cases op <;> first | rfl | exact absurd rfl hop
        rw [harena, htree]
        exact hsub
  | str hg | name hg | arg hg | accessor hg | unop hg =>
      rw [hg] at hinner
      cases hinner
      exact hsub

theorem rewriteUnOp_spec (op : UnOp) {e : Expr} (hid : ¬ P id)
    (hslot : ∃ n, v.arena.get? id = some n) (hfresh : ∀ k, v.arena.slots.length < k.toNat → P k)
    (hroom : v.arena.slots.length + 2 < Nat.pow 2 32)
    (ho : v.arena.Holds (fun k _ => P k) o (rewritten sc {} e)) :
    Tail id 2 v (rewriteUnOp id op o span sc v).2 ∧
      (rewriteUnOp id op o span sc v).2.arena.Holds
        (fun k _ => P k ∨ k = (rewriteUnOp id op o span sc v).1) (rewriteUnOp id op o span sc v).1
        (rewritten sc {} (.unop op e span)) ∧
      ((rewriteUnOp id op o span sc v).1 = id ∨ P (rewriteUnOp id op o span sc v).1) := by
  rw [rewritten_unop]
  generalize rewritten sc {} e = t at ho ⊢
  -- the operand is written back first; its tree does not use the slot written
  have hset := Tail.setNode id (.unop op o span) v
  have ho₁ := hset.holds (fun j _ hj h => hid (h ▸ hj)) ho
  obtain ⟨inner, hinner, _⟩ := ho₁.root
  obtain ⟨old, hold⟩ := hslot
  -- the slot itself, kept as the result
  have hkeep : (v.arena.set id (.unop op o span)).Holds (fun k _ => P k ∨ k = id) id (.unop op t span) :=
    .unop (Arena.get?_set_self hold _) (Or.inr rfl) (ho₁.mono fun _ _ h => Or.inl h)
  simp only [rewriteUnOp, bind_apply, setNode_apply, node?_apply]
  simp only at hinner ho₁ hkeep
  rw [hinner]
  dsimp only
  split
  · obtain ⟨htail, hholds, hp⟩ := negateId_spec sc span
      (v := { v with arena := v.arena.set id (.unop .neg o span) }) (by simpa using hfresh)
      (by simpa using hroom) ho₁ hinner
    exact ⟨hset.trans htail.of_zero, hholds.mono fun _ _ h => Or.inl h, Or.inr hp⟩
  · have hnot := ho₁
    cases hnot with
    | @unop _ c op' s' et hg _ hc =>
        rw [hg] at hinner
        cases hinner
        by_cases hop' : op' = .not
        · subst hop'
          obtain ⟨_, _, hpc⟩ := hc.root
          exact ⟨hset.weaken (by omega), hc.mono fun _ _ h => Or.inl h, Or.inr hpc⟩
        · cases op' <;> first
            | exact absurd rfl hop'
            | exact ⟨hset.weaken (by omega), hkeep, Or.inl rfl⟩
    | _ hg =>
        rw [hg] at hinner
        cases hinner
        exact ⟨hset.weaken (by omega), hkeep, Or.inl rfl⟩
  · cases op <;> first
      | exact absurd rfl (by assumption)
      | exact ⟨hset.weaken (by omega), hkeep, Or.inl rfl⟩

theorem foldIds_spec {op : BinOp} {l r : ExprId} {tl tr : Expr}
    (hfresh : ∀ k, v.arena.slots.length < k.toNat → P k)
    (hroom : v.arena.slots.length + 1 < Nat.pow 2 32) (hl : v.arena.Holds (fun k _ => P k) l tl)
    (hr : v.arena.Holds (fun k _ => P k) r tr) :
    Tail 0 1 v (foldIds op l r span sc v).2 ∧
      ((foldIds op l r span sc v).1 = none ∧ foldArith op tl tr span = none ∨
        ∃ out, (foldIds op l r span sc v).1 = some out ∧
          (foldIds op l r span sc v).2.arena.Holds (fun k _ => P k) out
            ((foldArith op tl tr span).getD (.binop op tl tr span)) ∧ P out) := by
  obtain ⟨nl, hnl, _⟩ := hl.root
  obtain ⟨nr, hnr, _⟩ := hr.root
  simp only [foldIds, bind_apply, node?_apply, hnl, hnr, Option.bind_some]
  rcases hl.literal? hnl with hlit | ⟨hlit, hnone⟩
  · rcases hr.literal? hnr with hrit | ⟨hrit, hnone⟩
    · rw [hlit, hrit]
      dsimp only
      -- both literals: the folded literal, if any, goes to a new slot
      have hnew : ∀ x : Node, Tail 0 1 v (new x sc v).2 ∧
          (new x sc v).2.arena.get? (new x sc v).1 = some x ∧ P (new x sc v).1 := fun x =>
        have h := new_spec sc (v := v) x hroom
        ⟨Tail.new 0 x v, h.2, hfresh _ (by omega)⟩
      rcases foldArith_shape op tl tr span with h | ⟨x, h⟩ | ⟨x, h⟩ <;> rw [h] <;> dsimp only [pure_apply]
      · exact ⟨Tail.refl 0 1 v, .inl ⟨rfl, rfl⟩⟩
      · obtain ⟨htail, hget, hp⟩ := hnew (.int x span)
        exact ⟨htail, .inr ⟨_, rfl, .int hget hp, hp⟩⟩
      · obtain ⟨htail, hget, hp⟩ := hnew (.float x span)
        exact ⟨htail, .inr ⟨_, rfl, .float hget hp, hp⟩⟩
    · rw [hrit]
      cases nl.literal? <;> dsimp only [pure_apply] <;>
        exact ⟨Tail.refl 0 1 v, .inl ⟨rfl, (hnone op tl span).2⟩⟩
  · rw [hlit]
    dsimp only [pure_apply]
    exact ⟨Tail.refl 0 1 v, .inl ⟨rfl, (hnone op tr span).1⟩⟩

theorem desugar_spec {op : UnOp} {inner : BinOp} {l r : ExprId} {tl tr : Expr}
    (hfresh : ∀ k, v.arena.slots.length < k.toNat → P k)
    (hroom : v.arena.slots.length + 2 < Nat.pow 2 32) (hl : v.arena.Holds (fun k _ => P k) l tl)
    (hr : v.arena.Holds (fun k _ => P k) r tr) :
    Tail 0 2 v (desugar op inner l r span sc v).2 ∧
      (desugar op inner l r span sc v).2.arena.Holds (fun k _ => P k) (desugar op inner l r span sc v).1
        (.unop op (.binop inner tl tr span) span) ∧
      P (desugar op inner l r span sc v).1 := by
  simp only [desugar, bind_apply, new_apply]
  obtain ⟨hb, hbget⟩ := new_spec sc (v := v) (.binop inner l r span) (by omega)
  obtain ⟨hu, huget⟩ := new_spec sc (v := (new (.binop inner l r span) sc v).2)
    (.unop op (new (.binop inner l r span) sc v).1 span) (by simp; omega)
  simp only [new_apply, Arena.length_alloc] at hb hbget hu huget
  refine ⟨(Tail.new 0 _ v).trans (Tail.new 0 _ _), .unop huget (hfresh _ (by omega))
    (.binop (Arena.get?_alloc_of_get? _ _ hbget) (hfresh _ (by omega)) (hl.alloc _ |>.alloc _)
      (hr.alloc _ |>.alloc _)), hfresh _ (by omega)⟩

theorem rewriteBinOp_spec (op : BinOp) {l r : ExprId} {el er : Expr} (hid : ¬ P id)
    (hslot : ∃ n, v.arena.get? id = some n) (hfresh : ∀ k, v.arena.slots.length < k.toNat → P k)
    (hroom : v.arena.slots.length + 2 < Nat.pow 2 32)
    (hl : v.arena.Holds (fun k _ => P k) l (rewritten sc {} el))
    (hr : v.arena.Holds (fun k _ => P k) r (rewritten sc {} er)) :
    Tail id 2 v (rewriteBinOp id op l r span sc v).2 ∧
      (rewriteBinOp id op l r span sc v).2.arena.Holds
        (fun k _ => P k ∨ k = (rewriteBinOp id op l r span sc v).1) (rewriteBinOp id op l r span sc v).1
        (rewritten sc {} (.binop op el er span)) ∧
      ((rewriteBinOp id op l r span sc v).1 = id ∨ P (rewriteBinOp id op l r span sc v).1) := by
  rw [rewritten_binop]
  dsimp only
  rw [rewritten_walk sc er _ {}]
  generalize rewritten sc {} el = tl at hl ⊢
  generalize rewritten sc {} er = tr at hr ⊢
  -- both operands are written back first; their trees do not use the slot written
  have hset := Tail.setNode id (.binop op l r span) v
  have hl₁ := hset.holds (fun j _ hj h => hid (h ▸ hj)) hl
  have hr₁ := hset.holds (fun j _ hj h => hid (h ▸ hj)) hr
  obtain ⟨old, hold⟩ := hslot
  have hkeep : (v.arena.set id (.binop op l r span)).Holds (fun k _ => P k ∨ k = id) id
      (.binop op tl tr span) :=
    .binop (Arena.get?_set_self hold _) (Or.inr rfl) (hl₁.mono fun _ _ h => Or.inl h)
      (hr₁.mono fun _ _ h => Or.inl h)
  simp only [rewriteBinOp, bind_apply, setNode_apply]
  simp only at hl₁ hr₁ hkeep
  have hfresh₁ : ∀ k, (v.arena.set id (.binop op l r span)).slots.length < k.toNat → P k := by
    simpa using hfresh
  have hroom₁ : (v.arena.set id (.binop op l r span)).slots.length + 2 < Nat.pow 2 32 := by
    simpa using hroom
  -- the slot itself, kept as the result
  have hself : ∀ w : Visit, Tail id 2 v w → w.arena = v.arena.set id (.binop op l r span) →
      Tail id 2 v w ∧ w.arena.Holds (fun k _ => P k ∨ k = id) id (.binop op tl tr span) ∧
        (id = id ∨ P id) := fun w htail hw => ⟨htail, hw ▸ hkeep, Or.inl rfl⟩
  split
  · -- `letter of` only gathers
    exact hself _ ((hset.trans (Tail.walk _ _ _)).weaken (by omega)) rfl
  case h_2 | h_3 | h_4 =>
    -- `+ - *` over literals fold into a new slot
    obtain ⟨htail, ⟨hf, hnone⟩ | ⟨folded, hf, hholds, hp⟩⟩ := foldIds_spec sc span
      (v := { v with arena := v.arena.set id (.binop _ l r span) }) hfresh₁ (by simp at hroom₁ ⊢; omega)
      hl₁ hr₁
    all_goals simp only [bind_apply]
    · rw [hf, hnone]
      exact ⟨(hset.trans htail.of_zero).weaken (by omega), htail.holds_of_zero hkeep, Or.inl rfl⟩
    · rw [hf]
      exact ⟨(hset.trans htail.of_zero).weaken (by omega), hholds.mono fun _ _ h => Or.inl h, Or.inr hp⟩
  case h_7 | h_8 =>
    -- the operators with no block of their own become two new slots
    obtain ⟨htail, hholds, hp⟩ := desugar_spec sc span
      (v := { v with arena := v.arena.set id (.binop _ l r span) }) hfresh₁ hroom₁ hl₁ hr₁
    exact ⟨hset.trans htail.of_zero, hholds.mono fun _ _ h => Or.inl h, Or.inr hp⟩
  case h_5 | h_6 =>
    obtain ⟨htail, hholds, hp⟩ := desugar_spec sc span
      (v := { v with arena := v.arena.set id (.binop _ l r span) }) hfresh₁ hroom₁ hr₁ hl₁
    exact ⟨hset.trans htail.of_zero, hholds.mono fun _ _ h => Or.inl h, Or.inr hp⟩
  cases op <;> first
    | exact absurd rfl (by assumption)
    | exact ⟨hset.weaken (by omega), hkeep, Or.inl rfl⟩

end ArenaM

end BlockGraph
