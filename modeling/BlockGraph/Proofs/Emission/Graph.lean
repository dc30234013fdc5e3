import BlockGraph.Proofs.Emission.Run
import BlockGraph.Proofs.Json.Grammar

namespace BlockGraph.Graph

theorem toNat_nodeId {n : Nat} (h : n < Nat.pow 2 32) : (nodeId n).toNat = n :=
  UInt32.toNat_ofNat_of_lt h

theorem nodeId_ne_zero {n : Nat} (hpos : 0 < n) (h : n < Nat.pow 2 32) : nodeId n ≠ 0 := by
  intro h0
  have := toNat_nodeId h
  rw [h0, UInt32.toNat_zero] at this
  omega

def InputValue.ref? : InputValue → Option Nat
  | .block id => some id
  | .literal _ => none

/-- The blocks an input refers to: its value, then the shadow under it. -/
def Input.refs (i : Input) : List Nat :=
  i.value.ref?.toList ++ (i.shadow.bind InputValue.ref?).toList

def Block.next? (b : Block) : Option Nat := if b.next = 0 then none else some b.next

def Block.inputRefs (b : Block) : List Nat := b.inputs.flatMap Input.refs

def Block.refs (b : Block) : List Nat := b.next?.toList ++ b.inputRefs

/-- A text written as a JSON array: it opens with `[`. -/
def ArrayText (t : String) : Prop := ∃ r, t = "[" ++ r

/-- A literal input value is an array, so it is never read as a reference. -/
def InputValue.Shaped : InputValue → Prop
  | .block _ => True
  | .literal t => ArrayText t

def Input.Shaped (i : Input) : Prop := i.value.Shaped ∧ ∀ v ∈ i.shadow, v.Shaped

def InputValue.Writable : InputValue → Prop
  | .block _ => True
  | .literal t => ArrayText t ∧ Json.Grammar.Value t.toList

/-- An input whose value and shadow are written as JSON. -/
def Input.Writable (i : Input) : Prop := i.value.Writable ∧ ∀ v ∈ i.shadow, v.Writable

/-- A block as it is written: every literal input a JSON array, the fields a JSON value, the
mutation none or a JSON value, and at most one input when the inputs are written in one
piece. -/
structure Block.Shaped (b : Block) : Prop where
  inputs : ∀ i ∈ b.inputs, i.Writable
  fields : Json.Grammar.Value b.fields.toList
  mutation : b.mutation = "" ∨ Json.Grammar.Value b.mutation.toList
  packed : b.packedInputs = true → b.inputs.length ≤ 1

/-- `G` has the block `i`, and it names `p` as its parent. -/
def Adopts (G : List Block) (p i : Nat) : Prop := ∃ c ∈ G, c.id = i ∧ c.parent = p

/-- Every block of the list starts a script (top level, parent 0) or names as parent one of
`seen` or a block before it. -/
def ParentsBefore : List Nat → List Block → Prop
  | _, [] => True
  | seen, c :: cs =>
    (c.parent ∈ seen ∨ c.parent = 0 ∧ c.topLevel = true) ∧ ParentsBefore (c.id :: seen) cs

theorem ArrayText.of_toList {t : String} {r : List Char} (h : t.toList = '[' :: r) :
    ArrayText t :=
  ⟨String.ofList r, String.toList_inj.1 (by simp [h, String.toList_append])⟩

theorem ArrayText.append {t : String} (h : ArrayText t) (u : String) : ArrayText (t ++ u) := by
  obtain ⟨r, rfl⟩ := h
  exact ⟨r ++ u, String.append_assoc⟩

theorem arrayText_emptyShadow : ArrayText emptyShadow := ⟨"10,\"\"]", by decide⟩

theorem InputValue.Writable.shaped : ∀ {v : InputValue}, v.Writable → v.Shaped
  | .block _, _ => trivial
  | .literal _, h => h.1

theorem Input.Writable.shaped {i : Input} (h : i.Writable) : i.Shaped :=
  ⟨h.1.shaped, fun v hv => (h.2 v hv).shaped⟩

theorem Block.refs_eq (b : Block) : b.refs = b.next?.toList ++ b.inputRefs := rfl

@[simp] theorem Block.next?_eq_none_iff (b : Block) : b.next? = none ↔ b.next = 0 := by
  unfold Block.next?
  split <;> simp_all

theorem Block.next?_eq_head? {b : Block} {ids : List Nat} (hnext : b.next = ids.headD 0)
    (hpos : ∀ i ∈ ids, 0 < i) : b.next? = ids.head? := by
  unfold Block.next?
  rw [hnext]
  cases ids with
  | nil => rfl
  | cons i is =>
    have := hpos i List.mem_cons_self
    simp [show i ≠ 0 by omega]

namespace Adopts

variable {G G' : List Block} {p i : Nat}

theorem mono (h : Adopts G p i) (hG : G ⊆ G') : Adopts G' p i := by
  obtain ⟨c, hc, hid, hp⟩ := h
  exact ⟨c, hG hc, hid, hp⟩

theorem append_left (h : Adopts G p i) (G' : List Block) : Adopts (G ++ G') p i :=
  h.mono (List.subset_append_left G G')

theorem append_right (h : Adopts G p i) (G' : List Block) : Adopts (G' ++ G) p i :=
  h.mono (List.subset_append_right G' G)

theorem cons (h : Adopts G p i) (b : Block) : Adopts (b :: G) p i :=
  h.mono (List.subset_cons_self b G)

theorem head {b : Block} (G : List Block) : Adopts (b :: G) b.parent b.id :=
  ⟨b, List.mem_cons_self, rfl, rfl⟩

end Adopts

namespace ParentsBefore

theorem mono : ∀ {seen seen' : List Nat} {B : List Block}, ParentsBefore seen B →
    seen ⊆ seen' → ParentsBefore seen' B
  | _, _, [], _, _ => trivial
  | _, _, _ :: _, ⟨hc, hcs⟩, hs =>
    ⟨hc.imp_left (hs ·), mono hcs (List.cons_subset_cons _ hs)⟩

theorem append : ∀ {seen : List Nat} {B₁ B₂ : List Block},
    ParentsBefore seen B₁ → ParentsBefore seen B₂ → ParentsBefore seen (B₁ ++ B₂)
  | _, [], _, _, h₂ => h₂
  | _, _ :: _, _, ⟨hc, hcs⟩, h₂ =>
    ⟨hc, append hcs (h₂.mono (List.subset_cons_self _ _))⟩

theorem of_parent_mem : ∀ {seen : List Nat} {B : List Block},
    (∀ c ∈ B, c.parent ∈ seen) → ParentsBefore seen B
  | _, [], _ => trivial
  | _, c :: _, h => ⟨Or.inl (h c List.mem_cons_self),
      of_parent_mem fun c' hc' => List.mem_cons_of_mem _ (h c' (List.mem_cons_of_mem c hc'))⟩

theorem parent_before : ∀ {seen : List Nat} {pre post : List Block} {c : Block},
    ParentsBefore seen (pre ++ c :: post) →
      c.parent ∈ seen ∨ (c.parent = 0 ∧ c.topLevel = true) ∨ ∃ p ∈ pre, p.id = c.parent
  | _, [], _, _, ⟨hc, _⟩ => hc.elim Or.inl (Or.inr ∘ Or.inl)
  | _, q :: pre, _, _, ⟨_, hrest⟩ => by
    rcases parent_before hrest with h | h | ⟨p, hp, hid⟩
    · rcases List.mem_cons.1 h with h | h
      · exact Or.inr (Or.inr ⟨q, List.mem_cons_self, h.symm⟩)
      · exact Or.inl h
    · exact Or.inr (Or.inl h)
    · exact Or.inr (Or.inr ⟨p, List.mem_cons_of_mem q hp, hid⟩)

end ParentsBefore

/-- The blocks one emission run writes, as described in the module header. -/
structure Fragment (own : List Nat) (parent lo hi : Nat) (B : List Block) : Prop where
  ids : ∀ b ∈ B, b.id ∈ own ∨ lo < b.id ∧ b.id ≤ hi
  nodup : (B.map Block.id).Nodup
  adopted : ∀ b ∈ B, ∀ i ∈ b.refs, Adopts B b.id i
  parents : ParentsBefore [parent] B
  inner : ∀ b ∈ B, b.topLevel = false
  shaped : ∀ b ∈ B, b.Shaped

namespace Fragment

variable {own own₁ own₂ : List Nat} {p lo m hi : Nat}

theorem nil : Fragment own p lo hi [] where
  ids := by simp
  nodup := List.nodup_nil
  adopted := by simp
  parents := trivial
  inner := by simp
  shaped := by simp

theorem leaf {b : Block} (hrefs : b.refs = []) (hparent : b.parent = p)
    (hinner : b.topLevel = false) (hshaped : b.Shaped) :
    Fragment [b.id] p lo hi [b] where
  ids := by simp
  nodup := by simp
  adopted := by simp [hrefs]
  parents := ⟨Or.inl (by simp [hparent]), trivial⟩
  inner := by simp [hinner]
  shaped := by simpa using hshaped

theorem leaves {Rs : List Block}
    (hleaf : ∀ b ∈ Rs, b.parent = p ∧ b.refs = [] ∧ b.topLevel = false ∧ b.Shaped)
    (hids : Rs.map Block.id = own) (hnodup : own.Nodup) : Fragment own p lo hi Rs where
  ids b hb := Or.inl (hids ▸ List.mem_map_of_mem hb)
  nodup := hids ▸ hnodup
  adopted b hb i hi := by simp [(hleaf b hb).2.1] at hi
  parents := ParentsBefore.of_parent_mem fun c hc => by simp [(hleaf c hc).1]
  inner b hb := (hleaf b hb).2.2.1
  shaped b hb := (hleaf b hb).2.2.2

theorem widen {B : List Block} {own' : List Nat} {lo' : Nat} (h : Fragment own p lo hi B)
    (hown : ∀ i ∈ own, i ∈ own' ∨ lo' < i ∧ i ≤ hi) (hlo : lo' ≤ lo) : Fragment own' p lo' hi B where
  ids := by
    intro b hb
    rcases h.ids b hb with h' | h'
    · exact hown _ h'
    · exact Or.inr ⟨by omega, h'.2⟩
  nodup := h.nodup
  adopted := h.adopted
  parents := h.parents
  inner := h.inner
  shaped := h.shaped

theorem append {B₁ B₂ : List Block} (h₁ : Fragment own₁ p lo m B₁) (h₂ : Fragment own₂ p m hi B₂)
    (hown : ∀ i ∈ own₁ ++ own₂, i ≤ lo) (hm : lo ≤ m) (hhi : m ≤ hi) (hdisj : ∀ i ∈ own₁, i ∉ own₂) :
    Fragment (own₁ ++ own₂) p lo hi (B₁ ++ B₂) where
  ids := by
    intro b hb
    rcases List.mem_append.1 hb with hb | hb
    · rcases h₁.ids b hb with h | h
      · exact Or.inl (List.mem_append_left _ h)
      · exact Or.inr ⟨h.1, by omega⟩
    · rcases h₂.ids b hb with h | h
      · exact Or.inl (List.mem_append_right _ h)
      · exact Or.inr ⟨by omega, h.2⟩
  nodup := by
    rw [List.map_append, List.nodup_append]
    refine ⟨h₁.nodup, h₂.nodup, ?_⟩
    intro a ha b hb hab
    obtain ⟨c₁, hc₁, rfl⟩ := List.mem_map.1 ha
    obtain ⟨c₂, hc₂, rfl⟩ := List.mem_map.1 hb
    have hl₁ := fun h => hown c₁.id (List.mem_append_left own₂ h)
    have hl₂ := fun h => hown c₂.id (List.mem_append_right own₁ h)
    rcases h₁.ids c₁ hc₁ with h₁' | h₁' <;> rcases h₂.ids c₂ hc₂ with h₂' | h₂'
    · exact hdisj _ h₁' (hab ▸ h₂')
    · have := hl₁ h₁'
      omega
    · have := hl₂ h₂'
      omega
    · omega
  adopted := by
    intro b hb i hi
    rcases List.mem_append.1 hb with hb | hb
    · exact (h₁.adopted b hb i hi).append_left B₂
    · exact (h₂.adopted b hb i hi).append_right B₁
  parents := h₁.parents.append h₂.parents
  inner := by
    intro b hb
    rcases List.mem_append.1 hb with hb | hb
    · exact h₁.inner b hb
    · exact h₂.inner b hb
  shaped := by
    intro b hb
    rcases List.mem_append.1 hb with hb | hb
    · exact h₁.shaped b hb
    · exact h₂.shaped b hb

theorem cons {b : Block} {R : List Block} (hR : Fragment own b.id lo hi R)
    (hrefs : ∀ i ∈ b.refs, Adopts R b.id i) (hparent : b.parent = p) (hinner : b.topLevel = false)
    (hshaped : b.Shaped) (hid : b.id ∉ own) (hlo : b.id ≤ lo) :
    Fragment (b.id :: own) p lo hi (b :: R) where
  ids := by
    intro c hc
    rcases List.mem_cons.1 hc with rfl | hc
    · exact Or.inl List.mem_cons_self
    · exact (hR.ids c hc).imp_left (List.mem_cons_of_mem _)
  nodup := by
    refine List.nodup_cons.2 ⟨?_, hR.nodup⟩
    intro hmem
    obtain ⟨c, hc, hcid⟩ := List.mem_map.1 hmem
    rcases hR.ids c hc with h | h
    · exact hid (hcid ▸ h)
    · omega
  adopted := by
    intro c hc i hi
    rcases List.mem_cons.1 hc with rfl | hc
    · exact (hrefs i hi).cons c
    · exact (hR.adopted c hc i hi).cons b
  parents := ⟨Or.inl (by simp [hparent]), hR.parents.mono (by simp)⟩
  inner := by
    intro c hc
    rcases List.mem_cons.1 hc with rfl | hc
    · exact hinner
    · exact hR.inner c hc
  shaped := by
    intro c hc
    rcases List.mem_cons.1 hc with rfl | hc
    · exact hshaped
    · exact hR.shaped c hc

end Fragment

/-- A block `b` followed by a fragment `R` under it that adopts every input of `b`: what a node
writes together with the blocks of its slots and branches. -/
structure NodeOver (lo hi : Nat) (b : Block) (R : List Block) : Prop where
  fragment : Fragment [] b.id lo hi R
  inputs : ∀ i ∈ b.inputRefs, Adopts R b.id i
  shaped : b.Shaped
  inner : b.topLevel = false

theorem NodeOver.toFragment {lo hi : Nat} {b : Block} {R : List Block} (h : NodeOver lo hi b R)
    (hnext : b.next = 0) (hid : b.id ≤ lo) : Fragment [b.id] b.parent lo hi (b :: R) := by
  refine Fragment.cons h.fragment (fun i hi => ?_) rfl h.inner h.shaped List.not_mem_nil hid
  rw [Block.refs_eq, (Block.next?_eq_none_iff b).2 hnext, Option.toList_none,
    List.nil_append] at hi
  exact h.inputs i hi

end BlockGraph.Graph
