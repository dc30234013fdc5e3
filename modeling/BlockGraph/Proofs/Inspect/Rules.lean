import BlockGraph.Inspect.Check
import Mathlib.Data.List.Nodup
/-!
# The rules that the graph check decides

`checkGraph` asks for readable inputs besides the four rules, and compares a parent's place with
its child's by `>`, so a block that names itself as its parent passes rule 3.
-/

namespace BlockGraph.Inspect

open Json

/-! ## The rules -/

def InputReads (raw : String) : Prop :=
  ∃ items, (readAll (Utf8.encode raw)).toOption = some (.array items) ∧ 2 ≤ items.length

/-- An input's text names `id`: an item after its first is the string `id`, or is `null` and
`id` is empty, as reading `null` into a text leaves it empty. -/
def InputNames (raw id : String) : Prop :=
  ∃ items, (readAll (Utf8.encode raw)).toOption = some (.array items) ∧
    (Value.string id ∈ items.drop 1 ∨ id = "" ∧ Value.null ∈ items.drop 1)

def Node.RefersTo (n : Node) (id : String) : Prop :=
  (∃ input ∈ n.inputs, InputNames input.2 id) ∨ n.next = some id

def WrittenBefore (nodes : List Node) (p : String) (n : Node) : Prop :=
  ∃ i j : Nat, i < j ∧ (nodes[i]?).map Node.id = some p ∧ nodes[j]? = some n

namespace Graph

/-- Every input of every block names children: its text is an array of at least two items. -/
def InputsRead (g : Graph) : Prop := ∀ n ∈ g.nodes, ∀ input ∈ n.inputs, InputReads input.2

/-- Rules 1, 2 and 4 of a block graph. -/
structure Linked (g : Graph) : Prop where
  unique : (g.nodes.map Node.id).Nodup
  refers : ∀ n ∈ g.nodes, ∀ id, n.RefersTo id →
    ∃ c ∈ g.nodes, c.id = id ∧ c.parent = some n.id
  orphans : ∀ n ∈ g.nodes, n.parent = none → n.topLevel = true

def ParentsFirst (g : Graph) : Prop :=
  ∀ n ∈ g.nodes, ∀ p, n.parent = some p → WrittenBefore g.nodes p n

def OtherParentsFirst (g : Graph) : Prop :=
  ∀ n ∈ g.nodes, ∀ p, n.parent = some p → p ≠ n.id → WrittenBefore g.nodes p n

/-- Following parent links from a block reaches a block where `stop` holds. -/
inductive Climbs (g : Graph) (stop : Node → Prop) : Node → Prop
  | here {n : Node} : stop n → Climbs g stop n
  | up {n c : Node} : c ∈ g.nodes → n.parent = some c.id → Climbs g stop c → Climbs g stop n

end Graph

def Node.IsRoot (n : Node) : Prop := n.parent = none ∧ n.topLevel = true

def Node.OwnParent (n : Node) : Prop := n.parent = some n.id

/-! ## A block's inputs -/

theorem inputChildren_ok_iff (raw : String) :
    (∃ ids, inputChildren raw = .ok ids) ↔ InputReads raw := by
  unfold inputChildren InputReads
  cases h : (readAll (Utf8.encode raw)).toOption with
  | none => simp
  | some v =>
    cases v with
    | array items =>
      by_cases hlen : items.length < 2
      · simp [hlen]
      · simp [hlen]
        omega
    | null => simp
    | _ => simp

theorem InputNames.reads {raw id : String} (h : InputNames raw id) : InputReads raw := by
  obtain ⟨items, hitems, hmem⟩ := h
  refine ⟨items, hitems, ?_⟩
  have hne : items.drop 1 ≠ [] := by
    rcases hmem with hs | ⟨-, hn⟩
    · exact List.ne_nil_of_mem hs
    · exact List.ne_nil_of_mem hn
  rw [Ne, List.drop_eq_nil_iff, Nat.not_le] at hne
  omega

theorem mem_inputChildren {raw : String} {ids : List String} (h : inputChildren raw = .ok ids)
    (id : String) : id ∈ ids ↔ InputNames raw id := by
  unfold inputChildren at h
  unfold InputNames
  cases hv : (readAll (Utf8.encode raw)).toOption with
  | none => simp [hv] at h
  | some v =>
    rw [hv] at h
    cases v with
    | array items =>
      by_cases hlen : items.length < 2
      · simp [hlen] at h
      · simp only [hlen, if_false, Except.ok.injEq] at h
        subst h
        simp only [List.mem_filterMap, Option.some.injEq, Value.array.injEq, exists_eq_left']
        constructor
        · rintro ⟨v, hv, hid⟩
          cases v <;> simp at hid
          · subst hid
            exact Or.inr ⟨rfl, hv⟩
          · subst hid
            exact Or.inl hv
        · rintro (hs | ⟨rfl, hn⟩)
          · exact ⟨_, hs, rfl⟩
          · exact ⟨_, hn, rfl⟩
    | null => simp at h
    | _ => simp at h

def childrenStep (acc : List String) (input : String × String) :
    Except (String × InputFault) (List String) :=
  match inputChildren input.2 with
  | .ok ids => .ok (acc ++ ids)
  | .error f => .error (input.1, f)

theorem Node.children_eq_foldlM (n : Node) : n.children = n.inputs.foldlM childrenStep [] := rfl

theorem foldlM_childrenStep_cons (input : String × String) (inputs : List (String × String))
    (acc : List String) :
    (input :: inputs).foldlM childrenStep acc =
      match inputChildren input.2 with
      | .ok ids => inputs.foldlM childrenStep (acc ++ ids)
      | .error f => .error (input.1, f) := by
  rw [List.foldlM_cons, childrenStep]
  cases inputChildren input.2 <;> rfl

theorem foldlM_childrenStep_ok_iff (inputs : List (String × String)) (acc : List String) :
    (∃ cs, inputs.foldlM childrenStep acc = .ok cs) ↔
      ∀ input ∈ inputs, InputReads input.2 := by
  induction inputs generalizing acc with
  | nil => exact iff_of_true ⟨acc, rfl⟩ (by simp)
  | cons input inputs ih =>
    rw [foldlM_childrenStep_cons, List.forall_mem_cons, ← inputChildren_ok_iff]
    cases inputChildren input.2 with
    | ok ids => simp [ih]
    | error f => simp

theorem mem_foldlM_childrenStep {inputs : List (String × String)} {acc cs : List String}
    (h : inputs.foldlM childrenStep acc = .ok cs) (id : String) :
    id ∈ cs ↔ id ∈ acc ∨ ∃ input ∈ inputs, InputNames input.2 id := by
  induction inputs generalizing acc with
  | nil =>
    simp only [List.foldlM_nil] at h
    cases h
    simp
  | cons input inputs ih =>
    rw [foldlM_childrenStep_cons] at h
    cases hids : inputChildren input.2 with
    | ok ids =>
      rw [hids] at h
      rw [ih h, List.mem_append, mem_inputChildren hids]
      simp only [List.mem_cons, exists_eq_or_imp, or_assoc]
    | error f =>
      rw [hids] at h
      cases h

theorem Node.children_ok_iff (n : Node) :
    (∃ cs, n.children = .ok cs) ↔ ∀ input ∈ n.inputs, InputReads input.2 := by
  rw [Node.children_eq_foldlM]
  exact foldlM_childrenStep_ok_iff n.inputs []

theorem Node.refersTo_iff {n : Node} {cs : List String} (h : n.children = .ok cs) (id : String) :
    id ∈ cs ++ n.next.toList ↔ n.RefersTo id := by
  rw [Node.children_eq_foldlM] at h
  rw [List.mem_append, mem_foldlM_childrenStep h, Node.RefersTo, Option.mem_toList]
  simp

/-! ## Repeated ids -/

theorem firstRepeat_eq_none_iff (seen ids : List String) :
    firstRepeat seen ids = none ↔ ids.Nodup ∧ ∀ id ∈ ids, id ∉ seen := by
  induction ids generalizing seen with
  | nil => simp [firstRepeat]
  | cons id rest ih =>
    rw [firstRepeat]
    by_cases hseen : id ∈ seen
    · simp [hseen]
    · rw [if_neg (by simpa using hseen), ih, List.nodup_cons, List.forall_mem_cons]
      constructor
      · rintro ⟨hnd, hfresh⟩
        exact ⟨⟨fun h => hfresh id h List.mem_cons_self, hnd⟩, hseen,
          fun x hx h => hfresh x hx (List.mem_cons_of_mem _ h)⟩
      · rintro ⟨⟨hid, hnd⟩, -, hfresh⟩
        refine ⟨hnd, fun x hx h => ?_⟩
        rcases List.mem_cons.1 h with rfl | h
        · exact hid hx
        · exact hfresh x hx h

/-! ## Blocks found by id

With unique ids, an id names one block at one place. -/

section Unique

variable {nodes : List Node} (hnd : (nodes.map Node.id).Nodup)
include hnd

theorem place_eq_of_id_eq {i j : Nat} {n m : Node} (hi : nodes[i]? = some n)
    (hj : nodes[j]? = some m) (h : n.id = m.id) : i = j := by
  have hlen : i < (nodes.map Node.id).length := by
    rw [List.length_map]
    exact (List.getElem?_eq_some_iff.1 hi).1
  refine (List.getElem?_inj hlen hnd).1 ?_
  rw [List.getElem?_map, List.getElem?_map, hi, hj, Option.map_some, Option.map_some, h]

theorem find?_id_eq_some_iff {id : String} {c : Node} :
    nodes.find? (·.id == id) = some c ↔ c ∈ nodes ∧ c.id = id := by
  constructor
  · intro h
    exact ⟨List.mem_of_find?_eq_some h, by simpa using List.find?_some h⟩
  · rintro ⟨hc, rfl⟩
    obtain ⟨c', hfind⟩ : ∃ c', nodes.find? (·.id == c.id) = some c' :=
      Option.isSome_iff_exists.1 (List.find?_isSome.2 ⟨c, hc, by simp⟩)
    have hid : c'.id = c.id := by simpa using List.find?_some hfind
    rw [hfind, List.inj_on_of_nodup_map hnd (List.mem_of_find?_eq_some hfind) hc hid]

theorem positionOf_eq_some_iff {id : String} {i : Nat} :
    positionOf nodes id = some i ↔ (nodes[i]?).map Node.id = some id := by
  unfold positionOf
  rw [List.findIdx?_eq_some_iff_getElem]
  constructor
  · rintro ⟨hi, hid, -⟩
    rw [List.getElem?_eq_getElem hi]
    simpa using hid
  · intro h
    obtain ⟨c, hc, hcid⟩ := Option.map_eq_some_iff.1 h
    obtain ⟨hi, rfl⟩ := List.getElem?_eq_some_iff.1 hc
    refine ⟨hi, by simpa using hcid, fun j hji hj => ?_⟩
    -- an earlier block with the id would stand at the same place
    have hsame := place_eq_of_id_eq hnd (List.getElem?_eq_getElem (Nat.lt_trans hji hi)) hc
      (by simpa [hcid] using hj)
    omega

theorem positionOf_of_mem {n : Node} (hn : n ∈ nodes) :
    ∃ j, positionOf nodes n.id = some j ∧ nodes[j]? = some n := by
  obtain ⟨j, hj⟩ := List.mem_iff_getElem?.1 hn
  exact ⟨j, (positionOf_eq_some_iff hnd).2 (by rw [hj]; rfl), hj⟩

theorem parent_place_iff {n : Node} (hn : n ∈ nodes) (p : String) :
    (∃ i j, positionOf nodes p = some i ∧ positionOf nodes n.id = some j ∧ i ≤ j) ↔
      p = n.id ∨ WrittenBefore nodes p n := by
  obtain ⟨j, hj, hnj⟩ := positionOf_of_mem hnd hn
  constructor
  · rintro ⟨i, j', hi, hj', hle⟩
    rw [hj, Option.some.injEq] at hj'
    subst hj'
    have hpi := (positionOf_eq_some_iff hnd).1 hi
    rcases Nat.lt_or_eq_of_le hle with hlt | rfl
    · exact Or.inr ⟨i, j, hlt, hpi, hnj⟩
    · rw [hnj, Option.map_some, Option.some.injEq] at hpi
      exact Or.inl hpi.symm
  · rintro (rfl | ⟨i, j', hlt, hpi, hnj'⟩)
    · exact ⟨j, j, hj, hj, Nat.le_refl j⟩
    · have hsame := place_eq_of_id_eq hnd hnj' hnj rfl
      subst hsame
      exact ⟨i, j', (positionOf_eq_some_iff hnd).2 hpi, hj, Nat.le_of_lt hlt⟩

/-! ## One block -/

theorem blockViolation?_eq_none_iff {n : Node} (hn : n ∈ nodes) :
    blockViolation? nodes n = none ↔
      (∀ input ∈ n.inputs, InputReads input.2) ∧
      (∀ id, n.RefersTo id → ∃ c ∈ nodes, c.id = id ∧ c.parent = some n.id) ∧
      (n.parent = none → n.topLevel = true) ∧
      (∀ p, n.parent = some p → p = n.id ∨ WrittenBefore nodes p n) := by
  rw [← Node.children_ok_iff]
  unfold blockViolation?
  cases hch : n.children with
  | error e => simp
  | ok cs =>
    simp only
    split
    · -- a reference names no block, or a block with another parent
      rename_i v hv
      simp only [reduceCtorEq, false_iff, not_and]
      rintro - hrefs - -
      obtain ⟨id, hid, hf⟩ := List.exists_of_findSome?_eq_some hv
      obtain ⟨c, hc, hcid, hcp⟩ := hrefs id ((Node.refersTo_iff hch id).1 hid)
      rw [(find?_id_eq_some_iff hnd).2 ⟨hc, hcid⟩] at hf
      simp [hcp] at hf
    · rename_i hv
      rw [List.findSome?_eq_none_iff] at hv
      have hrefs :
          ∀ id, n.RefersTo id → ∃ c ∈ nodes, c.id = id ∧ c.parent = some n.id := by
        intro id hid
        have hf := hv id ((Node.refersTo_iff hch id).2 hid)
        cases hfind : nodes.find? (·.id == id) with
        | none => simp [hfind] at hf
        | some c =>
          rw [hfind] at hf
          obtain ⟨hc, hcid⟩ := (find?_id_eq_some_iff hnd).1 hfind
          exact ⟨c, hc, hcid, by simpa using hf⟩
      simp only [Except.ok.injEq, exists_eq', true_and]
      rw [and_iff_right hrefs]
      cases hp : n.parent with
      | none => simp
      | some p =>
        simp only [reduceCtorEq, false_implies, true_and, Option.some.injEq, forall_eq']
        rw [← parent_place_iff hnd hn p]
        obtain ⟨j, hj, -⟩ := positionOf_of_mem hnd hn
        rw [hj]
        cases positionOf nodes p with
        | none => simp
        | some i => simp

end Unique

/-! ## The whole graph -/

theorem Graph.violation?_eq_none_iff (g : Graph) :
    g.violation? = none ↔ g.InputsRead ∧ g.Linked ∧
      ∀ n ∈ g.nodes, ∀ p, n.parent = some p → p = n.id ∨ WrittenBefore g.nodes p n := by
  unfold Graph.violation?
  dsimp only
  split
  · -- a repeated id breaks rule 1
    rename_i id hrep
    have hdup : ¬(g.nodes.map Node.id).Nodup := fun hnd => by
      have hfresh : ∀ id ∈ g.nodes.map Node.id, id ∉ ([] : List String) :=
        fun _ _ h => absurd h List.not_mem_nil
      rw [(firstRepeat_eq_none_iff [] _).2 ⟨hnd, hfresh⟩] at hrep
      cases hrep
    simp only [reduceCtorEq, false_iff]
    exact fun ⟨_, hlink, _⟩ => hdup hlink.unique
  · rename_i hrep
    have hnd := ((firstRepeat_eq_none_iff [] _).1 hrep).1
    rw [List.findSome?_eq_none_iff]
    constructor
    · intro h
      have hb := fun n hn => (blockViolation?_eq_none_iff hnd hn).1 (h n hn)
      exact ⟨fun n hn => (hb n hn).1,
        ⟨hnd, fun n hn => (hb n hn).2.1, fun n hn => (hb n hn).2.2.1⟩,
        fun n hn => (hb n hn).2.2.2⟩
    · rintro ⟨hin, hlink, hpar⟩ n hn
      exact (blockViolation?_eq_none_iff hnd hn).2
        ⟨hin n hn, hlink.refers n hn, hlink.orphans n hn, hpar n hn⟩

theorem checkGraph_eq_none_iff (data : List UInt8) :
    checkGraph data = none ↔ ∃ g, Graph.read data = .ok g ∧ g.violation? = none := by
  unfold checkGraph
  cases Graph.read data with
  | error f => simp
  | ok g => simp

/-- In a graph with unique ids whose parentless blocks are top level and whose parents, other
than a block itself, are written before their children, following parent links from any block
ends at a top-level block or at a block that is its own parent. -/
theorem Graph.climbs_of_parents_before (g : Graph) (hnd : (g.nodes.map Node.id).Nodup)
    (horph : ∀ n ∈ g.nodes, n.parent = none → n.topLevel = true)
    (hbefore : g.OtherParentsFirst)
    {n : Node} (hn : n ∈ g.nodes) : g.Climbs (fun m => m.IsRoot ∨ m.OwnParent) n := by
  obtain ⟨j, hj⟩ := List.mem_iff_getElem?.1 hn
  -- by strong induction on the place of the block, since a parent is written at an earlier one
  induction j using Nat.strongRecOn generalizing n with
  | ind j ih =>
    cases hp : n.parent with
    | none => exact .here (Or.inl ⟨hp, horph n hn hp⟩)
    | some p =>
      by_cases hself : p = n.id
      · exact .here (Or.inr (by rw [Node.OwnParent, hp, hself]))
      · obtain ⟨i, j', hlt, hpi, hnj⟩ := hbefore n hn p hp hself
        have hsame : j' = j := place_eq_of_id_eq hnd hnj hj rfl
        subst hsame
        obtain ⟨c, hc, rfl⟩ := Option.map_eq_some_iff.1 hpi
        have hcmem := List.mem_of_getElem? hc
        exact .up hcmem hp (ih i hlt hcmem hc)

/-- The graph check passes every text that reads as a graph whose block inputs all name
children and that keeps the four rules; and every text it passes reads as such a graph, except
that a block may name itself as its parent: following parent links from any of its blocks ends
at a top-level block or at a block that is its own parent. -/
theorem checkGraph_decides_rules (data : List UInt8) :
    ((∃ g, Graph.read data = .ok g ∧ g.InputsRead ∧ g.Linked ∧ g.ParentsFirst) →
        checkGraph data = none) ∧
      (checkGraph data = none → ∃ g, Graph.read data = .ok g ∧ g.InputsRead ∧ g.Linked ∧
        g.OtherParentsFirst ∧
        ∀ n ∈ g.nodes, g.Climbs (fun m => m.IsRoot ∨ m.OwnParent) n) := by
  rw [checkGraph_eq_none_iff]
  constructor
  · rintro ⟨g, hread, hin, hlink, hfirst⟩
    exact ⟨g, hread, (Graph.violation?_eq_none_iff g).2
      ⟨hin, hlink, fun n hn p hp => Or.inr (hfirst n hn p hp)⟩⟩
  · rintro ⟨g, hread, hv⟩
    obtain ⟨hin, hlink, hpar⟩ := (Graph.violation?_eq_none_iff g).1 hv
    have hbefore : g.OtherParentsFirst :=
      fun n hn p hp hne => (hpar n hn p hp).resolve_left hne
    exact ⟨g, hread, hin, hlink, hbefore,
      fun n hn => g.climbs_of_parents_before hlink.unique hlink.orphans hbefore hn⟩

set_option synthInstance.maxSize 512 in
/-- The check asks more than the four rules: a text whose one block has the input `[1]` reads
as a graph that keeps them all, yet the check rejects it, since an input of fewer than two items
names no children. -/
theorem checkGraph_rejects_short_input :
    let data := Utf8.encode ("\x7b\"targets\":[\x7b\"name\":\"S\",\"blocks\":\x7b" ++
      "\"1\":\x7b\"opcode\":\"a\",\"parent\":null,\"topLevel\":true," ++
      "\"inputs\":\x7b\"X\":[1]\x7d\x7d\x7d\x7d]\x7d")
    checkGraph data ≠ none ∧
      ∃ g, Graph.read data = .ok g ∧ g.Linked ∧ g.ParentsFirst := by
  intro data
  have hfound : (checkGraph data).isSome = true := by decide +kernel
  have hblocks : (Graph.read data).toOption.map
      (fun g => g.nodes.map fun n => ((n.id, n.parent), (n.next, n.topLevel), n.inputs)) =
        some [(("1", none), (none, true), [("X", "[1]")])] := by decide +kernel
  have hshort : (inputChildren "[1]").toOption = none := by decide +kernel
  refine ⟨fun h => ?_, ?_⟩
  · rw [h] at hfound
    cases hfound
  cases hread : Graph.read data with
  | error f => rw [hread] at hblocks; cases hblocks
  | ok g =>
    rw [hread] at hblocks
    simp only [Except.toOption, Option.map_some, Option.some.injEq, List.map_eq_singleton_iff,
      Prod.mk.injEq] at hblocks
    obtain ⟨n, hnodes, ⟨hid, hpar⟩, ⟨hnext, htop⟩, hin⟩ := hblocks
    refine ⟨g, rfl, ⟨?_, ?_, ?_⟩, ?_⟩
    · rw [hnodes]
      simp
    · intro m hm id hrefers
      rw [hnodes, List.mem_singleton] at hm
      subst hm
      -- the one block refers to nothing: its input is too short and it has no next block
      rcases hrefers with ⟨input, hinput, hnames⟩ | hnext'
      · rw [hin, List.mem_singleton] at hinput
        subst hinput
        obtain ⟨ids, hids⟩ := (inputChildren_ok_iff _).2 hnames.reads
        rw [hids] at hshort
        cases hshort
      · rw [hnext] at hnext'
        cases hnext'
    · intro m hm _
      rw [hnodes, List.mem_singleton] at hm
      subst hm
      exact htop
    · intro m hm p hp
      rw [hnodes, List.mem_singleton] at hm
      subst hm
      rw [hpar] at hp
      cases hp

end BlockGraph.Inspect
