import BlockGraph.Proofs.Emission.Graph
import BlockGraph.Proofs.Emission.Text

namespace BlockGraph

/-- Whether an expression is written as a block of its own rather than inline in an input. -/
def Expr.needsBlock : Expr → Bool
  | .int .. | .float .. | .str .. | .name _ | .accessor .. => false
  | _ => true

/-- A primitive whose menu fills at most one of its argument slots. -/
def Primitive.MenuOnce (p : Primitive) : Prop := (p.args.filter p.isMenuSlot).length ≤ 1

instance (p : Primitive) : Decidable p.MenuOnce := Nat.decLe _ _

theorem length_filter_zip_le {α β : Type} (f : α → Bool) :
    ∀ (xs : List α) (ys : List β), ((xs.zip ys).filter fun q => f q.1).length ≤ (xs.filter f).length
  | [], _ => by simp
  | _ :: _, [] => by simp
  | x :: xs, y :: ys => by
    have ih := length_filter_zip_le f xs ys
    simp only [List.zip_cons_cons, List.filter_cons]
    split <;> simp [ih]

theorem Primitive.MenuOnce.eq_of_isMenuSlot {p : Primitive} (hp : p.MenuOnce) {args : List Expr}
    {t t' : String × Expr} (ht : t ∈ p.args.zip args) (ht' : t' ∈ p.args.zip args)
    (hm : p.isMenuSlot t.1 = true) (hm' : p.isMenuSlot t'.1 = true) : t = t' := by
  have hle := Nat.le_trans (length_filter_zip_le p.isMenuSlot p.args args) hp
  have hmem : t ∈ (p.args.zip args).filter fun q => p.isMenuSlot q.1 := List.mem_filter.2 ⟨ht, hm⟩
  have hmem' : t' ∈ (p.args.zip args).filter fun q => p.isMenuSlot q.1 :=
    List.mem_filter.2 ⟨ht', hm'⟩
  generalize (p.args.zip args).filter (fun q => p.isMenuSlot q.1) = l at hle hmem hmem'
  rcases l with _ | ⟨a, _ | ⟨b, l⟩⟩
  · simp at hmem
  · rw [List.mem_singleton] at hmem hmem'
    rw [hmem, hmem']
  · simp at hle

/-- A primitive whose block can be written: its menu fills at most one slot, and its fixed
fields are none or a JSON value. -/
structure Primitive.Writable (p : Primitive) : Prop where
  menuOnce : p.MenuOnce
  fields : p.fields = "" ∨ Json.Grammar.Value p.fields.toList

mutual

def Expr.primitives : Expr → List Primitive
  | .repr p args _ => p :: Expr.primitivesOf args
  | .unop _ e _ => e.primitives
  | .binop _ l r _ => l.primitives ++ r.primitives
  | _ => []

def Expr.primitivesOf : List Expr → List Primitive
  | [] => []
  | e :: es => e.primitives ++ Expr.primitivesOf es

end

theorem Expr.mem_primitivesOf {p : Primitive} :
    ∀ {es : List Expr}, p ∈ Expr.primitivesOf es ↔ ∃ e ∈ es, p ∈ e.primitives
  | [] => by simp [Expr.primitivesOf]
  | e :: es => by simp [Expr.primitivesOf, Expr.mem_primitivesOf]

namespace Graph

/-- Whether the value of a slot is written as a block of its own. -/
def Slot.needsBlock (sl : Slot) : Bool := sl.value.any Expr.needsBlock

open EmitM Json.Grammar

/-! ## Literal texts -/

theorem writable_emptyShadow : InputValue.Writable (.literal emptyShadow) := by
  refine ⟨arrayText_emptyShadow, ?_⟩
  have h : emptyShadow.toList = arrayText [(toString 10).toList, ['"', '"']] := by decide
  rw [h]
  exact value_arrayText ⟨value_toString 10, .string (Str.of_unescaped (show ∀ c ∈ ([] : List Char), Unescaped c by simp)), trivial⟩

theorem writable_tagged {pre : String} {n : Nat}
    (hpre : pre.toList = '[' :: (toString n).toList ++ [',']) (q : String) :
    InputValue.Writable (.literal (pre ++ Json.quoteKept q ++ "]")) := by
  refine ⟨((ArrayText.of_toList hpre).append _).append _, ?_⟩
  have h : (pre ++ Json.quoteKept q ++ "]").toList =
      arrayText [(toString n).toList, (Json.quoteKept q).toList] := by
    simp [String.toList_append, hpre, arrayText, commaSep]
  rw [h]
  exact value_arrayText ⟨value_toString n, value_quoteKept q, trivial⟩

theorem writable_named {pre : String} {n : Nat}
    (hpre : pre.toList = '[' :: (toString n).toList ++ [',']) (q : String) :
    InputValue.Writable (.literal (pre ++ Json.quoteKept q ++ "," ++ Json.quoteKept q ++ "]")) := by
  refine ⟨((((ArrayText.of_toList hpre).append _).append _).append _).append _, ?_⟩
  have h : (pre ++ Json.quoteKept q ++ "," ++ Json.quoteKept q ++ "]").toList =
      arrayText [(toString n).toList, (Json.quoteKept q).toList, (Json.quoteKept q).toList] := by
    simp [String.toList_append, hpre, arrayText, commaSep]
  rw [h]
  exact value_arrayText ⟨value_toString n, value_quoteKept q, value_quoteKept q, trivial⟩

theorem value_fieldValue (name value : String) : Value (fieldValue name value).toList := by
  have h : (fieldValue name value).toList = objectText
      [((Json.quoteKept name).toList, arrayText [(Json.quoteKept value).toList, "null".toList])] := by
    simp [fieldValue, String.toList_append, objectText, arrayText, commaSep, memberText]
  rw [h]
  exact value_objectText
    (.cons (str_quoteKept name) (value_arrayText ⟨value_quoteKept value, value_null, trivial⟩) trivial)

theorem value_fieldRef (name value : String) : Value (fieldRef name value).toList := by
  have h : (fieldRef name value).toList = objectText [((Json.quoteKept name).toList,
      arrayText [(Json.quoteKept value).toList, (Json.quoteKept value).toList])] := by
    simp [fieldRef, String.toList_append, objectText, arrayText, commaSep, memberText]
  rw [h]
  exact value_objectText (.cons (str_quoteKept name)
    (value_arrayText ⟨value_quoteKept value, value_quoteKept value, trivial⟩) trivial)

theorem value_fixedObject {name value : String} (hname : ∀ c ∈ name.toList, Unescaped c)
    (hvalue : ∀ c ∈ value.toList, Unescaped c) :
    Value ("\x7b\"" ++ name ++ "\":[\"" ++ value ++ "\",null]\x7d").toList := by
  have h : ("\x7b\"" ++ name ++ "\":[\"" ++ value ++ "\",null]\x7d").toList = objectText
      [('"' :: name.toList ++ ['"'], arrayText ['"' :: value.toList ++ ['"'], "null".toList])] := by
    simp [String.toList_append, objectText, arrayText, commaSep, memberText]
  rw [h]
  exact value_objectText ⟨⟨Str.of_unescaped hname,
    value_arrayText ⟨.string (Str.of_unescaped hvalue), value_null, trivial⟩⟩, trivial⟩

theorem mathName_unescaped (op : UnOp) : ∀ n ∈ op.mathName?, ∀ c ∈ n.toList, Unescaped c := by
  intro n hn
  cases op <;> simp only [UnOp.mathName?, Option.mem_def, reduceCtorEq, Option.some.injEq] at hn <;>
    subst hn <;> simp [Unescaped]

theorem value_jsonList (values : List String) : Value (jsonList values).toList := by
  unfold jsonList
  exact value_quote _

def callMembers (proc : String) (ps : List Param) (warp : Bool) : List (List Char × List Char) :=
  [(key "tagName", key "mutation"), (key "children", arrayText []),
    (key "proccode", (Json.quoteKept (proccode proc ps)).toList),
    (key "argumentids", (jsonList (ps.map (·.id))).toList),
    (key "warp", (Json.quoteKept (flagText warp)).toList)]

/-- The members of a prototype's mutation, as written. -/
def prototypeMembers (p : Proc) (ps : List Param) : List (List Char × List Char) :=
  [(key "tagName", key "mutation"), (key "children", arrayText []),
    (key "proccode", (Json.quoteKept (proccode p.name ps)).toList),
    (key "argumentids", (jsonList (ps.map (·.id))).toList),
    (key "argumentnames", (jsonList (ps.map (·.name))).toList),
    (key "argumentdefaults", (jsonList (ps.map fun _ => "")).toList),
    (key "warp", (Json.quoteKept (flagText p.warp)).toList)]

theorem callMutation_toList (proc : String) (ps : List Param) (warp : Bool) :
    (callMutation proc ps warp).toList = objectText (callMembers proc ps warp) := by
  unfold callMutation callMembers key
  simp only [String.toList_append, List.append_assoc]
  simp [objectText, arrayText, commaSep, memberText]

theorem prototypeMutation_toList (p : Proc) (ps : List Param) :
    (prototypeMutation p ps).toList = objectText (prototypeMembers p ps) := by
  unfold prototypeMutation prototypeMembers key
  simp only [String.toList_append, List.append_assoc]
  simp [objectText, arrayText, commaSep, memberText]

theorem value_callMutation (proc : String) (ps : List Param) (warp : Bool) :
    Value (callMutation proc ps warp).toList := by
  rw [callMutation_toList]
  refine value_objectText ⟨⟨?_, ?_⟩, ⟨?_, ?_⟩, ⟨?_, ?_⟩, ⟨?_, ?_⟩, ⟨?_, ?_⟩, trivial⟩
  all_goals dsimp only
  · exact str_key (by simp [Unescaped])
  · exact .string (str_key (by simp [Unescaped]))
  · exact str_key (by simp [Unescaped])
  · exact value_arrayText (show Values [] from trivial)
  · exact str_key (by simp [Unescaped])
  · exact value_quoteKept _
  · exact str_key (by simp [Unescaped])
  · exact value_jsonList _
  · exact str_key (by simp [Unescaped])
  · exact value_quoteKept _

theorem value_prototypeMutation (p : Proc) (ps : List Param) :
    Value (prototypeMutation p ps).toList := by
  rw [prototypeMutation_toList]
  refine value_objectText
    ⟨⟨?_, ?_⟩, ⟨?_, ?_⟩, ⟨?_, ?_⟩, ⟨?_, ?_⟩, ⟨?_, ?_⟩, ⟨?_, ?_⟩, ⟨?_, ?_⟩, trivial⟩
  all_goals dsimp only
  · exact str_key (by simp [Unescaped])
  · exact .string (str_key (by simp [Unescaped]))
  · exact str_key (by simp [Unescaped])
  · exact value_arrayText (show Values [] from trivial)
  · exact str_key (by simp [Unescaped])
  · exact value_quoteKept _
  · exact str_key (by simp [Unescaped])
  · exact value_jsonList _
  · exact str_key (by simp [Unescaped])
  · exact value_jsonList _
  · exact str_key (by simp [Unescaped])
  · exact value_jsonList _
  · exact str_key (by simp [Unescaped])
  · exact value_quoteKept _

theorem opFields_writable (op : UnOp) : op.fields = "" ∨ Value op.fields.toList := by
  unfold UnOp.fields
  split
  · have hpre : "\x7b\"OPERATOR\":[\"" = "\x7b\"" ++ "OPERATOR" ++ "\":[\"" := by decide
    rw [hpre]
    exact Or.inr (value_fixedObject (by simp [Unescaped]) (mathName_unescaped op _ ‹_›))
  · exact Or.inl rfl

theorem value_emptyObject : Value "\x7b\x7d".toList := value_objectText (show Members [] from trivial)

theorem value_fieldsText {f : String} (h : f = "" ∨ Value f.toList) :
    Value (if f == "" then "\x7b\x7d" else f).toList := by
  split
  · exact value_emptyObject
  · rename_i hne
    exact h.resolve_left (by simpa using hne)

theorem inlineName_quietly (n : Name) (field : String) :
    (inlineName n field).Quietly fun r => r.2.2 = true ∧ InputValue.Writable (.literal r.1) := by
  unfold inlineName
  refine Quietly.bind Quietly.read fun sc _ => ?_
  simp only [pure_bind]
  repeat' split
  all_goals try refine Quietly.report_bind ?_
  all_goals refine Quietly.pure ⟨rfl, ?_⟩
  all_goals dsimp only
  all_goals first
    | with_reducible exact writable_emptyShadow
    | with_reducible exact writable_named (n := 12) (by decide) _
    | with_reducible exact writable_named (n := 13) (by decide) _

theorem inlineAccessor_quietly (symbol : String) (symbolSpan : Span) (property : String)
    (propertySpan : Span) :
    (inlineAccessor symbol symbolSpan property propertySpan).Quietly
      fun r => r.2.2 = true ∧ InputValue.Writable (.literal r.1) := by
  unfold inlineAccessor
  refine Quietly.bind Quietly.read fun sc _ => ?_
  dsimp only
  repeat' split
  all_goals try refine Quietly.report_bind ?_
  all_goals refine Quietly.pure ⟨rfl, ?_⟩
  all_goals dsimp only
  all_goals first
    | with_reducible exact writable_emptyShadow
    | with_reducible exact writable_tagged (n := 10) (by decide) _
    | with_reducible exact writable_named (n := 12) (by decide) _

theorem inlineValue_quietly (sl : Slot) :
    (inlineValue sl).Quietly fun r =>
      r.2.2 = !sl.needsBlock ∧ (r.2.2 = true → InputValue.Writable (.literal r.1)) := by
  rcases sl with ⟨name, _ | e, boolean, field⟩
  · exact Quietly.pure ⟨rfl, fun _ => writable_emptyShadow⟩
  cases e
  case name n =>
    exact (inlineName_quietly n field).imp fun r h => ⟨h.1, fun _ => h.2⟩
  case accessor symbol symbolSpan property propertySpan =>
    exact (inlineAccessor_quietly symbol symbolSpan property propertySpan).imp
      fun r h => ⟨h.1, fun _ => h.2⟩
  case str t span =>
    unfold inlineValue
    dsimp only
    split
    all_goals refine Quietly.pure ⟨rfl, fun _ => ?_⟩
    all_goals dsimp only
    all_goals first
      | with_reducible exact writable_named (n := 11) (by decide) _
      | with_reducible exact writable_tagged (n := 10) (by decide) _
  all_goals refine Quietly.pure ⟨rfl, fun h => ?_⟩
  all_goals dsimp only at h ⊢
  all_goals first
    | with_reducible exact writable_tagged (n := 4) (by decide) _
    | cases h

@[simp] theorem childInput_name (name : String) (child : Nat) (boolean : Bool) :
    (childInput name child boolean).name = name := by
  unfold childInput
  split <;> rfl

@[simp] theorem childInput_refs (name : String) (child : Nat) (boolean : Bool) :
    (childInput name child boolean).refs = [child] := by
  unfold childInput
  split <;> rfl

theorem childInput_writable (name : String) (child : Nat) (boolean : Bool) :
    (childInput name child boolean).Writable := by
  unfold childInput
  split
  · exact ⟨trivial, by simp⟩
  · exact ⟨trivial, by simpa using writable_emptyShadow⟩

/-- The input of a slot: named for it, referring to `child` exactly when the slot's value is a
block, and written as JSON. -/
def SlotInput (sl : Slot) (child : Nat) (i : Input) : Prop :=
  i.name = sl.name ∧ i.refs = (if sl.needsBlock then [child] else []) ∧ i.Writable

theorem slotInput_quietly (sl : Slot) (child : Nat) :
    (slotInput sl child).Quietly (SlotInput sl child) := by
  unfold slotInput
  refine Quietly.bind (inlineValue_quietly sl) fun ⟨text, literal, inline⟩ ⟨hinline, harr⟩ => ?_
  dsimp only at hinline harr ⊢
  cases inline
  · have hb : sl.needsBlock = true := by simpa using hinline
    simp only [Bool.false_and, Bool.false_eq_true, if_false]
    exact Quietly.pure ⟨childInput_name .., by simp [hb], childInput_writable ..⟩
  · have hb : sl.needsBlock = false := by simpa using hinline
    have htext : InputValue.Writable (.literal text) := harr rfl
    have hempty : InputValue.Writable (.literal emptyShadow) := writable_emptyShadow
    repeat' split
    any_goals contradiction
    all_goals refine Quietly.pure ⟨rfl, by simp [Input.refs, InputValue.ref?, hb], htext, ?_⟩
    all_goals simp [hempty]

theorem SlotInput.refs_adopted {sl : Slot} {child : Nat} {i : Input} (hi : SlotInput sl child i)
    {B : List Block} {p : Nat} (h : sl.needsBlock = true → Adopts B p child) :
    ∀ j ∈ i.refs, Adopts B p j := by
  intro j hj
  rw [hi.2.1] at hj
  split at hj
  · rw [List.mem_singleton] at hj
    subst hj
    exact h ‹_›
  · simp at hj

/-- The block `writeNode spec` writes, as far as the graph goes: the header of `spec`, the
inputs of its slots, then one input per non-empty branch naming the branch's first
statement. -/
structure NodeBlock (spec : NodeSpec) (slotIds : List Nat) (bodyIds : List (List Nat))
    (b : Block) : Prop where
  id : b.id = spec.id
  opcode : b.opcode = spec.opcode
  parent : b.parent = spec.parent
  next : b.next = spec.next
  topLevel : b.topLevel = spec.topLevel
  inputs : ∃ ins, (∀ i ∈ ins, ∃ p ∈ spec.slots.zip slotIds, SlotInput p.1 p.2 i) ∧
    b.inputs = ins ++ (spec.branches.zip bodyIds).filterMap fun p =>
      p.2.head?.map fun first => childInput p.1.1 first true
  fields : b.fields = if spec.fields == "" then "\x7b\x7d" else spec.fields
  mutation : b.mutation = spec.mutation
  packed : b.packedInputs = false

/-- A node whose fixed texts are JSON: its fields and its mutation are each none or a value. -/
def NodeSpec.Writable (spec : NodeSpec) : Prop :=
  (spec.fields = "" ∨ Value spec.fields.toList) ∧ (spec.mutation = "" ∨ Value spec.mutation.toList)

theorem writeNode_runs {spec : NodeSpec} {r : List Nat × List (List Nat)} {sc : EmitScope}
    {s s' : EmitState} (h : (writeNode spec).Runs sc s r s') :
    ∃ k b, r.1 ++ r.2.flatten = List.range' (s.last + 1) k ∧
      r.1.length = spec.slots.length ∧ r.2.map List.length = spec.branches.map Prod.snd ∧
      s'.last = s.last + k ∧ s'.blocks = s.blocks ++ [b] ∧ NodeBlock spec r.1 r.2 b := by
  unfold writeNode at h
  obtain ⟨slotIds, s₁, h₁, h⟩ := runs_bind.1 h
  obtain ⟨bodyIds, s₂, h₂, h⟩ := runs_bind.1 h
  dsimp only at h
  rw [ite_bind_same] at h
  obtain ⟨y, s₃, h₃, h⟩ := runs_bind.1 h
  obtain ⟨inputs, s₄, h₄, h⟩ := runs_bind.1 h
  obtain ⟨u, s₅, h₅, h⟩ := runs_bind.1 h
  obtain ⟨rfl, rfl⟩ := runs_pure.1 h
  obtain ⟨rfl, rfl⟩ := runs_take.1 h₁
  obtain ⟨k, hflat, hlen, rfl⟩ := runs_mapM_take h₂
  have ⟨hl₃, hb₃⟩ : s₃.last = s.last + spec.slots.length + k ∧ s₃.blocks = s.blocks := by
    split at h₃
    · exact runs_place_state h₃
    · obtain ⟨-, rfl⟩ := runs_pure.1 h₃
      exact ⟨rfl, rfl⟩
  obtain ⟨hins, hl₄, hb₄⟩ := Quietly.mapM (fun (p : Slot × Nat) => slotInput_quietly p.1 p.2) _ h₄
  obtain rfl := runs_push.1 h₅
  refine ⟨spec.slots.length + k, _, ?_, List.length_range', by simpa using hlen, ?_,
    by rw [EmitState.blocks_push_block, hb₄, hb₃], ?_⟩
  · dsimp only at hflat ⊢
    rw [hflat, show s.last + spec.slots.length + 1 = s.last + 1 + spec.slots.length by omega,
      List.range'_append_1]
  · show s₄.last = _
    rw [hl₄, hl₃]
    omega
  · exact ⟨rfl, rfl, rfl, rfl, rfl, ⟨inputs, hins, rfl⟩, rfl, rfl, rfl⟩

namespace NodeBlock

variable {spec : NodeSpec} {slotIds : List Nat} {bodyIds : List (List Nat)} {b : Block}

theorem inputRef_cases (hb : NodeBlock spec slotIds bodyIds b) {i : Nat} (hi : i ∈ b.inputRefs) :
    (∃ p ∈ spec.slots.zip slotIds, p.1.needsBlock = true ∧ p.2 = i) ∨
      ∃ q ∈ spec.branches.zip bodyIds, q.2.head? = some i := by
  obtain ⟨ins, hins, heq⟩ := hb.inputs
  unfold Block.inputRefs at hi
  rw [heq, List.flatMap_append, List.mem_append] at hi
  rcases hi with hi | hi
  · obtain ⟨inp, hinp, hr⟩ := List.mem_flatMap.1 hi
    obtain ⟨p, hp, -, hrefs, -⟩ := hins inp hinp
    rw [hrefs] at hr
    split at hr
    · exact Or.inl ⟨p, hp, ‹_›, (List.mem_singleton.1 hr).symm⟩
    · simp at hr
  · obtain ⟨inp, hinp, hr⟩ := List.mem_flatMap.1 hi
    obtain ⟨q, hq, hmap⟩ := List.mem_filterMap.1 hinp
    obtain ⟨first, hfirst, rfl⟩ := Option.map_eq_some_iff.1 hmap
    rw [childInput_refs, List.mem_singleton] at hr
    exact Or.inr ⟨q, hq, hr ▸ hfirst⟩

theorem shaped (hb : NodeBlock spec slotIds bodyIds b) (hspec : spec.Writable) : b.Shaped where
  inputs := by
    obtain ⟨ins, hins, heq⟩ := hb.inputs
    intro inp hinp
    rw [heq, List.mem_append] at hinp
    rcases hinp with hinp | hinp
    · obtain ⟨p, -, -, -, hwritable⟩ := hins inp hinp
      exact hwritable
    · obtain ⟨q, -, hmap⟩ := List.mem_filterMap.1 hinp
      obtain ⟨first, -, rfl⟩ := Option.map_eq_some_iff.1 hmap
      exact childInput_writable ..
  fields := hb.fields ▸ value_fieldsText hspec.1
  mutation := hb.mutation ▸ hspec.2
  packed h := absurd (hb.packed ▸ h) Bool.false_ne_true

theorem inputRefs_adopted (hb : NodeBlock spec slotIds bodyIds b) {F : List Block}
    (hslots : ∀ p ∈ spec.slots.zip slotIds, p.1.needsBlock = true → Adopts F spec.id p.2)
    (hbodies : ∀ q ∈ spec.branches.zip bodyIds, ∀ i ∈ q.2.head?, Adopts F spec.id i) :
    ∀ i ∈ b.inputRefs, Adopts F b.id i := by
  intro i hi
  rw [hb.id]
  rcases hb.inputRef_cases hi with ⟨p, hp, hneed, rfl⟩ | ⟨q, hq, hhead⟩
  · exact hslots p hp hneed
  · exact hbodies q hq i hhead

theorem inputRefs_eq_nil (hb : NodeBlock spec slotIds bodyIds b)
    (hs : spec.slots = []) (hbr : spec.branches = []) : b.inputRefs = [] := by
  refine List.eq_nil_iff_forall_not_mem.2 fun i hi => ?_
  rcases hb.inputRef_cases hi with ⟨p, hp, -⟩ | ⟨q, hq, -⟩
  · simp [hs] at hp
  · simp [hbr] at hq

end NodeBlock

theorem writeNode_over {spec : NodeSpec} {r : List Nat × List (List Nat)} {sc : EmitScope}
    {s s₁ s' : EmitState} {R : List Block} (h : (writeNode spec).Runs sc s r s₁)
    (htop : spec.topLevel = false) (hspec : spec.Writable) (hblocks : s'.blocks = s₁.blocks ++ R)
    (hle : s₁.last ≤ s'.last) (hR : Fragment (r.1 ++ r.2.flatten) spec.id s₁.last s'.last R)
    (hslots : ∀ p ∈ spec.slots.zip r.1, p.1.needsBlock = true → Adopts R spec.id p.2)
    (hbodies : ∀ q ∈ spec.branches.zip r.2, ∀ i ∈ q.2.head?, Adopts R spec.id i) :
    ∃ b, s'.blocks = s.blocks ++ b :: R ∧ s.last ≤ s'.last ∧ NodeBlock spec r.1 r.2 b ∧
      NodeOver s.last s'.last b R := by
  obtain ⟨k, b, hids, -, -, hlast, hblocks₁, hb⟩ := writeNode_runs h
  refine ⟨b, by rw [hblocks, hblocks₁, List.append_assoc]; rfl, by omega, hb, ?_, ?_,
    hb.shaped hspec, hb.topLevel.trans htop⟩
  · rw [hb.id]
    refine hR.widen (fun i hi => Or.inr ?_) (by omega)
    rw [hids, List.mem_range'_1] at hi
    omega
  · exact hb.inputRefs_adopted hslots hbodies

/-- What the input of the argument `t = ((slot, arg), id)` of the primitive `p` refers to:
the menu selector `menuId` when the slot is the menu's, and the argument's block `id` when the
argument needs a block and is no menu literal. -/
def PrimInput (p : Primitive) (menuId : Nat) (t : (String × Expr) × Nat) (inp : Input) : Prop :=
  inp.Writable ∧ ∀ i ∈ inp.refs, (i = menuId ∧ p.isMenuSlot t.1.1 = true) ∨
    (i = t.2 ∧ t.1.2.needsBlock = true ∧ (p.isMenuSlot t.1.1 = true → menuLiteral t.1.2 = none))

/-- The inputs of the arguments `done` of `p` folded so far, and the menu literal found. -/
def PrimInputs (p : Primitive) (menuId : Nat) (done : List ((String × Expr) × Nat))
    (r : List Input × Option String) : Prop :=
  (∀ inp ∈ r.1, ∃ t ∈ done, PrimInput p menuId t inp) ∧
    (r.2.isSome = true → ∃ t ∈ done, p.isMenuSlot t.1.1 = true ∧ (menuLiteral t.1.2).isSome = true)

theorem PrimInputs.snoc {p : Primitive} {menuId : Nat} {done : List ((String × Expr) × Nat)}
    {t : (String × Expr) × Nat} {acc : List Input} {inp : Input} {mv mv' : Option String}
    (h : PrimInputs p menuId done (acc, mv)) (hi : PrimInput p menuId t inp)
    (hmv : mv'.isSome = true →
      mv.isSome = true ∨ p.isMenuSlot t.1.1 = true ∧ (menuLiteral t.1.2).isSome = true) :
    PrimInputs p menuId (done ++ [t]) (acc ++ [inp], mv') := by
  obtain ⟨hacc, hfound⟩ := h
  refine ⟨fun j hj => ?_, fun hs => ?_⟩
  · rcases List.mem_append.1 hj with hj | hj
    · obtain ⟨t', ht', hp⟩ := hacc j hj
      exact ⟨t', List.mem_append_left _ ht', hp⟩
    · rw [List.mem_singleton.1 hj]
      exact ⟨t, List.mem_append_right _ (List.mem_singleton_self t), hi⟩
  · rcases hmv hs with hs | hs
    · obtain ⟨t', ht', hp⟩ := hfound hs
      exact ⟨t', List.mem_append_left _ ht', hp⟩
    · exact ⟨t, List.mem_append_right _ (List.mem_singleton_self t), hs⟩

theorem writeNode_leaf {spec : NodeSpec} (hs : spec.slots = []) (hbr : spec.branches = [])
    {r : List Nat × List (List Nat)} {sc : EmitScope} {s s' : EmitState}
    (h : (writeNode spec).Runs sc s r s') :
    s'.last = s.last ∧ ∃ b, s'.blocks = s.blocks ++ [b] ∧ NodeBlock spec r.1 r.2 b ∧
      b.inputRefs = [] := by
  obtain ⟨k, b, hids, hl1, hl2, hlast, hblocks, hb⟩ := writeNode_runs h
  rw [hs, List.length_nil, List.length_eq_zero_iff] at hl1
  rw [hbr, List.map_nil, List.map_eq_nil_iff] at hl2
  rw [hl1, hl2, List.flatten_nil, List.append_nil] at hids
  have hk : k = 0 := by simpa using congrArg List.length hids.symm
  exact ⟨by omega, b, hblocks, hb, hb.inputRefs_eq_nil hs hbr⟩

theorem writeLeaf_runs {α : Type} {spec : NodeSpec} (hs : spec.slots = [])
    (hbr : spec.branches = []) (hn : spec.next = 0) (hspec : spec.Writable) {a r : α}
    {sc : EmitScope} {s s' : EmitState} (h : (writeNode spec >>= fun _ => pure a).Runs sc s r s') :
    r = a ∧ s'.last = s.last ∧ ∃ b, s'.blocks = s.blocks ++ [b] ∧ b.id = spec.id ∧
      b.refs = [] ∧ b.parent = spec.parent ∧ b.topLevel = spec.topLevel ∧ b.Shaped := by
  obtain ⟨ids, s₁, h₁, h₂⟩ := runs_bind.1 h
  obtain ⟨rfl, rfl⟩ := runs_pure.1 h₂
  obtain ⟨hlast, b, hblocks, hb, hrefs⟩ := writeNode_leaf hs hbr h₁
  refine ⟨rfl, hlast, b, hblocks, hb.id, ?_, hb.parent, hb.topLevel, hb.shaped hspec⟩
  have hnext : b.next? = none := (Block.next?_eq_none_iff b).2 (hb.next.trans hn)
  rw [Block.refs_eq, hnext, hrefs]
  rfl

theorem writePrimitive_runs {p : Primitive} (hp : p.Writable) {this parent next : Nat}
    {args : List Expr} {span : Span} {r : List Nat × Bool} {sc : EmitScope} {s s' : EmitState}
    (h : (writePrimitive p this parent next args span).Runs sc s r s') :
    args.length = p.args.length ∧ r.1 = List.range' (s.last + 1) args.length ∧
      ∃ b M, s'.blocks = s.blocks ++ b :: M ∧ s.last + args.length ≤ s'.last ∧
        b.id = this ∧ b.opcode = p.opcode ∧ b.parent = parent ∧ b.next = next ∧
        b.topLevel = false ∧ b.Shaped ∧ Fragment [] this (s.last + args.length) s'.last M ∧
        ∀ i ∈ b.inputRefs, Adopts M this i ∨ ∃ t ∈ (p.args.zip args).zip r.1,
          t.2 = i ∧ t.1.2.needsBlock = true ∧ (r.2 && p.isMenuSlot t.1.1) = false := by
  unfold writePrimitive at h
  dsimp only at h
  rw [runs_guard, runs_guard] at h
  obtain ⟨-, hlen, h⟩ := h
  obtain ⟨argIds, s₁, h₁, hr₁⟩ := runs_bind.1 h
  rw [ite_bind_same] at hr₁
  obtain ⟨menuId, s₂, h₂, hr₂⟩ := runs_bind.1 hr₁
  obtain ⟨res, s₃, h₃, hr₃⟩ := runs_bind.1 hr₂
  obtain ⟨u, s₄, h₄, hr₄⟩ := runs_bind.1 hr₃
  clear h hr₁ hr₂ hr₃
  -- the inputs of the arguments, folded one argument at a time
  have hfold := @EmitM.Quietly.foldlM _ _ _ (PrimInputs p menuId) ?step
    _ [] ([], none) ⟨by simp, by simp⟩ _ _ _ _ h₃
  case step =>
    intro done ⟨⟨slot, arg⟩, argId⟩ ⟨acc, mv⟩ hdone
    dsimp only
    split
    · -- an ordinary slot: the slot's own input
      rename_i hslot
      refine Quietly.bind (slotInput_quietly _ _) fun i ⟨_, hrefs, hshaped⟩ =>
        Quietly.pure (hdone.snoc ⟨hshaped, fun j hj => Or.inr ?_⟩ Or.inl)
      rw [hrefs] at hj
      split at hj
      · refine ⟨List.mem_singleton.1 hj, ‹_›, fun hm => ?_⟩
        simp [hm] at hslot
      · simp at hj
    · rename_i hslot
      have hmenu : p.isMenuSlot slot = true := by simpa using hslot
      split
      · -- a literal menu option: the selector alone
        rename_i lit hlit
        refine Quietly.pure (hdone.snoc ⟨⟨trivial, by simp⟩, fun j hj => Or.inl ?_⟩
          fun _ => Or.inr ⟨hmenu, by simp [hlit]⟩)
        simp only [Input.refs, InputValue.ref?, Option.toList, Option.bind, List.append_nil,
          List.mem_singleton] at hj
        exact ⟨hj, hmenu⟩
      · -- an expression in the menu's slot: it covers the selector
        rename_i hlit
        refine Quietly.bind (inlineValue_quietly _) fun ⟨text, literal, inline⟩ ⟨hinline, harr⟩ =>
          Quietly.pure (hdone.snoc ⟨⟨?_, by simp [InputValue.Writable]⟩, fun j hj => ?_⟩ Or.inl)
        · dsimp only at harr ⊢
          split
          · exact harr ‹_›
          · trivial
        · dsimp only at hinline hj
          cases inline
          · simp only [Bool.false_eq_true, if_false, Input.refs, InputValue.ref?, Option.toList,
              Option.bind, List.mem_append, List.mem_singleton] at hj
            rcases hj with rfl | rfl
            · exact Or.inr ⟨rfl, by simpa [Slot.needsBlock] using hinline, fun _ => hlit⟩
            · exact Or.inl ⟨rfl, hmenu⟩
          · simp only [if_true, Input.refs, InputValue.ref?, Option.toList, Option.bind,
              List.nil_append, List.mem_singleton] at hj
            exact Or.inl ⟨hj, hmenu⟩
  obtain ⟨⟨hins, hfound⟩, hl₃, hb₃⟩ := hfold
  obtain ⟨rfl, rfl⟩ := runs_take.1 h₁
  have hs₄ := runs_push.1 h₄
  have hl₄ : s₄.last = s₃.last := by rw [hs₄]
  have hb₄ := congrArg EmitState.blocks hs₄
  rw [EmitState.blocks_push_block, hb₃] at hb₄
  have hlen' : args.length = p.args.length := by simpa using hlen
  rw [List.nil_append] at hins hfound
  -- an argument's block is referred to only when it is emitted: a menu literal among the
  -- arguments is the one argument in the menu's slot
  have hcases : ∀ i ∈ res.1.flatMap Input.refs, (i = menuId ∧ p.menu.isSome = true) ∨
      ∃ t ∈ (p.args.zip args).zip (List.range' (s.last + 1) args.length), t.2 = i ∧
        t.1.2.needsBlock = true ∧ (res.2.isSome && p.isMenuSlot t.1.1) = false := by
    intro i hi
    obtain ⟨inp, hinp, hi⟩ := List.mem_flatMap.1 hi
    obtain ⟨t, ht, -, hrefs⟩ := hins inp hinp
    rcases hrefs i hi with ⟨rfl, hm⟩ | ⟨rfl, hneed, hlit⟩
    · refine Or.inl ⟨rfl, ?_⟩
      unfold Primitive.isMenuSlot at hm
      split at hm
      · simp [‹p.menu = some _›]
      · simp at hm
    · refine Or.inr ⟨t, ht, rfl, hneed, ?_⟩
      cases hused : res.2.isSome
      · rfl
      cases hmt : p.isMenuSlot t.1.1
      · rfl
      obtain ⟨t', ht', hm', hlit'⟩ := hfound hused
      have heq := Primitive.MenuOnce.eq_of_isMenuSlot hp.menuOnce (List.of_mem_zip ht).1
        (List.of_mem_zip ht').1 hmt hm'
      rw [← heq, hlit hmt] at hlit'
      simp at hlit'
  have hshaped : Block.Shaped
      { id := this, opcode := p.opcode, next := next, parent := parent, inputs := res.1,
        fields := if p.fields == "" then "\x7b\x7d" else p.fields } := by
    refine ⟨fun inp hinp => ?_, value_fieldsText hp.fields, Or.inl rfl, fun h => by cases h⟩
    obtain ⟨t, -, hwritable, -⟩ := hins inp hinp
    exact hwritable
  rcases hmenu : p.menu with _ | m
  · -- no menu: the primitive's block alone
    simp only [hmenu, Option.isSome_none, Bool.false_eq_true, if_false] at h₂ hr₄ hcases
    obtain ⟨rfl, rfl⟩ := runs_pure.1 h₂
    obtain ⟨rfl, rfl⟩ := runs_pure.1 hr₄
    refine ⟨hlen', rfl, _, [], hb₄, ?_, rfl, rfl, rfl, rfl, rfl, hshaped, Fragment.nil, ?_⟩
    · dsimp only at hl₃
      omega
    · intro i hi
      rcases hcases i hi with ⟨-, h⟩ | h
      · cases h
      · exact Or.inr h
  · -- a menu: its selector follows the primitive's block
    simp only [hmenu, Option.isSome_some, if_true] at h₂ hr₄ hcases
    obtain ⟨rfl, rfl⟩ := runs_fresh.1 h₂
    obtain ⟨rfl, hlast, mb, hmb, hid, hrefs, hpar, htop, hsh⟩ :
        r = (List.range' (s.last + 1) args.length, res.2.isSome) ∧ s'.last = s₄.last ∧
          ∃ mb, s'.blocks = s₄.blocks ++ [mb] ∧ mb.id = s.last + args.length + 1 ∧
            mb.refs = [] ∧ mb.parent = this ∧ mb.topLevel = false ∧ mb.Shaped := by
      have hspec : ∀ value, NodeSpec.Writable
          { opcode := m.opcode, id := s.last + args.length + 1, parent := this, shadow := true,
            fields := fieldValue m.field value } :=
        fun value => ⟨Or.inr (value_fieldValue _ _), Or.inl rfl⟩
      split at hr₄
      · split at hr₄
        · rw [pure_bind] at hr₄
          exact writeLeaf_runs rfl rfl rfl (hspec _) hr₄
        · obtain ⟨u, s₅, h₅, hr₅⟩ := runs_bind.1 hr₄
          rw [pure_bind] at hr₅
          obtain rfl := runs_push.1 h₅
          simpa using writeLeaf_runs rfl rfl rfl (hspec _) hr₅
      · rw [pure_bind] at hr₄
        exact writeLeaf_runs rfl rfl rfl (hspec _) hr₄
    dsimp only at hl₃
    refine ⟨hlen', rfl, _, [mb], by rw [hmb, hb₄, List.append_assoc]; rfl, by omega, rfl, rfl, rfl,
      rfl, rfl, hshaped, ?_, ?_⟩
    · refine (Fragment.leaf hrefs hpar htop hsh).widen ?_ (Nat.le_refl _)
      simp only [List.mem_singleton, hid]
      omega
    · intro i hi
      rcases hcases i hi with ⟨rfl, -⟩ | h
      · exact Or.inl ⟨mb, List.mem_singleton_self mb, hid, hpar⟩
      · exact Or.inr h

end Graph

end BlockGraph
