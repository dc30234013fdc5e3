import BlockGraph.Graph.Generate
import BlockGraph.Proofs.Emission.Graph
import BlockGraph.Proofs.Json.Stream

namespace BlockGraph.Graph

open Json.Grammar

/-- The JSON string of a key. -/
def key (k : String) : List Char := '"' :: k.toList ++ ['"']

theorem str_key {k : String} (h : ∀ c ∈ k.toList, Unescaped c) : Str (key k) := Str.of_unescaped h

theorem unescaped_of_isDigit {c : Char} (h : c.isDigit = true) : Unescaped c := by
  have h48 : 48 ≤ c.toNat ∧ c.toNat ≤ 57 := by
    simp only [Char.isDigit, Bool.and_eq_true, decide_eq_true_eq] at h
    exact ⟨h.1, h.2⟩
  refine ⟨fun hc => ?_, fun hc => ?_, by omega⟩ <;> subst hc <;> simp at h48

theorem str_idJson {id : UInt32} (h : id ≠ 0) : Str (idJson id).toList := by
  have hdigits : ∀ c ∈ (toString id.toNat).toList, Unescaped c := by
    intro c hc
    rw [Nat.toString_eq_repr, Nat.toList_repr] at hc
    exact unescaped_of_isDigit (Nat.isDigit_of_mem_toDigits (by decide) (by decide) hc)
  have htext : (idJson id).toList = '"' :: (toString id.toNat).toList ++ ['"'] := by
    simp [idJson, h, String.toList_append]
  rw [htext]
  exact Str.of_unescaped hdigits

theorem value_idText (id : Nat) : Value (idText id).toList := by
  by_cases h : nodeId id = 0
  · rw [idText, idJson, if_pos h]
    exact value_null
  · exact .string (str_idJson h)

theorem value_flagText (b : Bool) : Value (flagText b).toList := by
  cases b
  · exact value_false
  · exact value_true

/-! ## Blocks -/

/-- An input as a member of its block's inputs object: `"name":[kind,value]`, with the shadow
after the value when there is one. -/
def Input.member (i : Input) : List Char × List Char :=
  ((Json.quoteKept i.name).toList,
    arrayText ((toString i.kind).toList :: i.value.render.toList ::
      (i.shadow.map (·.render.toList)).toList))

theorem Input.render_toList (i : Input) : i.render.toList = memberText i.member ++ [','] := by
  rcases i with ⟨name, kind, value, _ | shadow⟩
  all_goals
    simp only [Input.render, Input.member, String.toList_append, List.append_assoc]
    simp [memberText, arrayText, commaSep]

theorem value_render {v : InputValue} (h : v.Writable) : Value v.render.toList := by
  cases v with
  | block id => exact value_idText id
  | literal t => exact h.2

theorem Input.member_wf {i : Input} (h : i.Writable) : Str i.member.1 ∧ Value i.member.2 := by
  have hshadow : Values (i.shadow.map (·.render.toList)).toList := by
    cases hs : i.shadow with
    | none => trivial
    | some v => exact ⟨value_render (h.2 v hs), trivial⟩
  unfold Input.member
  -- the pair's projections are reduced before the parts are matched
  dsimp only
  exact ⟨str_quoteKept _, value_arrayText ⟨value_toString _, value_render h.1, hshadow⟩⟩

/-- The members of a block's object, in the order they are written. -/
def Block.members (b : Block) : List (List Char × List Char) :=
  [(key "opcode", (Json.quoteKept b.opcode).toList), (key "next", (idText b.next).toList),
    (key "parent", (idText b.parent).toList), (key "shadow", (flagText b.shadow).toList),
    (key "topLevel", (flagText b.topLevel).toList)] ++
  (if b.topLevel then [(key "x", ['0']), (key "y", (toString b.y).toList)] else []) ++
  [(key "inputs", objectText (b.inputs.map Input.member)), (key "fields", b.fields.toList)] ++
  (if b.mutation = "" then [] else [(key "mutation", b.mutation.toList)])

/-- A block as a member of its target's blocks object: its id, then its object. -/
def Block.member (b : Block) : List Char × List Char := ((idText b.id).toList, objectText b.members)

theorem Block.members_wf {b : Block} (h : b.Shaped) : Members b.members := by
  have hhead : Members [(key "opcode", (Json.quoteKept b.opcode).toList),
      (key "next", (idText b.next).toList), (key "parent", (idText b.parent).toList),
      (key "shadow", (flagText b.shadow).toList), (key "topLevel", (flagText b.topLevel).toList)] :=
    .cons (str_key (by simp [Unescaped])) (value_quoteKept _) <| .cons (str_key (by simp [Unescaped])) (value_idText _) <|
      .cons (str_key (by simp [Unescaped])) (value_idText _) <| .cons (str_key (by simp [Unescaped])) (value_flagText _) <|
      .cons (str_key (by simp [Unescaped])) (value_flagText _) trivial
  have hplace : Members (if b.topLevel then [(key "x", ['0']), (key "y", (toString b.y).toList)]
      else []) := by
    split
    · exact .cons (str_key (by simp [Unescaped])) (value_toString 0) <|
        .cons (str_key (by simp [Unescaped])) (value_toString _) trivial
    · trivial
  have hinputs : Members (b.inputs.map Input.member) :=
    Members.of_mem fun m hm => by
      obtain ⟨i, hi, rfl⟩ := List.mem_map.1 hm
      exact Input.member_wf (h.inputs i hi)
  have hbody : Members [(key "inputs", objectText (b.inputs.map Input.member)),
      (key "fields", b.fields.toList)] :=
    .cons (str_key (by simp [Unescaped])) (value_objectText hinputs) <|
      .cons (str_key (by simp [Unescaped])) h.fields trivial
  have hmutation : Members (if b.mutation = "" then [] else [(key "mutation", b.mutation.toList)]) := by
    split
    · trivial
    · exact .cons (str_key (by simp [Unescaped])) (h.mutation.resolve_left ‹_›) trivial
  exact ((hhead.append hplace).append hbody).append hmutation

namespace Writer.Appends

theorem str_of_toList (w : Writer) {s : String} {t : List Char} (h : s.toList = t) :
    Appends w (w.str s) t :=
  h ▸ str w s

/-- Members written after the opening of an object, each with its comma: closing makes them the
object. -/
theorem object {w₀ w₁ : Writer} {pre : List Char} {ms : List (List Char × List Char)}
    (h : Appends w₀ w₁ (pre ++ '\x7b' :: commaJoin (ms.map memberText))) :
    Appends w₀ (w₁.close "\x7d") (pre ++ objectText ms ++ [',']) := by
  have h' : Appends w₀ w₁ ((pre ++ ['\x7b']) ++ commaJoin (ms.map memberText)) := by
    simpa using h
  have := h'.container (by simp) (by simp) "\x7d"
  simpa [objectText] using this

theorem blockHeader (w : Writer) (b : Block) :
    Appends w (w.str (idText b.id ++ ":\x7b\"opcode\":" ++ Json.quoteKept b.opcode ++ ",\"next\":" ++
      idText b.next ++ ",\"parent\":" ++ idText b.parent ++ ",\"shadow\":" ++ flagText b.shadow ++
      ",\"topLevel\":" ++ flagText b.topLevel ++ ","))
      ((idText b.id).toList ++ [':', '\x7b'] ++ commaJoin ([(key "opcode", (Json.quoteKept b.opcode).toList),
        (key "next", (idText b.next).toList), (key "parent", (idText b.parent).toList),
        (key "shadow", (flagText b.shadow).toList),
        (key "topLevel", (flagText b.topLevel).toList)].map memberText)) := by
  refine str_of_toList w ?_
  simp only [String.toList_append, List.append_assoc]
  simp [commaJoin, memberText, key]

theorem blockPlace (w : Writer) (b : Block) :
    Appends w (if b.topLevel then w.str ("\"x\":0,\"y\":" ++ toString b.y ++ ",") else w)
      (commaJoin ((if b.topLevel then [(key "x", ['0']), (key "y", (toString b.y).toList)]
        else []).map memberText)) := by
  split
  · refine str_of_toList w ?_
    simp only [String.toList_append, List.append_assoc]
    simp [commaJoin, memberText, key]
  · exact refl w

/-- The inputs object: written in one piece (then from at most one input, whose trailing comma
is dropped), or input by input and closed. -/
theorem blockInputs (w : Writer) {b : Block} (hpacked : b.packedInputs = true → b.inputs.length ≤ 1) :
    Appends w (if b.packedInputs then
        w.str ("\"inputs\":\x7b" ++ String.join (b.inputs.map fun i => (i.render.dropEnd 1).toString) ++ "\x7d,")
      else (b.inputs.foldl (fun w i => w.str i.render) (w.str "\"inputs\":\x7b")).close "\x7d")
      (memberText (key "inputs", objectText (b.inputs.map Input.member)) ++ [',']) := by
  split
  · rename_i hp
    refine str_of_toList w ?_
    match hi : b.inputs, hpacked hp with
    | [], _ => simp [memberText, key, objectText, commaSep]
    | [i], _ =>
      have hdrop : (i.render.dropEnd 1).toString.toList = memberText i.member := by
        rw [String.Slice.toString_eq, String.toList_copy_dropEnd, ← List.dropLast_eq_take,
          Input.render_toList, List.dropLast_concat]
      simp only [List.map_cons, List.map_nil, String.join_cons, String.join_nil,
        String.append_empty, String.toList_append, hdrop]
      simp [memberText, key, objectText, commaSep]
  · have hfold := (str w "\"inputs\":\x7b").trans (foldl b.inputs (fun w i _ => str w i.render) _)
    have hitems : b.inputs.flatMap (fun i => i.render.toList) =
        commaJoin (b.inputs.map fun i => memberText i.member) := by
      simp [commaJoin, Input.render_toList, List.flatMap, Function.comp_def]
    rw [hitems] at hfold
    have htext : "\"inputs\":\x7b".toList ++ commaSep (b.inputs.map fun i => memberText i.member) ++
        "\x7d".toList ++ [','] = memberText (key "inputs", objectText (b.inputs.map Input.member)) ++ [','] := by
      simp [memberText, key, objectText, Function.comp_def]
    rw [← htext]
    exact hfold.container (by simp) (by simp) "\x7d"

theorem blockMutation (w : Writer) (b : Block) :
    Appends w (if b.mutation = "" then w else w.str ("\"mutation\":" ++ b.mutation ++ ","))
      (commaJoin ((if b.mutation = "" then [] else [(key "mutation", b.mutation.toList)]).map
        memberText)) := by
  split
  · exact refl w
  · refine str_of_toList w ?_
    simp only [String.toList_append, List.append_assoc]
    simp [commaJoin, memberText, key]

theorem blockFields (w : Writer) (b : Block) :
    Appends w (w.str ("\"fields\":" ++ b.fields ++ ","))
      (memberText (key "fields", b.fields.toList) ++ [',']) := by
  refine str_of_toList w ?_
  simp [memberText, key, String.toList_append]

theorem block (w : Writer) {b : Block} (hpacked : b.packedInputs = true → b.inputs.length ≤ 1) :
    Appends w (w.block b) (memberText b.member ++ [',']) := by
  have htext : memberText b.member ++ [','] = (idText b.id).toList ++ [':', '\x7b'] ++
      commaSep (b.members.map memberText) ++ "\x7d".toList ++ [','] := by
    simp [Block.member, memberText, objectText]
  rw [htext]
  refine Appends.container ?_ (by simp) (by simp) "\x7d"
  -- the header, place, inputs, fields and mutation each append their members
  have hsteps := ((((blockHeader w b).trans (blockPlace _ b)).trans (blockInputs _ hpacked)).trans
    (blockFields _ b)).trans (blockMutation _ b)
  simp only [Block.members, List.map_append, List.map_cons, List.map_nil, commaJoin_append,
    commaJoin_cons, commaJoin_nil, List.append_assoc, List.cons_append, List.nil_append] at hsteps ⊢
  exact hsteps

end Writer.Appends

/-! ## Members of objects -/

/-- From `w` to `w'` the writer wrote members of an object, each with its comma. -/
def Writer.AddsMembers (w w' : Writer) : Prop :=
  ∃ ms, Members ms ∧ Writer.Appends w w' (commaJoin (ms.map memberText))

namespace Writer.AddsMembers

theorem refl (w : Writer) : AddsMembers w w :=
  ⟨[], trivial, Appends.refl w⟩

theorem trans {w₀ w₁ w₂ : Writer} (h₁ : AddsMembers w₀ w₁) (h₂ : AddsMembers w₁ w₂) :
    AddsMembers w₀ w₂ := by
  obtain ⟨ms₁, hm₁, ha₁⟩ := h₁
  obtain ⟨ms₂, hm₂, ha₂⟩ := h₂
  refine ⟨ms₁ ++ ms₂, hm₁.append hm₂, ?_⟩
  rw [List.map_append, commaJoin_append]
  exact ha₁.trans ha₂

theorem foldl {α : Type} {f : Writer → α → Writer} {xs : List α}
    (hf : ∀ w, ∀ a ∈ xs, AddsMembers w (f w a)) (w : Writer) : AddsMembers w (xs.foldl f w) := by
  induction xs generalizing w with
  | nil => exact refl w
  | cons x xs ih =>
    rw [List.foldl_cons]
    exact (hf w x List.mem_cons_self).trans
      (ih (fun w a ha => hf w a (List.mem_cons_of_mem x ha)) (f w x))

theorem ite {w w₁ w₂ : Writer} {c : Prop} [Decidable c] (h₁ : AddsMembers w w₁)
    (h₂ : AddsMembers w w₂) : AddsMembers w (if c then w₁ else w₂) := by
  split
  · exact h₁
  · exact h₂

theorem member {w w' : Writer} {k v : List Char} (hk : Str k) (hv : Value v)
    (h : Appends w w' (memberText (k, v) ++ [','])) : AddsMembers w w' :=
  ⟨[(k, v)], .cons hk hv trivial, by simpa [commaJoin] using h⟩

theorem objectMember {w₀ w₁ : Writer} {o : String} {k : List Char} (hk : Str k)
    (hopen : o.toList = k ++ [':', '\x7b']) (h : AddsMembers (w₀.str o) w₁) :
    AddsMembers w₀ (w₁.close "\x7d") := by
  obtain ⟨ms, hms, ha⟩ := h
  have hobj : Appends w₀ (w₁.close "\x7d") (memberText (k, objectText ms) ++ [',']) := by
    have := @Appends.object _ _ (k ++ [':']) ms (by simpa [hopen] using (Appends.str w₀ o).trans ha)
    simpa [memberText] using this
  exact member hk (value_objectText hms) hobj

theorem varMember (w : Writer) (q : String) :
    AddsMembers w (w.str (Json.quoteKept q ++ ":[" ++ Json.quoteKept q ++ ",0],")) := by
  refine member (v := arrayText [(Json.quoteKept q).toList, ['0']]) (str_quoteKept q)
    (value_arrayText ⟨value_quoteKept q, value_toString 0, trivial⟩) (Appends.str_of_toList w ?_)
  simp [memberText, arrayText, commaSep, String.toList_append]

theorem declareVar (s : EmitScope) (proc : String) (w : Writer) (v : Var) :
    AddsMembers w (w.declareVar s proc v) := by
  unfold Writer.declareVar
  split
  · exact varMember w _
  · exact foldl (fun w f _ => varMember w _) w

theorem declareList (w : Writer) (l : ListDecl) : AddsMembers w (w.declareList l) := by
  unfold Writer.declareList
  dsimp only
  let q := Json.quoteKept l.name
  let items := l.data.map fun i => (Json.quoteKept i).toList
  have hdata := (Appends.str w (q ++ ":[" ++ q ++ ",[")).trans
    (Appends.foldl l.data (fun w i _ => Appends.str w (Json.quoteKept i ++ ",")) _)
  have hjoin : l.data.flatMap (fun i => (Json.quoteKept i ++ ",").toList) = commaJoin items := by
    simp [items, commaJoin, List.flatMap, Function.comp_def]
  rw [hjoin] at hdata
  have hinner := hdata.container (by simp) (by simp [List.getLast?_cons, List.getLast?_append]) "]"
  have htext : (q ++ ":[" ++ q ++ ",[").toList ++ commaSep items ++ "]".toList ++ [','] =
      (q ++ ":[").toList ++ commaJoin [q.toList, arrayText items] := by
    simp [commaJoin, arrayText]
  rw [htext] at hinner
  have houter := hinner.container (by simp) (by simp) "]"
  have hitems : Value (arrayText items) := .array items fun v hv => by
    obtain ⟨i, -, rfl⟩ := List.mem_map.1 hv
    exact value_quoteKept i
  refine member (v := arrayText [q.toList, arrayText items]) (str_quoteKept l.name)
    (value_arrayText ⟨value_quoteKept _, hitems, trivial⟩) ?_
  have htext' : (q ++ ":[").toList ++ commaSep [q.toList, arrayText items] ++ "]".toList ++ [','] =
      memberText (q.toList, arrayText [q.toList, arrayText items]) ++ [','] := by
    simp [memberText, arrayText, commaSep]
  rwa [htext'] at houter

theorem broadcasts (w : Writer) (messages : List String) :
    AddsMembers w (messages.foldl
      (fun w m => let q := Json.quoteKept m; w.str (q ++ ":" ++ q ++ ",")) w) := by
  refine foldl (fun w m _ => member (str_quoteKept m) (value_quoteKept m)
    (Appends.str_of_toList w ?_)) w
  simp [memberText, String.toList_append]

theorem variableSection (s : EmitScope) (w : Writer) :
    AddsMembers w ((s.sprite.sortedProcs.foldl (fun w p =>
      (p.locals.mergeSort (fun a b => Utf8.keptLE a.name b.name)).foldl (Writer.declareVar s p.name) w)
      ((s.sprite.vars.mergeSort (fun a b => Utf8.keptLE a.name b.name)).foldl (Writer.declareVar s "")
        (w.str "\"variables\":\x7b"))).close "\x7d") :=
  objectMember (k := key "variables") (str_key (by simp [Unescaped])) (by simp [key])
    ((foldl (fun w v _ => declareVar s "" w v) _).trans
      (foldl (fun w p _ => foldl (fun w v _ => declareVar s p.name w v) w) _))

theorem listSection (s : EmitScope) (w : Writer) :
    AddsMembers w (((s.sprite.lists.mergeSort (fun a b => Utf8.keptLE a.name b.name)).foldl
      Writer.declareList (w.str "\"lists\":\x7b")).close "\x7d") :=
  objectMember (k := key "lists") (str_key (by simp [Unescaped])) (by simp [key])
    (foldl (fun w l _ => declareList w l) _)

theorem broadcastSection (s : EmitScope) (messages : List String) (w : Writer) :
    AddsMembers w ((if s.sprite.isStage then
        messages.foldl (fun w m => let q := Json.quoteKept m; w.str (q ++ ":" ++ q ++ ","))
          (w.str "\"broadcasts\":\x7b")
      else w.str "\"broadcasts\":\x7b").close "\x7d") :=
  objectMember (k := key "broadcasts") (str_key (by simp [Unescaped])) (by simp [key])
    (ite (broadcasts _ messages) (refl _))

theorem blocks (emitted : List Emitted)
    (h : ∀ b ∈ emitted.filterMap Emitted.block?, nodeId b.id ≠ 0 ∧ b.Shaped) (w : Writer) :
    AddsMembers w (emitted.foldl (fun w e => match e with | .block b => w.block b | _ => w) w) := by
  refine foldl (fun w e he => ?_) w
  cases e with
  | block b =>
    have hb := h b (List.mem_filterMap.2 ⟨_, he, rfl⟩)
    exact member (str_idJson hb.1) (value_objectText (Block.members_wf hb.2))
      (Appends.block w hb.2.packed)
  | scriptStart _ _ => exact refl w
  | report _ => exact refl w

end Writer.AddsMembers

/-! ## Targets -/

/-- Whether a target is the stage, and its name: the first members of its object. -/
def targetHead (t : Sprite) : List (List Char × List Char) :=
  [(key "isStage", (flagText t.isStage).toList), (key "name", (Json.quoteKept t.name).toList)]

theorem targetHead_wf (t : Sprite) : Members (targetHead t) :=
  .cons (str_key (by simp [Unescaped])) (value_flagText _) <|
    .cons (str_key (by simp [Unescaped])) (value_quoteKept _) trivial

theorem Writer.Appends.withMembers {w₀ w₁ w₂ w₃ : Writer} {pre post : List Char}
    {ms₀ : List (List Char × List Char)} (h₀ : Appends w₀ w₁ (pre ++ commaJoin (ms₀.map memberText)))
    (h₁ : AddsMembers w₁ w₂) (h₂ : Appends w₂ w₃ post) :
    ∃ ms, Members ms ∧ Appends w₀ w₃ (pre ++ commaJoin ((ms₀ ++ ms).map memberText) ++ post) := by
  obtain ⟨ms, hms, h⟩ := h₁
  refine ⟨ms, hms, ?_⟩
  rw [List.map_append, commaJoin_append, ← List.append_assoc]
  exact (h₀.trans h).trans h₂

theorem Writer.Appends.targetHeader (w : Writer) (s : EmitScope) (messages : List String) :
    ∃ ms, Members ms ∧ Appends w (w.targetHeader s messages)
      (['\x7b'] ++ commaJoin ((targetHead s.sprite ++ ms).map memberText) ++
        "\"blocks\":\x7b".toList) := by
  unfold Writer.targetHeader
  refine withMembers (str_of_toList w (s := "\x7b\"isStage\":" ++ flagText s.sprite.isStage ++
    ",\"name\":" ++ Json.quoteKept s.sprite.name ++ ",") ?_) ?_ (str _ "\"blocks\":\x7b")
  · simp [targetHead, commaJoin, memberText, key, String.toList_append]
  · exact ((AddsMembers.variableSection s _).trans (AddsMembers.listSection s _)).trans
      (AddsMembers.broadcastSection s messages _)

end BlockGraph.Graph
