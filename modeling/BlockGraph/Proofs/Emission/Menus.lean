import BlockGraph.Proofs.Emission.Calls
import Mathlib.Data.List.Forall2

namespace BlockGraph.Graph

open EmitM

def Emitted.report? : Emitted → Option Diagnostic
  | .report d => some d
  | _ => none

/-- The findings with code `c` reported so far, in the order they were reported. -/
def EmitState.reportsOf (s : EmitState) (c : Code) : List Diagnostic :=
  (s.out.reverse.filterMap Emitted.report?).filter fun d => decide (d.code = c)

@[simp] theorem EmitState.reportsOf_push_block (s : EmitState) (b : Block) (c : Code) :
    { s with out := .block b :: s.out }.reportsOf c = s.reportsOf c := by
  simp [EmitState.reportsOf, Emitted.report?]

theorem EmitState.blocks_of_out {s t : EmitState} {b : Block} (h : s.out = .block b :: t.out) :
    s.blocks = t.blocks ++ [b] := by
  simp [EmitState.blocks, h, Emitted.block?]

theorem EmitState.reportsOf_of_out {s t : EmitState} {b : Block} (h : s.out = .block b :: t.out)
    (c : Code) : s.reportsOf c = t.reportsOf c := by
  simp [EmitState.reportsOf, h, Emitted.report?]

theorem EmitState.reportsOf_push_report (s : EmitState) (d : Diagnostic) (c : Code) :
    { s with out := .report d :: s.out }.reportsOf c =
      s.reportsOf c ++ if d.code = c then [d] else [] := by
  simp only [EmitState.reportsOf, List.reverse_cons, List.filterMap_append, List.filter_append]
  by_cases hd : d.code = c <;> simp [Emitted.report?, hd]

/-- `m` reports no finding with code `c`: every run emits on top of what was there, and
nothing it emits is a finding with that code. -/
def EmitM.Omits {α : Type} (m : EmitM α) (c : Code) : Prop :=
  ∀ ⦃sc s a s'⦄, m.Runs sc s a s' →
    ∃ new, s'.out = new ++ s.out ∧ ∀ d, Emitted.report d ∈ new → d.code ≠ c

namespace EmitM.Omits

variable {α β : Type} {c : Code}

theorem reportsOf {m : EmitM α} (hm : m.Omits c) {sc : EmitScope} {s s' : EmitState} {a : α}
    (h : m.Runs sc s a s') : s'.reportsOf c = s.reportsOf c := by
  obtain ⟨new, hout, hnew⟩ := hm h
  unfold EmitState.reportsOf
  rw [hout, List.reverse_append, List.filterMap_append, List.filter_append,
    List.append_right_eq_self, List.filter_eq_nil_iff]
  intro d hd
  obtain ⟨x, hx, hxd⟩ := List.mem_filterMap.1 hd
  cases x with
  | report d' =>
    cases hxd
    simpa using hnew d (List.mem_reverse.1 hx)
  | block _ => cases hxd
  | scriptStart _ _ => cases hxd

theorem pure {a : α} : (Pure.pure a : EmitM α).Omits c := by
  intro sc s b s' h
  obtain ⟨-, rfl⟩ := runs_pure.1 h
  exact ⟨[], rfl, by simp⟩

theorem bind {m : EmitM α} {f : α → EmitM β} (hm : m.Omits c) (hf : ∀ a, (f a).Omits c) :
    (m >>= f).Omits c := by
  intro sc s b s' h
  obtain ⟨a, s₁, h₁, h₂⟩ := runs_bind.1 h
  obtain ⟨new₁, e₁, hn₁⟩ := hm h₁
  obtain ⟨new₂, e₂, hn₂⟩ := hf a h₂
  refine ⟨new₂ ++ new₁, by rw [e₂, e₁, List.append_assoc], fun d hd => ?_⟩
  rcases List.mem_append.1 hd with hd | hd
  · exact hn₂ d hd
  · exact hn₁ d hd

theorem read : (read : EmitM EmitScope).Omits c := by
  intro sc s r s' h
  obtain ⟨-, rfl⟩ := runs_read.1 h
  exact ⟨[], rfl, by simp⟩

theorem take (n : Nat) : (take n).Omits c := by
  intro sc s ids s' h
  obtain ⟨-, rfl⟩ := runs_take.1 h
  exact ⟨[], rfl, by simp⟩

theorem place : (place : EmitM Nat).Omits c := by
  intro sc s y s' h
  obtain ⟨-, -, rfl⟩ := runs_place.1 h
  exact ⟨[], rfl, by simp⟩

theorem push_block (b : Block) : (push (.block b)).Omits c := by
  intro sc s u s' h
  obtain rfl := runs_push.1 h
  exact ⟨[.block b], rfl, by simp⟩

theorem report {d : Diagnostic} (hd : d.code ≠ c) : (EmitM.report d).Omits c := by
  intro sc s u s' h
  obtain rfl := runs_push.1 h
  refine ⟨[.report d], rfl, fun d' hd' => ?_⟩
  cases List.mem_singleton.1 hd'
  exact hd

theorem report_error {code : Code} {span : Span} {message : String} (hc : code ≠ c) :
    (EmitM.report (.error code span message)).Omits c :=
  report hc

theorem mapM {γ : Type} {f : γ → EmitM α} (hf : ∀ x, (f x).Omits c) (xs : List γ) :
    (xs.mapM f).Omits c := by
  induction xs with
  | nil =>
    rw [List.mapM_nil]
    exact pure
  | cons x xs ih =>
    rw [List.mapM_cons]
    exact (hf x).bind fun _ => ih.bind fun _ => pure

theorem foldlM {γ : Type} {f : β → γ → EmitM β} (hf : ∀ b x, (f b x).Omits c) (xs : List γ) :
    ∀ b : β, (xs.foldlM f b).Omits c := by
  induction xs with
  | nil =>
    intro b
    rw [List.foldlM_nil]
    exact pure
  | cons x xs ih =>
    intro b
    rw [List.foldlM_cons]
    exact (hf b x).bind ih

end EmitM.Omits

/-! ## Writing inputs reports no menu option -/

theorem inlineName_omits (n : Name) (field : String) :
    (inlineName n field).Omits .unknownMenuOption := by
  unfold inlineName
  repeat' first
    | with_reducible exact Omits.pure
    | with_reducible exact Omits.read
    | with_reducible refine Omits.bind ?_ fun _ => ?_
    | split
    | dsimp only
    | exact Omits.report_error (by decide)

theorem inlineAccessor_omits (symbol : String) (symbolSpan : Span) (property : String)
    (propertySpan : Span) :
    (inlineAccessor symbol symbolSpan property propertySpan).Omits .unknownMenuOption := by
  unfold inlineAccessor
  repeat' first
    | with_reducible exact Omits.pure
    | with_reducible exact Omits.read
    | with_reducible refine Omits.bind ?_ fun _ => ?_
    | split
    | dsimp only
    | exact Omits.report_error (by decide)

theorem inlineValue_omits (sl : Slot) : (inlineValue sl).Omits .unknownMenuOption := by
  rcases sl with ⟨name, _ | e, boolean, field⟩
  · exact Omits.pure
  cases e
  case name n => exact inlineName_omits n field
  case accessor symbol symbolSpan property propertySpan =>
    exact inlineAccessor_omits symbol symbolSpan property propertySpan
  all_goals unfold inlineValue
  all_goals dsimp only
  all_goals repeat' first
    | with_reducible exact Omits.pure
    | split

theorem slotInput_omits (sl : Slot) (child : Nat) :
    (slotInput sl child).Omits .unknownMenuOption := by
  unfold slotInput
  refine Omits.bind (inlineValue_omits sl) fun _ => ?_
  repeat' first
    | with_reducible exact Omits.pure
    | split

/-! ## The primitive's block and its menu's selector -/

theorem runs_foldlM_inv {α β : Type} {sc : EmitScope} {f : β → α → EmitM β}
    (I : List α → β → EmitState → Prop)
    (hf : ∀ done x b t b' t', I done b t → (f b x).Runs sc t b' t' → I (done ++ [x]) b' t') :
    ∀ (xs done : List α) {b b' : β} {s s' : EmitState}, I done b s →
      (xs.foldlM f b).Runs sc s b' s' → I (done ++ xs) b' s'
  | [], done, b, b', s, s', hI, h => by
    rw [List.foldlM_nil, runs_pure] at h
    obtain ⟨rfl, rfl⟩ := h
    rwa [List.append_nil]
  | x :: xs, done, b, b', s, s', hI, h => by
    rw [List.foldlM_cons] at h
    obtain ⟨b₁, s₁, h₁, h₂⟩ := runs_bind.1 h
    have hrest := runs_foldlM_inv I hf xs (done ++ [x]) (hf done x b s b₁ s₁ hI h₁) h₂
    rwa [List.append_assoc, List.singleton_append] at hrest

theorem forall₂_getElem? {α β : Type} {R : α → β → Prop} :
    ∀ {xs : List α} {ys : List β}, List.Forall₂ R xs ys → ∀ {i : Nat} {x : α}, xs[i]? = some x →
      ∃ y, ys[i]? = some y ∧ R x y
  | _, _, .nil, _, _, hx => by simp at hx
  | _, _, .cons hxy _, 0, _, hx => by
    cases hx
    exact ⟨_, rfl, hxy⟩
  | _, _, .cons _ hrest, _ + 1, _, hx => forall₂_getElem? hrest hx

/-- The input the menu's slot gets from its argument `t = ((slot, arg), id)` in scope `sc`: a
literal option names the selector `menuId` alone; any other argument covers the selector with
its block `id`, or with its inline text when it needs no block. -/
def MenuInput (sc : EmitScope) (menuId : Nat) (t : (String × Expr) × Nat) (inp : Input) : Prop :=
  match menuLiteral t.1.2 with
  | some _ => inp = { name := t.1.1, kind := 1, value := .block menuId }
  | none => ∃ text,
      inp = { name := t.1.1, kind := 3, shadow := some (.block menuId),
              value := if t.1.2.needsBlock then .block t.2 else .literal text } ∧
      (t.1.2.needsBlock = false → ∃ u u' lit,
        (inlineValue { name := t.1.1, value := some t.1.2 }).Runs sc u (text, lit, true) u')

/-- The fold of a primitive's arguments from state `s₀`, after the arguments `done`: no id
taken, no block written and no menu option reported; one input per argument, the menu's
slot's as `MenuInput` says; and the literal of the last argument in the menu's slot that is
one. -/
def MenuFold (sc : EmitScope) (p : Primitive) (menuId : Nat) (s₀ : EmitState)
    (done : List ((String × Expr) × Nat)) (r : List Input × Option String) (s : EmitState) :
    Prop :=
  s.last = s₀.last ∧ s.blocks = s₀.blocks ∧
    s.reportsOf .unknownMenuOption = s₀.reportsOf .unknownMenuOption ∧
    List.Forall₂ (fun t inp => p.isMenuSlot t.1.1 = true → MenuInput sc menuId t inp) done r.1 ∧
    r.2 = ((done.filter (p.isMenuSlot ·.1.1)).filterMap (menuLiteral ·.1.2)).getLast?

theorem Primitive.isMenuSlot_input {p : Primitive} {m : Menu} (hmenu : p.menu = some m) :
    p.isMenuSlot m.input = true := by
  simp [Primitive.isMenuSlot, hmenu]

theorem getElem?_zip_range' {slots : List String} {args : List Expr} {base i : Nat}
    {slot : String} {e : Expr} (hslot : slots[i]? = some slot) (harg : args[i]? = some e) :
    ((slots.zip args).zip (List.range' (base + 1) args.length))[i]? =
      some ((slot, e), base + i + 1) := by
  have hi : i < args.length := (List.getElem?_eq_some_iff.1 harg).1
  have hid : (List.range' (base + 1) args.length)[i]? = some (base + i + 1) := by
    simp [hi]
    omega
  simp [List.getElem?_zip_eq_some, hslot, harg, hid]

theorem getElem?_of_mem_zip_range' {slots : List String} {args : List Expr} {base i : Nat}
    {t : (String × Expr) × Nat} (ht : t ∈ (slots.zip args).zip (List.range' (base + 1) args.length))
    (hid : t.2 = base + i + 1) : slots[i]? = some t.1.1 ∧ args[i]? = some t.1.2 := by
  obtain ⟨k, hk, rfl⟩ := List.getElem_of_mem ht
  simp only [List.getElem_zip, List.getElem_range'] at hid ⊢
  obtain rfl : k = i := by omega
  exact ⟨List.getElem?_eq_getElem _, List.getElem?_eq_getElem _⟩

theorem Primitive.MenuOnce.filter_eq {p : Primitive} {m : Menu} (hmenu : p.menu = some m)
    (hp : p.MenuOnce) {args : List Expr} {ids : List Nat} {i : Nat} {e : Expr} {id : Nat}
    (hget : ((p.args.zip args).zip ids)[i]? = some ((m.input, e), id)) :
    ((p.args.zip args).zip ids).filter (p.isMenuSlot ·.1.1) = [((m.input, e), id)] := by
  have hmem : ((m.input, e), id) ∈ ((p.args.zip args).zip ids).filter (p.isMenuSlot ·.1.1) :=
    List.mem_filter.2 ⟨List.mem_of_getElem? hget, Primitive.isMenuSlot_input hmenu⟩
  have hle : (((p.args.zip args).zip ids).filter (p.isMenuSlot ·.1.1)).length ≤ 1 :=
    calc _ ≤ ((p.args.zip args).filter (p.isMenuSlot ·.1)).length :=
          length_filter_zip_le (fun q : String × Expr => p.isMenuSlot q.1) _ ids
      _ ≤ (p.args.filter p.isMenuSlot).length := length_filter_zip_le p.isMenuSlot _ args
      _ ≤ 1 := hp
  generalize ((p.args.zip args).zip ids).filter (p.isMenuSlot ·.1.1) = l at hmem hle
  rcases l with _ | ⟨a, _ | ⟨b, l⟩⟩
  · simp at hmem
  · rw [List.mem_singleton.1 hmem]
  · simp at hle

theorem writeNode_leaf_out {spec : NodeSpec} (hs : spec.slots = []) (hbr : spec.branches = [])
    (htop : spec.topLevel = false) {r : List Nat × List (List Nat)} {sc : EmitScope}
    {s s' : EmitState} (h : (writeNode spec).Runs sc s r s') :
    s'.last = s.last ∧ s'.out = .block
      { id := spec.id, opcode := spec.opcode, next := spec.next, parent := spec.parent,
        shadow := spec.shadow, fields := if spec.fields == "" then "\x7b\x7d" else spec.fields,
        mutation := spec.mutation } :: s.out := by
  unfold writeNode at h
  obtain ⟨slotIds, s₁, h₁, h⟩ := runs_bind.1 h
  obtain ⟨bodyIds, s₂, h₂, h⟩ := runs_bind.1 h
  dsimp only at h
  rw [ite_bind_same] at h
  obtain ⟨y, s₃, h₃, h⟩ := runs_bind.1 h
  obtain ⟨inputs, s₄, h₄, h⟩ := runs_bind.1 h
  obtain ⟨u, s₅, h₅, h⟩ := runs_bind.1 h
  obtain ⟨rfl, rfl⟩ := runs_pure.1 h
  obtain rfl := runs_push.1 h₅
  rw [hs, List.length_nil] at h₁
  obtain ⟨rfl, rfl⟩ := runs_take.1 h₁
  rw [hbr, List.mapM_nil, runs_pure] at h₂
  obtain ⟨rfl, rfl⟩ := h₂
  rw [htop, if_neg Bool.false_ne_true, runs_pure] at h₃
  obtain ⟨rfl, rfl⟩ := h₃
  rw [hs, List.zip_nil_left, List.mapM_nil, runs_pure] at h₄
  obtain ⟨rfl, rfl⟩ := h₄
  simp [hbr, htop]

theorem fieldValue_beq_empty (name value : String) : (fieldValue name value == "") = false := by
  simp [fieldValue]

/-- The warning for a literal `t` that is no option of the menu `m` of `p`. -/
def unknownOption (p : Primitive) (m : Menu) (span : Span) (t : String) : Diagnostic :=
  .warning .unknownMenuOption span
    (Text.quoteKept t ++ " is not an option of " ++ p.name ++ "; using " ++ Text.quoteKept m.default)

/-- Writing a primitive whose menu fills one slot, given the argument `e` in that slot: the
ids of the arguments come first, then the primitive's block and the selector under it, with
the next id. The slot's input is as `MenuInput` says. The selector holds a literal the menu
accepts, and the default otherwise; a literal the menu does not accept is reported once, and
nothing else about menu options is. -/
theorem writePrimitive_menu {p : Primitive} {m : Menu} (hmenu : p.menu = some m)
    (hp : p.MenuOnce) {args : List Expr} {i : Nat} {e : Expr} (hslot : p.args[i]? = some m.input)
    (harg : args[i]? = some e) {this parent next : Nat} {span : Span} {r : List Nat × Bool}
    {sc : EmitScope} {s s' : EmitState}
    (h : (writePrimitive p this parent next args span).Runs sc s r s') :
    r = (List.range' (s.last + 1) args.length, (menuLiteral e).isSome) ∧
      s'.last = s.last + args.length + 1 ∧
      ∃ b mb, s'.blocks = s.blocks ++ [b, mb] ∧ b.id = this ∧ b.opcode = p.opcode ∧
        b.parent = parent ∧
        (∃ inp, b.inputs[i]? = some inp ∧
          MenuInput sc (s.last + args.length + 1) ((m.input, e), s.last + i + 1) inp) ∧
        mb.id = s.last + args.length + 1 ∧ mb.opcode = m.opcode ∧ mb.parent = this ∧
        mb.shadow = true ∧
        (∀ t, menuLiteral e = some t →
          mb.fields = fieldValue m.field (if m.accepts t then t else m.default) ∧
          s'.reportsOf .unknownMenuOption = s.reportsOf .unknownMenuOption ++
            if m.accepts t then [] else [unknownOption p m span t]) ∧
        (menuLiteral e = none → mb.fields = fieldValue m.field m.default ∧
          s'.reportsOf .unknownMenuOption = s.reportsOf .unknownMenuOption) := by
  unfold writePrimitive at h
  dsimp only at h
  rw [runs_guard, runs_guard] at h
  obtain ⟨-, hlen, h⟩ := h
  obtain ⟨argIds, s₁, h₁, hr₁⟩ := runs_bind.1 h
  rw [ite_bind_same] at hr₁
  obtain ⟨menuId, s₂, h₂, hr₂⟩ := runs_bind.1 hr₁
  obtain ⟨res, s₃, h₃, hr₃⟩ := runs_bind.1 hr₂
  obtain ⟨u, s₄, h₄, hr₄⟩ := runs_bind.1 hr₃
  clear h hr₁ hr₂ hr₃
  obtain ⟨rfl, rfl⟩ := runs_take.1 h₁
  simp only [hmenu, Option.isSome_some, if_true] at h₂ hr₄
  obtain ⟨rfl, rfl⟩ := runs_fresh.1 h₂
  -- the inputs of the arguments, folded one argument at a time
  have hfold := runs_foldlM_inv (MenuFold sc p (s.last + args.length + 1)
    { s with last := s.last + args.length + 1 }) ?step _ [] ⟨rfl, rfl, rfl, .nil, rfl⟩ h₃
  case step =>
    rintro done ⟨⟨slot, arg⟩, argId⟩ ⟨acc, mv⟩ t b' t' ⟨hl, hb, hrep, hF, hmv⟩ hrun
    dsimp only at hrun
    split at hrun
    · -- an ordinary slot
      rename_i hslot'
      have hnot : p.isMenuSlot slot = false := by simpa using hslot'
      obtain ⟨inp, t₁, h₁, h₂⟩ := runs_bind.1 hrun
      obtain ⟨rfl, rfl⟩ := runs_pure.1 h₂
      obtain ⟨-, hl₁, hb₁⟩ := slotInput_quietly _ _ h₁
      refine ⟨hl₁.trans hl, hb₁.trans hb, ((slotInput_omits _ _).reportsOf h₁).trans hrep,
        List.rel_append hF (.cons (fun hm => ?_) .nil), ?_⟩
      · simp [hm] at hnot
      · simpa [List.filter_append, hnot] using hmv
    · rename_i hslot'
      have hin : p.isMenuSlot slot = true := by simpa using hslot'
      split at hrun
      · -- a literal option: the selector alone
        rename_i lit hlit
        obtain ⟨rfl, rfl⟩ := runs_pure.1 hrun
        refine ⟨hl, hb, hrep, List.rel_append hF (.cons (fun _ => ?_) .nil), ?_⟩
        · simp only [MenuInput, hlit]
        · simp [List.filter_append, hin, hlit]
      · -- any other argument covers the selector
        rename_i hlit
        obtain ⟨⟨text, lit, inline⟩, t₁, h₁, h₂⟩ := runs_bind.1 hrun
        obtain ⟨rfl, rfl⟩ := runs_pure.1 h₂
        obtain ⟨hinline, hl₁, hb₁⟩ := (inlineValue_quietly _ h₁).imp_left And.left
        have hneed : arg.needsBlock = !inline := by
          dsimp only at hinline
          rw [hinline]
          simp [Slot.needsBlock]
        refine ⟨hl₁.trans hl, hb₁.trans hb, ((inlineValue_omits _).reportsOf h₁).trans hrep,
          List.rel_append hF (.cons (fun _ => ?_) .nil), ?_⟩
        · simp only [MenuInput, hlit]
          refine ⟨text, by cases inline <;> simp [hneed], fun hn => ?_⟩
          obtain rfl : inline = true := by simpa [hneed] using hn
          exact ⟨t, _, lit, h₁⟩
        · simpa [List.filter_append, hin, hlit] using hmv
  obtain ⟨hl₃, hb₃, hrep₃, hF, hres⟩ := hfold
  rw [List.nil_append] at hF hres
  have hget : ((p.args.zip args).zip (List.range' (s.last + 1) args.length))[i]? =
      some ((m.input, e), s.last + i + 1) := getElem?_zip_range' hslot harg
  have hres' : res.2 = menuLiteral e := by
    rw [hres, Primitive.MenuOnce.filter_eq hmenu hp hget]
    cases hlit : menuLiteral e <;> simp [hlit]
  have hinp : ∃ inp, res.1[i]? = some inp ∧
      MenuInput sc (s.last + args.length + 1) ((m.input, e), s.last + i + 1) inp := by
    obtain ⟨inp, hinp, hR⟩ := forall₂_getElem? hF hget
    exact ⟨inp, hinp, hR (Primitive.isMenuSlot_input hmenu)⟩
  obtain rfl := runs_push.1 h₄
  rw [hres'] at hr₄
  -- the selector is written last, holding `v`
  have hsel : ∀ v w s₅, (writeNode
      { opcode := m.opcode, id := s.last + args.length + 1, parent := this, shadow := true,
        fields := fieldValue m.field v } >>= fun _ =>
          pure (List.range' (s.last + 1) args.length, w)).Runs sc s₅ r s' →
      r = (List.range' (s.last + 1) args.length, w) ∧ s'.last = s₅.last ∧
        s'.blocks = s₅.blocks ++
          [{ id := s.last + args.length + 1, opcode := m.opcode, parent := this, shadow := true,
             fields := fieldValue m.field v }] ∧
        s'.reportsOf .unknownMenuOption = s₅.reportsOf .unknownMenuOption := by
    intro v w s₅ h₅
    obtain ⟨ids, s₆, h₆, h₇⟩ := runs_bind.1 h₅
    obtain ⟨rfl, rfl⟩ := runs_pure.1 h₇
    obtain ⟨hl₆, hout₆⟩ := writeNode_leaf_out rfl rfl rfl h₆
    rw [fieldValue_beq_empty] at hout₆
    exact ⟨rfl, hl₆, EmitState.blocks_of_out hout₆, EmitState.reportsOf_of_out hout₆ _⟩
  obtain ⟨inp, hinp, hmi⟩ := hinp
  cases hlit : menuLiteral e with
  | none =>
    rw [hlit] at hr₄
    dsimp only at hr₄
    rw [pure_bind] at hr₄
    obtain ⟨rfl, hl, hB, hrep⟩ := hsel _ _ _ hr₄
    rw [EmitState.blocks_push_block, hb₃, List.append_assoc] at hB
    refine ⟨rfl, hl.trans hl₃, _, _, hB, rfl, rfl, rfl, ⟨inp, hinp, hmi⟩, rfl, rfl, rfl, rfl,
      fun _ ht => (by cases ht), fun _ => ⟨rfl, ?_⟩⟩
    rw [hrep, EmitState.reportsOf_push_block, hrep₃]
    rfl
  | some t =>
    rw [hlit] at hr₄
    dsimp only at hr₄
    by_cases hacc : m.accepts t = true
    · -- an option: the selector holds it
      rw [if_pos hacc, pure_bind] at hr₄
      obtain ⟨rfl, hl, hB, hrep⟩ := hsel _ _ _ hr₄
      rw [EmitState.blocks_push_block, hb₃, List.append_assoc] at hB
      refine ⟨rfl, hl.trans hl₃, _, _, hB, rfl, rfl, rfl, ⟨inp, hinp, hmi⟩, rfl, rfl, rfl, rfl,
        fun t' ht => ?_, fun h => (by cases h)⟩
      cases ht
      refine ⟨by rw [if_pos hacc], ?_⟩
      rw [hrep, EmitState.reportsOf_push_block, hrep₃, if_pos hacc, List.append_nil]
      rfl
    · -- no option: reported, and the selector holds the default
      rw [if_neg hacc] at hr₄
      obtain ⟨u, s₅, h₅, h₆⟩ := runs_bind.1 hr₄
      obtain rfl := runs_push.1 h₅
      rw [pure_bind] at h₆
      obtain ⟨rfl, hl, hB, hrep⟩ := hsel _ _ _ h₆
      rw [EmitState.blocks_push_report, EmitState.blocks_push_block, hb₃, List.append_assoc] at hB
      refine ⟨rfl, hl.trans hl₃, _, _, hB, rfl, rfl, rfl, ⟨inp, hinp, hmi⟩, rfl, rfl, rfl, rfl,
        fun t' ht => ?_, fun h => (by cases h)⟩
      cases ht
      refine ⟨by rw [if_neg hacc], ?_⟩
      rw [hrep, EmitState.reportsOf_push_report, EmitState.reportsOf_push_block, hrep₃, if_neg hacc]
      rfl

/-! ## The arguments -/

theorem emitPrimitiveArgs_ids {p : Primitive} {used : Bool} {this : Nat} {sc : EmitScope} :
    ∀ {slots : List String} {args : List Expr} {ids : List Nat} {s s' : EmitState},
      (∀ q ∈ Expr.primitivesOf args, q.Writable) → (∀ i ∈ ids, i ≤ s.last) →
      (emitPrimitiveArgs p used this slots args ids).Runs sc s () s' →
      ∃ B, s'.blocks = s.blocks ++ B ∧ s.last ≤ s'.last ∧ ∀ c ∈ B,
        (∃ t ∈ (slots.zip args).zip ids, (used && p.isMenuSlot t.1.1) = false ∧ t.2 = c.id) ∨
          s.last < c.id
  | slot :: slots, arg :: args, id :: ids, s, s', hprims, hle, h => by
    simp only [Expr.primitivesOf, List.mem_append] at hprims
    have hle' : ∀ i ∈ ids, i ≤ s.last := fun i hi => hle i (List.mem_cons_of_mem id hi)
    by_cases hskip : (used && p.isMenuSlot slot) = true
    · -- the argument in a literal menu's slot: skipped
      simp only [emitPrimitiveArgs, hskip] at h
      obtain ⟨F, hF, hleF, hids⟩ := emitPrimitiveArgs_ids (fun q hq => hprims q (Or.inr hq)) hle' h
      refine ⟨F, hF, hleF, fun c hc => (hids c hc).imp_left fun hc' =>
        hc'.imp fun _ ht => ⟨List.mem_cons_of_mem _ ht.1, ht.2⟩⟩
    · -- an argument emitted as its id, then the rest
      simp only [emitPrimitiveArgs, hskip, Bool.not_false, if_true] at h
      obtain ⟨u, s₁, h₁, h₂⟩ := runs_bind.1 h
      obtain ⟨T, hT, hle₁, hfrag, -⟩ := emitExpr_spec "" id this arg
        (fun q hq => hprims q (Or.inl hq)) h₁ (hle id List.mem_cons_self)
      obtain ⟨F, hF, hle₂, hids⟩ := emitPrimitiveArgs_ids (fun q hq => hprims q (Or.inr hq))
        (fun i hi => Nat.le_trans (hle' i hi) hle₁) h₂
      refine ⟨T ++ F, by rw [hF, hT, List.append_assoc], Nat.le_trans hle₁ hle₂, fun c hc => ?_⟩
      rcases List.mem_append.1 hc with hc | hc
      · rcases hfrag.ids c hc with hown | hfresh
        · exact Or.inl ⟨((slot, arg), id), List.mem_cons_self, by simpa using hskip,
            (List.mem_singleton.1 hown).symm⟩
        · exact Or.inr hfresh.1
      · rcases hids c hc with ⟨t, ht, hused, hid⟩ | hfresh
        · exact Or.inl ⟨t, List.mem_cons_of_mem _ ht, hused, hid⟩
        · exact Or.inr (Nat.lt_of_le_of_lt hle₁ hfresh)
  | [], _, _, s, s', _, _, h => by
    simp only [emitPrimitiveArgs, runs_pure] at h
    obtain ⟨-, rfl⟩ := h
    exact ⟨[], by simp, Nat.le_refl _, by simp⟩
  | _ :: _, [], _, s, s', _, _, h => by
    simp only [emitPrimitiveArgs, runs_pure] at h
    obtain ⟨-, rfl⟩ := h
    exact ⟨[], by simp, Nat.le_refl _, by simp⟩
  | _ :: _, _ :: _, [], s, s', _, _, h => by
    simp only [emitPrimitiveArgs, runs_pure] at h
    obtain ⟨-, rfl⟩ := h
    exact ⟨[], by simp, Nat.le_refl _, by simp⟩

/-- Emitting a primitive `p` whose menu `m` fills slot `i`, with the argument `e` there, when
every primitive in it can be written (as every primitive of the catalogue can). The run writes
the primitive's block `b`, then the menu's selector `mb`, then the blocks `R` of the arguments.
The selector is a shadow under `b`, of the menu's opcode, with the id after the arguments' ids,
which no block of `R` carries.

A literal `t` in the slot selects the option: the slot names the selector alone, no block of
`R` carries the id taken for the literal, and the selector holds `t` when the menu accepts it
and the default otherwise; writing `b` and `mb` reports that once. Any other argument covers the
selector: the slot holds the argument's inline text or names its block, which `R` holds under
`b`; the selector holds the default, and no menu option is reported. -/
theorem emitExpr_menu {p : Primitive} {m : Menu} (hmenu : p.menu = some m) {args : List Expr}
    {span : Span} (hprims : ∀ q ∈ (Expr.repr p args span).primitives, q.Writable) {i : Nat}
    {e : Expr} (hslot : p.args[i]? = some m.input) (harg : args[i]? = some e) {field : String}
    {this parent : Nat} {sc : EmitScope} {s s' : EmitState}
    (h : (emitExpr field this parent (.repr p args span)).Runs sc s () s') :
    ∃ b mb R s₁, s₁.blocks = s.blocks ++ [b, mb] ∧ s'.blocks = s₁.blocks ++ R ∧
      (emitPrimitiveArgs p (menuLiteral e).isSome this p.args args
        (List.range' (s.last + 1) args.length)).Runs sc s₁ () s' ∧
      b.id = this ∧ b.opcode = p.opcode ∧ b.parent = parent ∧
      mb.id = s.last + args.length + 1 ∧ mb.opcode = m.opcode ∧ mb.parent = this ∧
      mb.shadow = true ∧ (∀ c ∈ R, c.id ≠ mb.id) ∧
      (∀ t, menuLiteral e = some t →
        b.inputs[i]? = some { name := m.input, kind := 1, value := .block mb.id } ∧
        (∀ c ∈ R, c.id ≠ s.last + i + 1) ∧
        mb.fields = fieldValue m.field (if m.accepts t then t else m.default) ∧
        s₁.reportsOf .unknownMenuOption = s.reportsOf .unknownMenuOption ++
          if m.accepts t then [] else [unknownOption p m span t]) ∧
      (menuLiteral e = none →
        (∃ text, b.inputs[i]? = some { name := m.input, kind := 3, shadow := some (.block mb.id),
                                       value := if e.needsBlock then .block (s.last + i + 1)
                                         else .literal text } ∧
          (e.needsBlock = false → ∃ u u' lit,
            (inlineValue { name := m.input, value := some e }).Runs sc u (text, lit, true) u')) ∧
        (e.needsBlock = true → Adopts R this (s.last + i + 1)) ∧
        mb.fields = fieldValue m.field m.default ∧
        s₁.reportsOf .unknownMenuOption = s.reportsOf .unknownMenuOption) := by
  have hp : p.Writable := hprims p (by simp [Expr.primitives])
  have hargs : ∀ q ∈ Expr.primitivesOf args, q.Writable :=
    fun q hq => hprims q (by simp [Expr.primitives, hq])
  simp only [emitExpr] at h
  obtain ⟨r, s₁, h₁, h₂⟩ := runs_bind.1 h
  obtain ⟨rfl, hl₁, b, mb, hB₁, hid, hop, hpar, ⟨inp, hinp, hmi⟩, hmid, hmop, hmpar, hmsh, hlit,
    hnone⟩ := writePrimitive_menu hmenu hp.menuOnce hslot harg h₁
  have hle : ∀ j ∈ List.range' (s.last + 1) args.length, j ≤ s₁.last := by
    intro j hj
    rw [List.mem_range'_1] at hj
    omega
  obtain ⟨R, hR, -, hids⟩ := emitPrimitiveArgs_ids hargs hle h₂
  -- the arguments' blocks carry the arguments' ids, below the selector's, or later ones
  have hmenuFree : ∀ c ∈ R, c.id ≠ mb.id := by
    intro c hc heq
    rcases hids c hc with ⟨t, ht, -, hid⟩ | hfresh
    · have hmem := (List.of_mem_zip ht).2
      rw [hid, List.mem_range'_1] at hmem
      omega
    · omega
  refine ⟨b, mb, R, s₁, hB₁, hR, h₂, hid, hop, hpar, hmid, hmop, hmpar, hmsh, hmenuFree,
    fun t ht => ?_, fun hn => ?_⟩
  · -- a literal option: its argument is skipped
    simp only [MenuInput, ht] at hmi
    subst hmi
    obtain ⟨hf, hrep⟩ := hlit t ht
    refine ⟨by rw [hinp, hmid], fun c hc heq => ?_, hf, hrep⟩
    rcases hids c hc with ⟨t', ht', hused, hid'⟩ | hfresh
    · obtain ⟨hslot', -⟩ := getElem?_of_mem_zip_range' ht' (hid'.trans heq)
      rw [hslot, Option.some_inj] at hslot'
      rw [ht, ← hslot', Primitive.isMenuSlot_input hmenu] at hused
      cases hused
    · have hi : i < args.length := (List.getElem?_eq_some_iff.1 harg).1
      omega
  · -- any other argument: emitted under the primitive's block
    simp only [MenuInput, hn] at hmi
    obtain ⟨text, rfl, hrun⟩ := hmi
    obtain ⟨hf, hrep⟩ := hnone hn
    refine ⟨⟨text, by rw [hinp, hmid], hrun⟩, fun hneed => ?_, hf, hrep⟩
    obtain ⟨F, hF, -, -, hadopt⟩ := emitPrimitiveArgs_spec p _ this p.args args _ hargs h₂
      List.nodup_range' hle
    rw [hR] at hF
    rw [List.append_cancel_left hF]
    exact hadopt _ (List.mem_of_getElem? (getElem?_zip_range' hslot harg)) hneed (by simp [hn])

/-- `key_pressed "banana"` emitted as the expression with id 1: the key menu offers no
`banana`, so the slot names the selector, id 3, which holds `space`, and one warning is
reported. -/
theorem emitExpr_menu_key_pressed :
    ∃ (p : Primitive) (m : Menu) (sc : EmitScope) (s' : EmitState),
      reporters[11]? = some p ∧ p.menu = some m ∧ m.accepts "banana" = false ∧
      (∀ q ∈ (Expr.repr p [.str "banana" {}] {}).primitives, q.Writable) ∧
      p.args[0]? = some m.input ∧
      (emitExpr "" 1 0 (.repr p [.str "banana" {}] {})).Runs sc { last := 1 } () s' ∧
      ∃ (b mb : Block) (s₁ : EmitState), s₁.blocks = [b, mb] ∧
        b.inputs[0]? = some { name := m.input, kind := 1, value := .block 3 } ∧
        mb.opcode = m.opcode ∧ mb.fields = fieldValue m.field m.default ∧
        s₁.reportsOf .unknownMenuOption = [unknownOption p m {} "banana"] := by
  let sc : EmitScope := { sprite := { name := "Cat", isStage := false }, stage := none }
  let p : Primitive := reporters.get ⟨11, by decide⟩
  let m : Menu :=
    { input := "KEY_OPTION", opcode := "sensing_keyoptions", field := "KEY_OPTION",
      default := "space", options := keyOptions }
  have hmenu : p.menu = some m := rfl
  have hacc : m.accepts "banana" = false := by decide
  have hprims : ∀ q ∈ (Expr.repr p [.str "banana" {}] {}).primitives, q.Writable := by
    intro q hq
    simp only [Expr.primitives, Expr.primitivesOf, List.append_nil, List.mem_singleton] at hq
    subst hq
    exact ⟨by decide, Or.inl rfl⟩
  have hslot : p.args[0]? = some m.input := rfl
  have hrun : (emitExpr "" 1 0 (.repr p [.str "banana" {}] {})).Runs sc { last := 1 } ()
      (emitExpr "" 1 0 (.repr p [.str "banana" {}] {}) sc { last := 1 }).2 := by
    refine runs_of_isOk ?_
    rw [emitExpr]
    decide +kernel
  obtain ⟨b, mb, R, s₁, hB, -, -, -, -, -, hmid, hmop, -, -, -, hlit, -⟩ :=
    emitExpr_menu hmenu hprims hslot rfl hrun
  obtain ⟨hinp, -, hf, hrep⟩ := hlit "banana" rfl
  simp only [hacc, Bool.false_eq_true, if_false] at hf hrep
  exact ⟨p, m, sc, _, rfl, hmenu, hacc, hprims, hslot, hrun, b, mb, s₁, hB,
    by rw [hinp, hmid]; rfl, hmop, hf, hrep⟩

end BlockGraph.Graph
