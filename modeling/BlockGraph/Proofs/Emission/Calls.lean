import BlockGraph.Proofs.Resolve.Expansion
import BlockGraph.Proofs.Emission.Appends
/-!
# Calls agree with definitions

A call and its procedure's definition flatten the arguments into parameters, each in its own
scope; parameters depend on the structs in scope only, so in one target the two agree.
-/

namespace BlockGraph

/-- The finding for a call of `p` with `given` arguments, not as many as `p` declares. -/
def Proc.arityMismatch (p : Proc) (given : Nat) (span : Span) : Diagnostic :=
  (Diagnostic.error .argCountMismatch span
    (p.name ++ " takes " ++ toString p.args.length ++ " arguments, got " ++ toString given)).withNote
      p.span "declared here"

end BlockGraph

namespace BlockGraph.Graph

open EmitM Json.Grammar

variable {sc : EmitScope}

theorem runs_mapM_forall₂ {α γ : Type} {f : γ → EmitM α} (xs : List γ) :
    ∀ {ys : List α} {s s' : EmitState}, (xs.mapM f).Runs sc s ys s' →
      List.Forall₂ (fun x y => ∃ t t', (f x).Runs sc t y t') xs ys := by
  induction xs with
  | nil =>
    intro ys s s' h
    rw [List.mapM_nil, runs_pure] at h
    obtain ⟨rfl, -⟩ := h
    exact .nil
  | cons x xs ih =>
    intro ys s s' h
    rw [List.mapM_cons] at h
    obtain ⟨y, s₁, h₁, h⟩ := runs_bind.1 h
    obtain ⟨ys', s₂, h₂, h⟩ := runs_bind.1 h
    obtain ⟨rfl, -⟩ := runs_pure.1 h
    exact .cons ⟨s, s₁, h₁⟩ (ih h₂)

def Slot.InputIn (sc : EmitScope) (sl : Slot) (child : Nat) (i : Input) : Prop :=
  ∃ t t', (slotInput sl child).Runs sc t i t'

theorem writeNode_inputs {spec : NodeSpec} {r : List Nat × List (List Nat)} {s s' : EmitState}
    (h : (writeNode spec).Runs sc s r s') :
    ∃ b, s'.blocks = s.blocks ++ [b] ∧ NodeBlock spec r.1 r.2 b ∧
      ∃ ins, List.Forall₂ (fun p i => p.1.InputIn sc p.2 i) (spec.slots.zip r.1) ins ∧
        b.inputs = ins ++ (spec.branches.zip r.2).filterMap fun p =>
          p.2.head?.map fun first => childInput p.1.1 first true := by
  obtain ⟨-, b, -, -, -, -, hblocks, hb⟩ := writeNode_runs h
  refine ⟨b, hblocks, hb, ?_⟩
  unfold writeNode at h
  obtain ⟨slotIds, s₁, h₁, h⟩ := runs_bind.1 h
  obtain ⟨bodyIds, s₂, h₂, h⟩ := runs_bind.1 h
  dsimp only at h
  rw [ite_bind_same] at h
  obtain ⟨y, s₃, h₃, h⟩ := runs_bind.1 h
  obtain ⟨inputs, s₄, h₄, h⟩ := runs_bind.1 h
  obtain ⟨u, s₅, h₅, h⟩ := runs_bind.1 h
  obtain ⟨rfl, rfl⟩ := runs_pure.1 h
  obtain rfl := runs_push.1 h₅
  -- the block written last is `b`
  rw [EmitState.blocks_push_block] at hblocks
  obtain ⟨-, hb'⟩ := List.append_inj' hblocks rfl
  obtain rfl := (List.singleton_inj.1 hb').symm
  exact ⟨inputs, runs_mapM_forall₂ _ h₄, rfl⟩

/-- The input slots of a call with arguments `args` of a procedure with parameters `ps`: a
parameter's input takes the argument it comes from, if the call has one, and picks the
parameter's field. -/
def callSlots (ps : List Param) (args : List Expr) : List Slot :=
  ps.map fun q => { name := q.id, field := q.field, value := args[q.arg]? }

def callSpec (link : Link) (p : Proc) (ps : List Param) (args : List Expr) : NodeSpec :=
  { opcode := Opcode.procCall, id := link.id, parent := link.parent, next := link.next,
    slots := callSlots ps args, mutation := callMutation p.name ps p.warp }

theorem emitStmt_call {link : Link} {st : Stmt} {p : Proc} {s s' : EmitState}
    (hkind : st.kind = .procCall) (hp : sc.sprite.proc? st.proc = some p)
    (h : (emitStmt link st).Runs sc s () s') :
    ∃ s₁, s₁.last = s.last ∧
      s₁.out = (if st.args.length = p.args.length then [] else
        [.report (p.arityMismatch st.args.length st.span)]) ++ s.out ∧
      (writeWithSlots (callSpec link p (params sc p) st.args)).Runs sc s₁ () s' := by
  obtain ⟨kind, span, name, type, isLocal, value, index, times, cond, op, body, orElse, command,
    proc, args⟩ := st
  dsimp only at hkind hp ⊢
  subst hkind
  simp only [emitStmt] at h
  obtain ⟨sc', s₀, h₀, h₁⟩ := runs_bind.1 h
  obtain ⟨rfl, rfl⟩ := runs_read.1 h₀
  clear h
  simp only [hp] at h₁
  by_cases hlen : args.length = p.args.length
  · rw [if_neg (by simpa using hlen)] at h₁
    exact ⟨s₀, rfl, by simp [hlen], h₁⟩
  · rw [if_pos (by simpa using hlen)] at h₁
    obtain ⟨u, s₁, h₂, h₃⟩ := runs_bind.1 h₁
    obtain rfl := runs_push.1 h₂
    refine ⟨_, ?_, ?_, h₃⟩
    · rfl
    · simp [hlen, Proc.arityMismatch]

theorem forall₂_of_zip {α β γ : Type} {R : α × β → γ → Prop} (xs : List α) :
    ∀ {ids : List β} {ys : List γ}, ids.length = xs.length →
      List.Forall₂ R (xs.zip ids) ys → List.Forall₂ (fun x y => ∃ i, R (x, i) y) xs ys := by
  induction xs with
  | nil =>
    intro ids ys _ h
    rw [List.zip_nil_left] at h
    cases h
    exact .nil
  | cons x xs ih =>
    intro ids ys hlen h
    cases ids with
    | nil => simp at hlen
    | cons i ids =>
      rw [List.zip_cons_cons] at h
      cases h with
      | cons hxy hrest => exact .cons ⟨i, hxy⟩ (ih (by simpa using hlen) hrest)

/-- A node with slots and no branches is the first block its run writes; its inputs are those
of its slots, in order; and the run emits nothing before it and takes back nothing. -/
theorem writeWithSlots_node {spec : NodeSpec} (hbr : spec.branches = []) {s s' : EmitState}
    (h : (writeWithSlots spec).Runs sc s () s') :
    ∃ b B, s'.blocks = s.blocks ++ b :: B ∧ NodeBlock spec (List.range' (s.last + 1) spec.slots.length) [] b ∧
      List.Forall₂ (fun sl i => ∃ child, sl.InputIn sc child i) spec.slots b.inputs ∧
      (∃ t, (emitSlots spec.id spec.slots (List.range' (s.last + 1) spec.slots.length)).Runs sc t () s') ∧
      ∃ new, s'.out = new ++ s.out := by
  unfold writeWithSlots at h
  obtain ⟨⟨ids, bodies⟩, s₁, h₁, h₂⟩ := runs_bind.1 h
  obtain ⟨hids, hbodies, -, -⟩ := writeNode_slots hbr h₁
  obtain ⟨b, hblocks, hb, ins, hins, hinputs⟩ := writeNode_inputs h₁
  dsimp only at hids hbodies hb hins hinputs h₂
  subst hbodies
  obtain ⟨B, hB⟩ := (emitSlots_serious _ _ _).appends.blocks h₂
  refine ⟨b, B, by rw [hB, hblocks, List.append_assoc, List.singleton_append], hids ▸ hb, ?_,
    ⟨s₁, hids ▸ h₂⟩, ((writeNode_serious spec).bind fun r => emitSlots_serious _ _ r.1).appends h⟩
  rw [hinputs, hbr, List.zip_nil_left, List.filterMap_nil, List.append_nil]
  exact forall₂_of_zip _ (by rw [hids, List.length_range']) hins

/-- A procedure's definition writes the definition block and then its prototype, whose inputs
are named by the parameters' ids and whose mutation is the prototype's, for the parameters the
procedure has in its own scope. -/
theorem emitProcDef_prototype {p : Proc} {s s' : EmitState} (h : (emitProcDef p).Runs sc s () s') :
    ∃ d proto R, s'.blocks = s.blocks ++ d :: proto :: R ∧ d.opcode = Opcode.procDefinition ∧
      proto.opcode = Opcode.procPrototype ∧ proto.parent = d.id ∧
      proto.inputs.map Input.name = (params { sc with proc := some p } p).map Param.id ∧
      proto.mutation = prototypeMutation p (params { sc with proc := some p } p) := by
  unfold emitProcDef at h
  rw [runs_withReader] at h
  obtain ⟨sc', s₀, h₀, hr₀⟩ := runs_bind.1 h
  obtain ⟨rfl, rfl⟩ := runs_read.1 h₀
  clear h
  obtain ⟨defId, s₁, h₁, hr₁⟩ := runs_bind.1 hr₀
  obtain ⟨-, -, hb₁⟩ := runs_fresh_state h₁
  obtain ⟨⟨⟩, s₂, h₂, hr₂⟩ := runs_bind.1 hr₁
  obtain ⟨-, hb₂⟩ := runs_push_scriptStart h₂
  obtain ⟨protoId, s₃, h₃, hr₃⟩ := runs_bind.1 hr₂
  obtain ⟨-, -, hb₃⟩ := runs_fresh_state h₃
  obtain ⟨reporterIds, s₄, h₄, hr₄⟩ := runs_bind.1 hr₃
  obtain ⟨hrep, -, hb₄⟩ := runs_take_state h₄
  obtain ⟨bodyIds, s₅, h₅, hr₅⟩ := runs_bind.1 hr₄
  obtain ⟨-, -, hb₅⟩ := runs_take_state h₅
  obtain ⟨y, s₆, h₆, hr₆⟩ := runs_bind.1 hr₅
  obtain ⟨-, hb₆⟩ := runs_place_state h₆
  obtain ⟨⟨⟩, s₇, h₇, hr₇⟩ := runs_bind.1 hr₆
  obtain ⟨D, hD, hDop, hDid⟩ : ∃ D : Block, s₇.blocks = s₆.blocks ++ [D] ∧
      D.opcode = Opcode.procDefinition ∧ D.id = defId := ⟨_, (runs_push_block h₇).2, rfl, rfl⟩
  obtain ⟨⟨⟩, s₈, h₈, hr₈⟩ := runs_bind.1 hr₇
  obtain ⟨P, hP, hPop, hPpar, hPnames, hPmut⟩ : ∃ P : Block, s₈.blocks = s₇.blocks ++ [P] ∧
      P.opcode = Opcode.procPrototype ∧ P.parent = defId ∧
      P.inputs.map Input.name = (params { sc with proc := some p } p).map Param.id ∧
      P.mutation = prototypeMutation p (params { sc with proc := some p } p) := by
    refine ⟨_, (runs_push_block h₈).2, rfl, rfl, ?_, rfl⟩
    -- one reporter id was taken per parameter
    have hfst := List.map_fst_zip (show (params { sc with proc := some p } p).length ≤
      reporterIds.length by simp [hrep])
    conv_rhs => rw [← hfst]
    rw [List.map_map, List.map_map]
    rfl
  -- the argument reporters and the body come after the prototype
  obtain ⟨R, hR⟩ := ((Emits.forIn (fun x _ => (writeNode_serious _).bind fun _ =>
    Emits.pure) _ _).bind fun _ => emitStmt_chain_serious.2.1 _ _ _).appends.blocks hr₈
  refine ⟨D, P, R, ?_, hDop, hPop, hPpar.trans hDid.symm, hPnames, hPmut⟩
  rw [hR, hP, hD, hb₆, hb₅, hb₄, hb₃, hb₂, hb₁]
  simp

theorem params_of_struct? {s s' : EmitScope} (h : s.struct? = s'.struct?) (p : Proc) :
    params s p = params s' p := by
  unfold params
  rw [h]

theorem EmitScope.struct?_of_target {s s' : EmitScope} (hsprite : s'.sprite = s.sprite)
    (hstage : s'.stage = s.stage) : s'.struct? = s.struct? := by
  funext n
  simp only [EmitScope.struct?, hsprite, hstage]

/-! ## Mutations -/

theorem callMembers_lookup (p : Proc) (ps : List Param) :
    ∀ k ∈ ["proccode", "argumentids", "warp"], ∃ v, (callMembers p.name ps p.warp).lookup (key k) = some v ∧
      (prototypeMembers p ps).lookup (key k) = some v := by
  intro k hk
  simp only [List.mem_cons, List.not_mem_nil, or_false] at hk
  rcases hk with rfl | rfl | rfl <;> exact ⟨_, rfl, rfl⟩

/-! ## Inputs of a call -/

theorem Slot.InputIn.name {sl : Slot} {child : Nat} {i : Input} (h : sl.InputIn sc child i) :
    i.name = sl.name := by
  obtain ⟨_, _, hr⟩ := h
  exact (slotInput_quietly sl child hr).1.1

theorem Slot.InputIn.of_none {sl : Slot} (hv : sl.value = none) {child : Nat} {i : Input}
    (h : sl.InputIn sc child i) : i = { name := sl.name, kind := 1, value := .literal emptyShadow } := by
  obtain ⟨t, t', hr⟩ := h
  unfold slotInput at hr
  obtain ⟨r, t₁, h₁, h₂⟩ := runs_bind.1 hr
  unfold inlineValue at h₁
  rw [hv] at h₁
  obtain ⟨rfl, rfl⟩ := runs_pure.1 h₁
  exact (runs_pure.1 h₂).1

theorem inlineName_pick {n : Name} {f : String} (hn : n.field = "") (hf : f ≠ "") :
    inlineName n f = inlineName { n with field := f } "" := by
  unfold inlineName
  simp [hn, hf]

theorem slotInput_pick {sl : Slot} {n : Name} (hv : sl.value = some (.name n)) (hn : n.field = "")
    (hf : sl.field ≠ "") (child : Nat) :
    slotInput sl child =
      slotInput { sl with value := some (.name { n with field := sl.field }), field := "" } child := by
  unfold slotInput inlineValue
  simp only [hv]
  rw [inlineName_pick hn hf]

/-! ## Calls and definitions -/

/-- A call of a procedure `p` of its target, emitted at `link` in scope `sc`, and `p`'s
definition, emitted in a scope of the same target: the call's node is the first block the call
writes, the prototype the second block the definition writes. The two mutations have the same
prototype text, parameter ids and refresh flag; the call's inputs are the prototype's, one per
parameter, in order, named by the ids of the procedure's arguments (a struct argument
gives one per field); each input is written from the parameter's slot, which takes its argument
and picks its field, so a name without a field is written as that field, and an argument the
call lacks as an empty text shadow; the slots' expressions are emitted after the node; and a
call whose number of arguments differs from the declared one is reported. -/
theorem calls_agree_with_definitions {sc dc : EmitScope} {link : Link} {st : Stmt} {p : Proc}
    {s s' u u' : EmitState} (hkind : st.kind = .procCall) (hproc : sc.sprite.proc? st.proc = some p)
    (hsprite : dc.sprite = sc.sprite) (hstage : dc.stage = sc.stage)
    (hcall : (emitStmt link st).Runs sc s () s') (hdef : (emitProcDef p).Runs dc u () u') :
    ∃ c R d proto R', s'.blocks = s.blocks ++ c :: R ∧ u'.blocks = u.blocks ++ d :: proto :: R' ∧
      c.id = link.id ∧ c.opcode = Opcode.procCall ∧ d.opcode = Opcode.procDefinition ∧
      proto.opcode = Opcode.procPrototype ∧ proto.parent = d.id ∧
      c.mutation.toList = objectText (callMembers p.name (params sc p) p.warp) ∧
      proto.mutation.toList = objectText (prototypeMembers p (params sc p)) ∧
      (∀ k ∈ ["proccode", "argumentids", "warp"], ∃ v,
        (callMembers p.name (params sc p) p.warp).lookup (key k) = some v ∧
          (prototypeMembers p (params sc p)).lookup (key k) = some v) ∧
      c.inputs.map Input.name = proto.inputs.map Input.name ∧
      proto.inputs.map Input.name = (p.args.flatMap sc.argNames).map (Names.localName p.name) ∧
      List.Forall₂ (fun sl i => ∃ child, sl.InputIn sc child i) (callSlots (params sc p) st.args)
        c.inputs ∧
      (∀ q ∈ params sc p, ∀ n, st.args[q.arg]? = some (.name n) → n.field = "" → q.field ≠ "" →
        ∃ i ∈ c.inputs, ∃ child, Slot.InputIn sc
          { name := q.id, value := some (.name { n with field := q.field }) } child i) ∧
      (∀ q ∈ params sc p, st.args.length ≤ q.arg →
        { name := q.id, kind := 1, value := .literal emptyShadow } ∈ c.inputs) ∧
      (∃ t ids, (emitSlots c.id (callSlots (params sc p) st.args) ids).Runs sc t () s') ∧
      (st.args.length ≠ p.args.length → .report (p.arityMismatch st.args.length st.span) ∈ s'.out) := by
  obtain ⟨s₁, -, hout₁, hw⟩ := emitStmt_call hkind hproc hcall
  obtain ⟨c, R, hblocks, hc, hins, ⟨t, hslots⟩, new, hnew⟩ := writeWithSlots_node rfl hw
  obtain ⟨d, proto, R', hblocks', hdop, hpop, hpar, hnames, hmut⟩ := emitProcDef_prototype hdef
  -- the definition flattens the parameters in its own scope, with the structs of the call's
  have hps : params { dc with proc := some p } p = params sc p :=
    params_of_struct? (EmitScope.struct?_of_target hsprite hstage) p
  -- the call reports before its node, and a report is no block
  have hb₁ : s₁.blocks = s.blocks := by
    unfold EmitState.blocks
    rw [hout₁]
    split <;> simp [Emitted.block?]
  -- each input is named by its slot, that is by its parameter's id
  have hcnames : c.inputs.map Input.name = (params sc p).map Param.id := by
    have h := List.forall₂_map_right_iff.2 (List.forall₂_map_left_iff.2
      (hins.imp fun sl i h => by obtain ⟨_, hi⟩ := h; exact hi.name.symm))
    rw [List.forall₂_eq_eq_eq] at h
    rw [← h]
    simp [callSpec, callSlots, Function.comp_def]
  -- the input of a parameter is written from its slot
  have hslot : ∀ q ∈ params sc p, ∃ i ∈ c.inputs, ∃ child,
      Slot.InputIn sc { name := q.id, field := q.field, value := st.args[q.arg]? } child i := by
    intro q hq
    obtain ⟨i, hi, hR⟩ := forall₂_mem_right hins.flip _ (List.mem_map_of_mem hq)
    exact ⟨i, hi, hR⟩
  refine ⟨c, R, d, proto, R', by rw [hblocks, hb₁], hblocks', hc.id, hc.opcode, hdop, hpop, hpar,
    by rw [hc.mutation]; exact callMutation_toList .., by rw [hmut, hps]; exact prototypeMutation_toList ..,
    callMembers_lookup p (params sc p), by rw [hcnames, hnames, hps],
    by rw [hnames, hps, EmitScope.params_ids], hins, ?_, ?_, ⟨t, _, hc.id ▸ hslots⟩, ?_⟩
  · intro q hq n hn hnf hf
    obtain ⟨i, hi, child, t₀, t₀', hr⟩ := hslot q hq
    refine ⟨i, hi, child, t₀, t₀', ?_⟩
    rwa [slotInput_pick hn hnf hf] at hr
  · intro q hq hlen
    obtain ⟨i, hi, child, hr⟩ := hslot q hq
    rwa [hr.of_none (List.getElem?_eq_none hlen)] at hi
  · intro hlen
    rw [hnew, hout₁, if_neg hlen]
    simp

theorem runs_of_isOk {m : EmitM Unit} {s : EmitState} (h : (m sc s).1.isOk = true) :
    m.Runs sc s () (m sc s).2 := by
  unfold EmitM.Runs
  revert h
  rcases m sc s with ⟨_ | ⟨⟩, t⟩ <;> simp [Except.isOk, Except.toBool]

theorem calls_agree_with_definitions_move :
    ∃ (sc dc : EmitScope) (link : Link) (st : Stmt) (p : Proc) (s s' u u' : EmitState),
      st.kind = .procCall ∧ sc.sprite.proc? st.proc = some p ∧ dc.sprite = sc.sprite ∧
      dc.stage = sc.stage ∧ (emitStmt link st).Runs sc s () s' ∧ (emitProcDef p).Runs dc u () u' ∧
      ∃ c R d proto R', s'.blocks = s.blocks ++ c :: R ∧ u'.blocks = u.blocks ++ d :: proto :: R' ∧
        c.id = link.id ∧ c.opcode = Opcode.procCall ∧ d.opcode = Opcode.procDefinition ∧
        proto.opcode = Opcode.procPrototype ∧ proto.parent = d.id ∧
        c.mutation.toList = objectText (callMembers p.name (params sc p) p.warp) ∧
        proto.mutation.toList = objectText (prototypeMembers p (params sc p)) ∧
        (∀ k ∈ ["proccode", "argumentids", "warp"], ∃ v,
          (callMembers p.name (params sc p) p.warp).lookup (key k) = some v ∧
            (prototypeMembers p (params sc p)).lookup (key k) = some v) ∧
        c.inputs.map Input.name = proto.inputs.map Input.name ∧
        proto.inputs.map Input.name = (p.args.flatMap sc.argNames).map (Names.localName p.name) ∧
        List.Forall₂ (fun sl i => ∃ child, sl.InputIn sc child i) (callSlots (params sc p) st.args)
          c.inputs ∧
        (∀ q ∈ params sc p, ∀ n, st.args[q.arg]? = some (.name n) → n.field = "" → q.field ≠ "" →
          ∃ i ∈ c.inputs, ∃ child, Slot.InputIn sc
            { name := q.id, value := some (.name { n with field := q.field }) } child i) ∧
        (∀ q ∈ params sc p, st.args.length ≤ q.arg →
          { name := q.id, kind := 1, value := .literal emptyShadow } ∈ c.inputs) ∧
        (∃ t ids, (emitSlots c.id (callSlots (params sc p) st.args) ids).Runs sc t () s') ∧
        (st.args.length ≠ p.args.length →
          .report (p.arityMismatch st.args.length st.span) ∈ s'.out) := by
  -- a stage with a struct `S { x, y }`, a variable `pos : S`, and `move(a : int, b : S)` called
  -- as `move 1 pos`
  let p : Proc :=
    { name := "move", span := {}, warp := false, body := [],
      args := [{ name := "a", span := {}, type := .int },
        { name := "b", span := {}, type := ValueType.struct "S" }] }
  let t : Sprite :=
    { name := "Stage", isStage := true, procs := [p],
      structs := [{ name := "S", span := {}, fields := [{ name := "x", span := {} }, { name := "y", span := {} }] }],
      vars := [{ name := "pos", span := {}, type := ValueType.struct "S" }] }
  let sc : EmitScope := { sprite := t, stage := none }
  let st : Stmt :=
    { kind := .procCall, span := {}, name := { base := "" }, proc := "move",
      args := [.int 1 {}, .name { base := "pos" }] }
  let link : Link := ⟨5, 4, 0⟩
  -- statements are emitted by well-founded recursion: each is unfolded once before the kernel
  -- evaluates the rest
  have hcall : (emitStmt link st).Runs sc { last := 10 } () (emitStmt link st sc { last := 10 }).2 := by
    refine runs_of_isOk ?_
    rw [emitStmt]
    decide +kernel
  have hdef : (emitProcDef p).Runs sc { last := 20 } () (emitProcDef p sc { last := 20 }).2 := by
    refine runs_of_isOk ?_
    simp only [emitProcDef, emitBody, emitChain]
    decide +kernel
  exact ⟨sc, sc, link, st, p, _, _, _, _, rfl, rfl, rfl, rfl, hcall, hdef,
    calls_agree_with_definitions rfl rfl rfl rfl hcall hdef⟩

end BlockGraph.Graph
