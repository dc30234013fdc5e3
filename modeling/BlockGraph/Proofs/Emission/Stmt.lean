import BlockGraph.Proofs.Emission.Expr

namespace BlockGraph

mutual

/-- The primitives a statement applies: its command's and those of its expressions and
branches. -/
def Stmt.primitives : Stmt → List Primitive
  | ⟨_, _, _, _, _, value, index, times, cond, _, body, orElse, command, _, args⟩ =>
    command :: Expr.primitivesOf (value.toList ++ index.toList ++ times.toList ++ cond.toList ++
      args) ++ Stmt.primitivesOf body ++ Stmt.primitivesOf orElse

def Stmt.primitivesOf : List Stmt → List Primitive
  | [] => []
  | st :: sts => st.primitives ++ Stmt.primitivesOf sts

end

/-- The opcodes the block of a statement may have, by its kind: a conditional is `if` or
`if_else` by whether it has an else branch, showing or hiding a name is the variable's or the
list's, and a block statement has its command's opcode. -/
def Stmt.opcodes (st : Stmt) : List String :=
  match st.kind with
  | .repeatTimes => [Opcode.repeatTimes]
  | .forever => [Opcode.forever]
  | .branch => if st.orElse.isEmpty then [Opcode.ifThen] else [Opcode.ifElse]
  | .repeatUntil => [Opcode.repeatUntil]
  | .setVar | .setField => [Opcode.setVariable]
  | .changeVar => [Opcode.changeVariable]
  | .showData => [Opcode.showVariable, Opcode.showList]
  | .hideData => [Opcode.hideVariable, Opcode.hideList]
  | .listAdd => [Opcode.addToList]
  | .listDelete => [Opcode.deleteOfList]
  | .listDeleteAll => [Opcode.deleteAllOfList]
  | .listInsert => [Opcode.insertAtList]
  | .listSet | .listChange => [Opcode.replaceItemOfList]
  | .block => [st.command.opcode]
  | .procCall => [Opcode.procCall]

/-- The branches of a statement, by the input that holds each: the body of a loop or a
conditional, and the else branch of a conditional that has one. -/
def Stmt.branches (st : Stmt) : List (String × List Stmt) :=
  match st.kind with
  | .repeatTimes | .forever | .repeatUntil => [("SUBSTACK", st.body)]
  | .branch =>
    if st.orElse.isEmpty then [("SUBSTACK", st.body)]
    else [("SUBSTACK", st.body), ("SUBSTACK2", st.orElse)]
  | _ => []

namespace Graph

def Block.input? (b : Block) (name : String) : Option Input :=
  b.inputs.find? (·.name == name)

def Block.branch (b : Block) (name : String) : Option Nat :=
  (b.input? name).bind (·.value.ref?)

/-- Following `next` from the block `first` visits one block per statement of `sts`, in
order, each of an opcode of its statement, and then stops; each branch of a statement is
likewise a chain from the block its branch input refers to, and an empty branch has no
input. -/
inductive ChainFrom (G : List Block) : Option Nat → List Stmt → Prop
  | nil : ChainFrom G none []
  | cons {b : Block} {st : Stmt} {sts : List Stmt} : b ∈ G → b.opcode ∈ st.opcodes →
      (∀ br ∈ st.branches, br.2 = [] → b.input? br.1 = none) →
      (∀ br ∈ st.branches, ChainFrom G (b.branch br.1) br.2) → ChainFrom G b.next? sts →
      ChainFrom G (some b.id) (st :: sts)

theorem ChainFrom.mono {G G' : List Block} (hG : G ⊆ G') {first : Option Nat} {sts : List Stmt}
    (h : ChainFrom G first sts) : ChainFrom G' first sts := by
  induction h with
  | nil => exact .nil
  | cons hb hop habsent _ _ ihbr ihnext => exact .cons (hG hb) hop habsent ihbr ihnext

open EmitM

theorem assignedVariable_quietly (n : Name) : (assignedVariable n).Quietly fun _ => True := by
  unfold assignedVariable
  refine Quietly.bind Quietly.read fun sc _ => ?_
  split
  dsimp only
  repeat' split
  all_goals first | exact Quietly.report_bind (Quietly.pure trivial) | exact Quietly.pure trivial

theorem changedList_quietly (n : Name) : (changedList n).Quietly fun _ => True := by
  unfold changedList
  refine Quietly.bind Quietly.read fun sc _ => ?_
  split
  dsimp only
  split
  · exact Quietly.report_bind (Quietly.pure trivial)
  · exact Quietly.pure trivial

/-- What a statement at `link` wrote from `s` to `s'`: its block, with the link's id, parent
and next and an opcode among `ops`, over a fragment that adopts the block's inputs and in
which each branch of `brs` is a chain from the block's input of that name. -/
def StmtWrote (link : Link) (ops : List String) (brs : List (String × List Stmt))
    (s s' : EmitState) : Prop :=
  ∃ b R, s'.blocks = s.blocks ++ b :: R ∧ s.last ≤ s'.last ∧ b.id = link.id ∧
    b.parent = link.parent ∧ b.next = link.next ∧ b.opcode ∈ ops ∧
    NodeOver s.last s'.last b R ∧
    ∀ br ∈ brs, (br.2 = [] → b.input? br.1 = none) ∧ ChainFrom R (b.branch br.1) br.2

namespace StmtWrote

variable {link : Link} {ops : List String} {brs : List (String × List Stmt)}
  {s s₁ s' : EmitState}

theorem of_quiet (hl : s₁.last = s.last) (hb : s₁.blocks = s.blocks)
    (h : StmtWrote link ops brs s₁ s') : StmtWrote link ops brs s s' := by
  unfold StmtWrote
  rw [← hl, ← hb]
  exact h

theorem mono_ops {ops' : List String} (h : StmtWrote link ops brs s s') (hops : ops ⊆ ops') :
    StmtWrote link ops' brs s s' := by
  obtain ⟨b, R, hB, hle, hid, hpar, hnext, hop, rest⟩ := h
  exact ⟨b, R, hB, hle, hid, hpar, hnext, hops hop, rest⟩

end StmtWrote

theorem writeLeaf_wrote {spec : NodeSpec} (hs : spec.slots = []) (hbr : spec.branches = [])
    (htop : spec.topLevel = false) {sc : EmitScope} {s s' : EmitState}
    (h : (writeNode spec >>= fun _ => pure ()).Runs sc s () s') (hspec : spec.Writable) :
    StmtWrote ⟨spec.id, spec.parent, spec.next⟩ [spec.opcode] [] s s' := by
  obtain ⟨r, s₁, h₁, h₂⟩ := runs_bind.1 h
  obtain ⟨-, rfl⟩ := runs_pure.1 h₂
  obtain ⟨hlast, b, hblocks, hb, hrefs⟩ := writeNode_leaf hs hbr h₁
  refine ⟨b, [], by simpa using hblocks, by omega, hb.id, hb.parent, hb.next, by simp [hb.opcode],
    ⟨Fragment.nil, by simp [hrefs], hb.shaped hspec, hb.topLevel.trans htop⟩, by simp⟩

theorem writeWithSlots_wrote {spec : NodeSpec} (hbr : spec.branches = [])
    (htop : spec.topLevel = false) (hp : ∀ sl ∈ spec.slots, PrimsWritable sl.value)
    {sc : EmitScope} {s s' : EmitState} (h : (writeWithSlots spec).Runs sc s () s')
    (hspec : spec.Writable) :
    StmtWrote ⟨spec.id, spec.parent, spec.next⟩ [spec.opcode] [] s s' := by
  unfold writeWithSlots at h
  obtain ⟨⟨ids, bodies⟩, s₁, h₁, h₂⟩ := runs_bind.1 h
  obtain ⟨hids, hbodies, hlast, -⟩ := writeNode_slots hbr h₁
  dsimp only at hids hbodies h₂
  subst hbodies
  obtain ⟨F, hblocks, hle, hF, hadopt⟩ := emitSlots_spec hp h₂ (hids ▸ List.nodup_range')
    (fun i hi => by rw [hids, List.mem_range'_1] at hi; omega)
  obtain ⟨b, hB, hle', hb, hover⟩ := writeNode_over h₁ htop hspec hblocks hle
    (by simpa using hF) hadopt (by simp [hbr])
  exact ⟨b, F, hB, hle', hb.id, hb.parent, hb.next, by simp [hb.opcode], hover, by simp⟩

theorem writeNode_ids {spec : NodeSpec} {r : List Nat × List (List Nat)} {sc : EmitScope}
    {s s' : EmitState} (h : (writeNode spec).Runs sc s r s') :
    (r.1 ++ r.2.flatten).Nodup ∧ ∀ i ∈ r.1 ++ r.2.flatten, s.last < i ∧ i ≤ s'.last := by
  obtain ⟨k, b, hids, -, -, hlast, -⟩ := writeNode_runs h
  rw [hids, hlast]
  refine ⟨List.nodup_range', fun i hi => ?_⟩
  rw [List.mem_range'_1] at hi
  omega

def branchInputs (L : List ((String × Nat) × List Nat)) : List Input :=
  L.filterMap fun p => p.2.head?.map fun first => childInput p.1.1 first true

theorem branchInputs_cons (p : (String × Nat) × List Nat) (L : List ((String × Nat) × List Nat)) :
    branchInputs (p :: L) =
      (p.2.head?.map fun first => childInput p.1.1 first true).toList ++ branchInputs L := by
  unfold branchInputs
  rw [List.filterMap_cons]
  cases p.2.head? <;> rfl

theorem find_branchInputs_eq_none {n : String} {L : List ((String × Nat) × List Nat)}
    (h : n ∉ L.map (·.1.1)) : (branchInputs L).find? (·.name == n) = none := by
  rw [List.find?_eq_none]
  intro i hi hname
  obtain ⟨p, hp, hmap⟩ := List.mem_filterMap.1 hi
  obtain ⟨first, -, rfl⟩ := Option.map_eq_some_iff.1 hmap
  rw [childInput_name, beq_iff_eq] at hname
  exact h (hname ▸ List.mem_map_of_mem hp)

theorem find_branchInputs {n : String} :
    ∀ {L : List ((String × Nat) × List Nat)}, (L.map (·.1.1)).Nodup → ∀ {q}, q ∈ L → q.1.1 = n →
      (branchInputs L).find? (·.name == n) = q.2.head?.map fun first => childInput n first true
  | [], _, _, hq, _ => absurd hq List.not_mem_nil
  | p :: L, hnodup, q, hq, hn => by
    rw [List.map_cons, List.nodup_cons] at hnodup
    rw [branchInputs_cons, List.find?_append]
    rcases List.mem_cons.1 hq with rfl | hq
    · -- the branch's own input comes first, when it has one; no later input has its name
      rw [hn] at hnodup
      cases q.2.head? with
      | none =>
        rw [Option.map_none, Option.toList_none, List.find?_nil, Option.none_or,
          find_branchInputs_eq_none hnodup.1]
        rfl
      | some first => simp [hn, childInput]
    · have hp : p.1.1 ≠ n := fun h => hnodup.1 (h ▸ hn ▸ List.mem_map_of_mem hq)
      have ih := find_branchInputs hnodup.2 hq hn
      cases p.2.head? with
      | none => simpa using ih
      | some first => simpa [hp] using ih

theorem NodeBlock.input?_eq {spec : NodeSpec} {slotIds : List Nat} {bodyIds : List (List Nat)}
    {b : Block} (hb : NodeBlock spec slotIds bodyIds b)
    (hnames : (spec.slots.map Slot.name ++ spec.branches.map Prod.fst).Nodup)
    (hlen : bodyIds.length = spec.branches.length) {q : (String × Nat) × List Nat}
    (hq : q ∈ spec.branches.zip bodyIds) :
    b.input? q.1.1 = q.2.head?.map fun first => childInput q.1.1 first true := by
  obtain ⟨ins, hins, heq⟩ := hb.inputs
  rw [List.nodup_append] at hnames
  have hnone : ins.find? (·.name == q.1.1) = none := by
    rw [List.find?_eq_none]
    intro i hi hname
    obtain ⟨p, hp, hpname, -⟩ := hins i hi
    rw [beq_iff_eq, hpname] at hname
    exact hnames.2.2 _ (List.mem_map_of_mem (List.of_mem_zip hp).1) _
      (List.mem_map_of_mem (List.of_mem_zip hq).1) hname
  have hzip : ((spec.branches.zip bodyIds).map (·.1.1)).Nodup := by
    rw [show (fun x : (String × Nat) × List Nat => x.1.1) = Prod.fst ∘ Prod.fst from rfl,
      ← List.map_map, List.map_fst_zip (by omega)]
    exact hnames.2.1
  unfold Block.input?
  rw [heq, List.find?_append, hnone, Option.none_or]
  exact find_branchInputs hzip hq rfl

theorem NodeBlock.branch_eq {spec : NodeSpec} {slotIds : List Nat} {bodyIds : List (List Nat)}
    {b : Block} (hb : NodeBlock spec slotIds bodyIds b)
    (hnames : (spec.slots.map Slot.name ++ spec.branches.map Prod.fst).Nodup)
    (hlen : bodyIds.length = spec.branches.length) {q : (String × Nat) × List Nat}
    (hq : q ∈ spec.branches.zip bodyIds) : b.branch q.1.1 = q.2.head? := by
  unfold Block.branch
  rw [hb.input?_eq hnames hlen hq]
  cases q.2.head? <;> simp [childInput, InputValue.ref?]

theorem exists_mem_zip {α β γ : Type} {f : α → γ} {g : β → γ} {l₁ : List α} {l₂ : List β}
    (h : l₁.map f = l₂.map g) {a : α} (ha : a ∈ l₁) : ∃ b, (a, b) ∈ l₁.zip l₂ ∧ f a = g b := by
  have hlen : l₁.length = l₂.length := by simpa using congrArg List.length h
  obtain ⟨k, hk, rfl⟩ := List.getElem_of_mem ha
  have hk₂ : k < l₂.length := hlen ▸ hk
  have hzip : k < (l₁.zip l₂).length := by simp [← hlen, hk]
  refine ⟨l₂[k], by simpa [List.getElem_zip] using List.getElem_mem hzip, ?_⟩
  simpa [hk, hk₂] using congrArg (·[k]?) h

theorem branchNode_wrote {spec : NodeSpec} {brs : List (String × List Stmt)}
    (hbrs : spec.branches = brs.map fun br => (br.1, br.2.length))
    (hnames : (spec.slots.map Slot.name ++ brs.map Prod.fst).Nodup)
    (htop : spec.topLevel = false) {r : List Nat × List (List Nat)} {sc : EmitScope}
    {s s₁ s' : EmitState} {F : List Block} (h : (writeNode spec).Runs sc s r s₁)
    (hblocks : s'.blocks = s₁.blocks ++ F) (hle : s₁.last ≤ s'.last)
    (hF : Fragment (r.1 ++ r.2.flatten) spec.id s₁.last s'.last F)
    (hslots : ∀ p ∈ spec.slots.zip r.1, p.1.needsBlock = true → Adopts F spec.id p.2)
    (hchains : ∀ q ∈ brs.zip r.2,
      (∀ i ∈ q.2.head?, Adopts F spec.id i) ∧ ChainFrom F q.2.head? q.1.2) (hspec : spec.Writable) :
    StmtWrote ⟨spec.id, spec.parent, spec.next⟩ [spec.opcode] brs s s' := by
  obtain ⟨-, -, -, -, hlen, -⟩ := writeNode_runs h
  have hlen' : brs.map (·.2.length) = r.2.map List.length := by
    rw [hlen, hbrs, List.map_map]
    rfl
  -- a branch of the spec is a branch of `brs` with its length
  have hfrom : ∀ q ∈ spec.branches.zip r.2, ∃ q' ∈ brs.zip r.2, q = ((q'.1.1, q'.1.2.length), q'.2) := by
    intro q hq
    rw [hbrs, List.zip_map_left, List.mem_map] at hq
    obtain ⟨q', hq', rfl⟩ := hq
    exact ⟨q', hq', rfl⟩
  obtain ⟨b, hB, hle', hb, hover⟩ := writeNode_over h htop hspec hblocks hle hF hslots (by
    intro q hq i hi
    obtain ⟨q', hq', rfl⟩ := hfrom q hq
    exact (hchains q' hq').1 i hi)
  refine ⟨b, F, hB, hle', hb.id, hb.parent, hb.next, by simp [hb.opcode], hover, ?_⟩
  intro br hbr
  obtain ⟨ids, hids, hidslen⟩ := exists_mem_zip hlen' hbr
  have hmem : ((br.1, br.2.length), ids) ∈ spec.branches.zip r.2 := by
    rw [hbrs, List.zip_map_left, List.mem_map]
    exact ⟨(br, ids), hids, rfl⟩
  have hnames' : (spec.slots.map Slot.name ++ spec.branches.map Prod.fst).Nodup := by
    rw [hbrs, List.map_map]
    exact hnames
  have hlen'' : r.2.length = spec.branches.length := by
    simpa [hbrs] using (congrArg List.length hlen').symm
  have hinput := hb.input?_eq hnames' hlen'' hmem
  have hbranch := hb.branch_eq hnames' hlen'' hmem
  dsimp only at hinput hbranch
  refine ⟨fun hnil => ?_, hbranch ▸ (hchains _ hids).2⟩
  -- an empty branch took no ids, so its input was never written
  have hids_nil : ids = [] := by
    rw [← List.length_eq_zero_iff, ← hidslen, hnil, List.length_nil]
  rw [hinput, hids_nil]
  rfl

theorem Stmt.writable_parts {st : Stmt} (h : ∀ p ∈ st.primitives, p.Writable) :
    st.command.Writable ∧ PrimsWritable st.value ∧ PrimsWritable st.index ∧
      PrimsWritable st.times ∧ PrimsWritable st.cond ∧
      (∀ p ∈ Expr.primitivesOf st.args, p.Writable) ∧ (∀ p ∈ Stmt.primitivesOf st.body, p.Writable) ∧
      ∀ p ∈ Stmt.primitivesOf st.orElse, p.Writable := by
  obtain ⟨kind, span, name, type, isLocal, value, index, times, cond, op, body, orElse, command,
    proc, args⟩ := st
  simp only [Stmt.primitives, List.mem_cons, List.mem_append, Expr.mem_primitivesOf,
    Option.mem_toList, or_imp, forall_and, forall_eq, forall_exists_index, and_imp] at h
  obtain ⟨⟨⟨hc, ⟨⟨⟨⟨hv, hi⟩, ht⟩, hco⟩, ha⟩⟩, hb⟩, ho⟩ := h
  refine ⟨hc, fun e he p hp => hv p e he hp, fun e he p hp => hi p e he hp,
    fun e he p hp => ht p e he hp, fun e he p hp => hco p e he hp, fun p hp => ?_, hb, ho⟩
  obtain ⟨e, he, hp⟩ := Expr.mem_primitivesOf.1 hp
  exact ha p e he hp

/-- What emitting `st` at `link` writes, when its primitives can be written: its block, with an
opcode of its kind, in which each of its branches is a chain. -/
def StmtSpec (link : Link) (st : Stmt) : Prop :=
  (∀ p ∈ st.primitives, p.Writable) → ∀ ⦃sc : EmitScope⦄ ⦃s s' : EmitState⦄,
    (emitStmt link st).Runs sc s () s' → StmtWrote link st.opcodes st.branches s s'

/-- What emitting statements as a chain under `parent`, one id taken before for each, writes:
a fragment owning those ids whose first block is under `parent`, and in which the statements
are a chain from the first id. -/
def ChainSpec (sts : List Stmt) (ids : List Nat) (parent : Nat) : Prop :=
  (∀ p ∈ Stmt.primitivesOf sts, p.Writable) → ∀ ⦃sc : EmitScope⦄ ⦃s s' : EmitState⦄,
    (emitChain sts ids parent).Runs sc s () s' → ids.length = sts.length → ids.Nodup →
      (∀ i ∈ ids, 0 < i ∧ i ≤ s.last) →
        ∃ B, s'.blocks = s.blocks ++ B ∧ s.last ≤ s'.last ∧ Fragment ids parent s.last s'.last B ∧
          (∀ i ∈ ids.head?, Adopts B parent i) ∧ ChainFrom B ids.head? sts

theorem slotBodyNode_wrote {spec : NodeSpec} {sl : Slot} {n : String} {body : List Stmt}
    (hs : spec.slots = [sl]) (hbr : spec.branches = [(n, body.length)]) (hn : sl.name ≠ n)
    (htop : spec.topLevel = false) (hv : PrimsWritable sl.value)
    (hbody : ∀ bodies : List (List Nat), ChainSpec body (bodies.headD []) spec.id)
    (hprims : ∀ p ∈ Stmt.primitivesOf body, p.Writable) {r : List Nat × List (List Nat)}
    {sc : EmitScope} {s s₁ s₂ s' : EmitState} (h₁ : (writeNode spec).Runs sc s r s₁)
    (h₂ : (emitSlotValue "" (r.1.headD 0) spec.id sl.value).Runs sc s₁ () s₂)
    (h₃ : (emitBody body (r.2.headD []) spec.id).Runs sc s₂ () s') (hspec : spec.Writable) :
    StmtWrote ⟨spec.id, spec.parent, spec.next⟩ [spec.opcode] [(n, body)] s s' := by
  obtain ⟨hnodup, hrange⟩ := writeNode_ids h₁
  obtain ⟨-, -, -, hl1, hl2, -⟩ := writeNode_runs h₁
  rw [hs, List.length_singleton] at hl1
  rw [hbr, List.map_singleton] at hl2
  obtain ⟨i, hr₁⟩ := List.length_eq_one_iff.1 hl1
  obtain ⟨ids, hr₂, hlen⟩ := List.map_eq_singleton_iff.1 hl2
  rw [hr₁, hr₂, List.flatten_singleton, List.singleton_append] at hnodup hrange
  rw [hr₁, List.headD_cons] at h₂
  rw [hr₂, List.headD_cons, emitBody] at h₃
  obtain ⟨T, hT₁, hT₂, hT, hTa⟩ := emitSlotValue_spec hv h₂ (hrange i List.mem_cons_self).2
  obtain ⟨C, hC₁, hC₂, hC, hCa, hCc⟩ := hbody [ids] hprims h₃ hlen (List.nodup_cons.1 hnodup).2
    (fun j hj => by have := hrange j (List.mem_cons_of_mem i hj); omega)
  refine branchNode_wrote (by rw [hbr]; rfl) (by simp [hs, hn]) htop h₁
    (by rw [hC₁, hT₁, List.append_assoc]) (by omega) ?_ ?_ ?_ hspec
  · rw [hr₁, hr₂, List.flatten_singleton, List.singleton_append, ← List.singleton_append]
    exact Fragment.append hT hC (fun j hj => (hrange j (by simpa using hj)).2) hT₂ hC₂
      (by simpa using (List.nodup_cons.1 hnodup).1)
  · rw [hs, hr₁]
    intro p hp hneed
    obtain rfl : p = (sl, i) := by simpa using hp
    exact (hTa hneed).append_left C
  · rw [hr₂]
    intro q hq
    obtain rfl : q = ((n, body), ids) := by simpa using hq
    exact ⟨fun j hj => (hCa j hj).append_right T, hCc.mono (List.subset_append_right T C)⟩

theorem listChangeOp_spec {o : BinOp} {opId parent : Nat} {index value : Option Expr}
    {list : String} (hindex : PrimsWritable index) (hvalue : PrimsWritable value) {sc : EmitScope}
    {s s' : EmitState}
    (h : (do
      let itemId ← fresh
      let valueId ← fresh
      let valueInput ← slotInput { name := o.rhsInput, value := value, boolean := o.isBoolean }
        valueId
      push (.block
        { id := opId, opcode := o.opcode, parent := parent,
          inputs := [childInput o.lhsInput itemId o.isBoolean, valueInput] })
      writeWithSlots
        { opcode := Opcode.itemOfList, id := itemId, parent := opId,
          slots := [{ name := "INDEX", value := index }], fields := fieldRef "LIST" list }
      emitSlotValue "" valueId opId value : EmitM Unit).Runs sc s () s')
    (hop : opId ≤ s.last) :
    ∃ B, s'.blocks = s.blocks ++ B ∧ s.last ≤ s'.last ∧
      Fragment [opId] parent s.last s'.last B ∧ Adopts B parent opId := by
  obtain ⟨itemId, s₁, h₁, hr₁⟩ := runs_bind.1 h
  obtain ⟨hitem, hl₁, hb₁⟩ := runs_fresh_state h₁
  obtain ⟨valueId, s₂, h₂, hr₂⟩ := runs_bind.1 hr₁
  obtain ⟨hvid, hl₂, hb₂⟩ := runs_fresh_state h₂
  obtain ⟨valueInput, s₃, hvi, hl₃, hb₃, hr₃⟩ := (slotInput_quietly _ _).bind_runs hr₂
  obtain ⟨⟨⟩, s₄, h₄, hr₄⟩ := runs_bind.1 hr₃
  obtain ⟨hl₄, hb₄⟩ := runs_push_block h₄
  obtain ⟨⟨⟩, s₅, h₅, h₆⟩ := runs_bind.1 hr₄
  obtain ⟨ib, R, hR₁, hR₂, hibid, hibpar, hibnext, -, hibover, -⟩ :=
    writeWithSlots_wrote rfl rfl (by simpa using hindex) h₅ ⟨Or.inr (value_fieldRef _ _), Or.inl rfl⟩
  dsimp only at hibid hibpar hibnext
  obtain ⟨V, hV₁, hV₂, hV, hVa⟩ := emitSlotValue_spec hvalue h₆ (by omega)
  -- the item read and the value, under the operator block
  have hIV : Fragment [] opId s.last s'.last (ib :: R ++ V) := by
    have hI := hibover.toFragment hibnext (by omega)
    rw [hibid, hibpar] at hI
    refine (Fragment.append hI hV (by simp; omega) hR₂ hV₂ (by simp; omega)).widen
      (fun i hi => Or.inr ?_) (by omega)
    simp only [List.singleton_append, List.mem_cons, List.not_mem_nil, or_false] at hi
    omega
  have hrefs : ∀ i ∈ Block.refs
      { id := opId, opcode := o.opcode, parent := parent,
        inputs := [childInput o.lhsInput itemId o.isBoolean, valueInput] },
      Adopts (ib :: R ++ V) opId i := by
    simp only [Block.refs_eq, Block.inputRefs, Block.next?, if_true, Option.toList_none,
      List.nil_append, List.flatMap_cons, List.flatMap_nil, List.append_nil, childInput_refs,
      List.singleton_append, List.mem_cons]
    rintro i (rfl | hi)
    · exact ⟨ib, List.mem_cons_self, hibid, hibpar⟩
    · exact hvi.refs_adopted (fun hneed => (hVa hneed).append_right (ib :: R)) i hi
  have hob := Fragment.cons hIV hrefs rfl rfl
    ⟨by simpa using ⟨childInput_writable .., hvi.2.2⟩, value_emptyObject, Or.inl rfl,
      fun h => absurd h Bool.false_ne_true⟩
    List.not_mem_nil hop
  exact ⟨_, by rw [hV₁, hR₁, hb₄, hb₃, hb₂, hb₁]; simp, by omega, hob,
    _, List.mem_cons_self, rfl, rfl⟩

theorem emitListChange_wrote {link : Link} {span : Span} {name : Name} {op : Option BinOp}
    {index value : Option Expr} (hindex : PrimsWritable index) (hvalue : PrimsWritable value)
    {sc : EmitScope} {s s' : EmitState}
    (h : (emitListChange link span name op index value).Runs sc s () s') :
    StmtWrote link [Opcode.replaceItemOfList] [] s s' := by
  unfold emitListChange at h
  split at h
  · dsimp only at h
    rw [runs_guard] at h
    obtain ⟨-, h⟩ := h
    obtain ⟨list, s₁, -, hl₁, hb₁, hr₁⟩ := (changedList_quietly name).bind_runs h
    obtain ⟨indexId, s₂, h₂, hr₂⟩ := runs_bind.1 hr₁
    obtain ⟨hindexId, hl₂, hb₂⟩ := runs_fresh_state h₂
    obtain ⟨opId, s₃, h₃, hr₃⟩ := runs_bind.1 hr₂
    obtain ⟨hopId, hl₃, hb₃⟩ := runs_fresh_state h₃
    obtain ⟨indexInput, s₄, hii, hl₄, hb₄, hr₄⟩ := (slotInput_quietly _ _).bind_runs hr₃
    obtain ⟨⟨⟩, s₅, h₅, hr₅⟩ := runs_bind.1 hr₄
    obtain ⟨hl₅, hb₅⟩ := runs_push_block h₅
    obtain ⟨⟨⟩, s₆, h₆, hr₆⟩ := runs_bind.1 hr₅
    obtain ⟨T, hT₁, hT₂, hT, hTa⟩ := emitSlotValue_spec hindex h₆ (by omega)
    obtain ⟨O, hO₁, hO₂, hO, hOa⟩ := listChangeOp_spec hindex hvalue hr₆ (by omega)
    -- the index's blocks, then the operator's, under the statement's block
    have hTO : Fragment [] link.id s.last s'.last (T ++ O) := by
      refine (Fragment.append hT hO (by simp; omega) hT₂ hO₂ (by simp; omega)).widen
        (fun i hi => Or.inr ?_) (by omega)
      simp only [List.singleton_append, List.mem_cons, List.not_mem_nil, or_false] at hi
      omega
    refine ⟨?b, T ++ O, ?blocks, by omega, ?_, ?_, ?_, ?_, ?_, by simp⟩
    case blocks =>
      rw [hO₁, hT₁, hb₅, hb₄, hb₃, hb₂, hb₁, List.append_assoc, List.append_assoc,
        List.singleton_append]
    · rfl
    · rfl
    · rfl
    · exact List.mem_singleton_self _
    · refine ⟨hTO, ?_, ⟨by simpa using ⟨hii.2.2, childInput_writable ..⟩, value_fieldRef _ _,
        Or.inl rfl, fun h => absurd h Bool.false_ne_true⟩, rfl⟩
      -- the index's block, if it has one, and the operator's
      simp only [Block.inputRefs, List.flatMap_cons, List.flatMap_nil, List.append_nil,
        childInput_refs, List.mem_append, List.mem_singleton]
      rintro i (hi | rfl)
      · exact hii.refs_adopted (fun hneed => (hTa hneed).append_left O) i hi
      · exact hOa.append_right T
  · exact absurd h not_runs_throw

theorem emitStmt_chain_spec : (∀ link st, StmtSpec link st) ∧
    (∀ sts ids parent, ChainSpec sts ids parent) ∧ ∀ sts ids parent, ChainSpec sts ids parent := by
  refine And.imp id (fun h => ⟨h, h⟩) <| emitStmt.mutual_induct StmtSpec ChainSpec ?repeatTimes ?forever ?branch
    ?repeatUntil ?setVar ?setField ?changeVar ?showData ?hideData ?listAdd ?listDelete
    ?listDeleteAll ?listInsert ?listSet ?listChange ?block ?procCall ?chainCons ?chainEnd
  case chainCons =>
    intro st sts id ids parent ihst ihsts hprims sc s s' h hlen hnodup hids
    rw [emitChain] at h
    obtain ⟨u, s₁, h₁, h₂⟩ := runs_bind.1 h
    simp only [Stmt.primitivesOf, List.mem_append] at hprims
    obtain ⟨hid0, hidle⟩ := hids id List.mem_cons_self
    obtain ⟨b, R, hblocks₁, hle₁, hbid, hbpar, hbnext, hop, hover, hbr⟩ :=
      ihst (fun p hp => hprims p (Or.inl hp)) h₁
    dsimp only at hbid hbpar hbnext
    subst hbid hbpar
    have hrest : ∀ i ∈ ids, 0 < i ∧ i ≤ s.last := fun i hi => hids i (List.mem_cons_of_mem _ hi)
    obtain ⟨C, hblocks₂, hle₂, hC, hhead, hchain⟩ := ihsts (fun p hp => hprims p (Or.inr hp)) h₂
      (by simpa using hlen) (List.nodup_cons.1 hnodup).2
      (fun i hi => ⟨(hrest i hi).1, Nat.le_trans (hrest i hi).2 hle₁⟩)
    -- the statement's next is the first of the rest, which the rest's chain adopts
    have hnext : b.next? = ids.head? := Block.next?_eq_head? hbnext fun i hi => (hrest i hi).1
    have hRC : Fragment ([] ++ ids) b.id s.last s'.last (R ++ C) :=
      Fragment.append hover.fragment hC (fun i hi => (hrest i (by simpa using hi)).2) hle₁ hle₂
        (by simp)
    have hrefs : ∀ i ∈ b.refs, Adopts (R ++ C) b.id i := by
      intro i hi
      rw [Block.refs_eq, List.mem_append, hnext] at hi
      rcases hi with hi | hi
      · exact (hhead i (by simpa using hi)).append_right R
      · exact (hover.inputs i hi).append_left C
    have hfrag := Fragment.cons hRC hrefs rfl hover.inner hover.shaped
      (by simpa using (List.nodup_cons.1 hnodup).1) hidle
    have hsub : R ++ C ⊆ b :: (R ++ C) := List.subset_cons_self b _
    refine ⟨b :: (R ++ C), by rw [hblocks₂, hblocks₁]; simp, by omega, hfrag,
      fun i hi => ?_, ?_⟩
    · obtain rfl : b.id = i := by simpa using hi
      exact ⟨b, List.mem_cons_self, rfl, rfl⟩
    · refine .cons List.mem_cons_self hop (fun br hbr' => (hbr br hbr').1) (fun br hbr' => ?_) ?_
      · exact ((hbr br hbr').2.mono (List.subset_append_left R C)).mono hsub
      · rw [hnext]
        exact (hchain.mono (List.subset_append_right R C)).mono hsub
  case chainEnd =>
    intro sts ids parent hend hprims sc s s' h hlen hnodup hids
    have hnil : sts = [] ∧ ids = [] := by
      rcases sts with _ | ⟨st, sts⟩ <;> rcases ids with _ | ⟨id, ids⟩
      · exact ⟨rfl, rfl⟩
      · simp at hlen
      · simp at hlen
      · exact (hend st sts id ids rfl rfl).elim
    obtain ⟨rfl, rfl⟩ := hnil
    simp only [emitChain, runs_pure] at h
    obtain ⟨-, rfl⟩ := h
    exact ⟨[], by simp, Nat.le_refl _, Fragment.nil, by simp, .nil⟩
  case setVar | setField | changeVar =>
    intro link span name type isLocal value index times cond op body orElse command proc args
      hprims sc s s' h
    obtain ⟨-, hvalue, -⟩ := Stmt.writable_parts hprims
    simp only [emitStmt] at h
    obtain ⟨q, s₁, -, hl, hb, h⟩ := (assignedVariable_quietly name).bind_runs h
    refine ((writeWithSlots_wrote rfl rfl (by simpa using hvalue) h
      ⟨Or.inr (value_fieldRef _ _), Or.inl rfl⟩).of_quiet hl hb).mono_ops ?_
    simp only [Stmt.opcodes]
    decide
  case listAdd | listDelete | listDeleteAll | listInsert | listSet =>
    intro link span name type isLocal value index times cond op body orElse command proc args
      hprims sc s s' h
    obtain ⟨-, hvalue, hindex, -⟩ := Stmt.writable_parts hprims
    simp only [emitStmt] at h
    obtain ⟨q, s₁, -, hl, hb, h⟩ := (changedList_quietly name).bind_runs h
    refine ((writeWithSlots_wrote rfl rfl ?_ h
      ⟨Or.inr (value_fieldRef _ _), Or.inl rfl⟩).of_quiet hl hb).mono_ops ?_
    · simp_all
    · simp [Stmt.opcodes]
  case showData | hideData =>
    intro link span name type isLocal value index times cond op body orElse command proc args
      hprims sc s s' h
    simp only [emitStmt] at h
    obtain ⟨sc', s₁, h₁, h₂⟩ := runs_bind.1 h
    obtain ⟨rfl, rfl⟩ := runs_read.1 h₁
    clear h
    simp only [pure_bind] at h₂
    -- a list's opcode, or a variable's after reporting a name that is neither
    split at h₂
    · exact (writeLeaf_wrote rfl rfl rfl h₂ ⟨Or.inr (value_fieldRef _ _), Or.inl rfl⟩).mono_ops (by simp only [Stmt.opcodes]; decide)
    · split at h₂
      · obtain ⟨u, s₂, -, hl, hb, h₃⟩ := Quietly.report.bind_runs h₂
        exact ((writeLeaf_wrote rfl rfl rfl h₃ ⟨Or.inr (value_fieldRef _ _), Or.inl rfl⟩).of_quiet hl hb).mono_ops
          (by simp only [Stmt.opcodes]; decide)
      · exact (writeLeaf_wrote rfl rfl rfl h₂ ⟨Or.inr (value_fieldRef _ _), Or.inl rfl⟩).mono_ops (by simp only [Stmt.opcodes]; decide)
  case procCall =>
    intro link span name type isLocal value index times cond op body orElse command proc args
      hprims sc s s' h
    obtain ⟨-, -, -, -, -, hargs, -⟩ := Stmt.writable_parts hprims
    simp only [emitStmt] at h
    obtain ⟨sc', s₁, h₁, h₂⟩ := runs_bind.1 h
    obtain ⟨rfl, rfl⟩ := runs_read.1 h₁
    clear h
    split at h₂
    · obtain ⟨u, s₂, -, hl, hb, h₃⟩ := Quietly.report.bind_runs h₂
      exact ((writeLeaf_wrote rfl rfl rfl h₃ ⟨Or.inl rfl, Or.inr (value_callMutation _ _ _)⟩).of_quiet
        hl hb).mono_ops (by simp [Stmt.opcodes])
    · -- each slot of the call takes the argument of its parameter, if there is one
      rename_i p _
      have hslots : ∀ sl ∈ (params sc' p).map (fun q =>
          ({ name := q.id, value := args[q.arg]?, field := q.field } : Slot)),
          PrimsWritable sl.value := by
        simp only [List.mem_map]
        rintro sl ⟨q, -, rfl⟩ e he p hp
        exact hargs p (Expr.mem_primitivesOf.2 ⟨e, List.mem_of_getElem? he, hp⟩)
      split at h₂
      · obtain ⟨u, s₂, -, hl, hb, h₃⟩ := Quietly.report.bind_runs h₂
        exact ((writeWithSlots_wrote rfl rfl hslots h₃
          ⟨Or.inl rfl, Or.inr (value_callMutation _ _ _)⟩).of_quiet hl hb).mono_ops
          (by simp [Stmt.opcodes])
      · exact (writeWithSlots_wrote rfl rfl hslots h₂
          ⟨Or.inl rfl, Or.inr (value_callMutation _ _ _)⟩).mono_ops (by simp [Stmt.opcodes])
  case block =>
    intro link span name type isLocal value index times cond op body orElse command proc args
      hprims sc s s' h
    obtain ⟨hcommand, -, -, -, -, hargs, -⟩ := Stmt.writable_parts hprims
    simp only [emitStmt] at h
    obtain ⟨r, s₁, h₁, h₂⟩ := runs_bind.1 h
    obtain ⟨b, R, hB, hle, hbid, hpar, hnext, hop, hover⟩ :=
      primitive_over hcommand h₁ (emitPrimitiveArgs_spec _ _ _ _ _ _) hargs h₂
    exact ⟨b, R, hB, hle, hbid, hpar, hnext, by simp [Stmt.opcodes, hop], hover, by
      simp [Stmt.branches]⟩
  case repeatTimes | repeatUntil =>
    intro link span name type isLocal value index times cond op body orElse command proc args
      ih hprims sc s s' h
    obtain ⟨-, -, -, htimes, hcond, -, hbody, -⟩ := Stmt.writable_parts hprims
    simp only [emitStmt] at h
    obtain ⟨r, s₁, h₁, h⟩ := runs_bind.1 h
    obtain ⟨u, s₂, h₂, h₃⟩ := runs_bind.1 h
    exact slotBodyNode_wrote rfl rfl (by simp) rfl (by assumption) ih hbody h₁ h₂ h₃
      ⟨Or.inl rfl, Or.inl rfl⟩
  case forever =>
    intro link span name type isLocal value index times cond op body orElse command proc args
      ih hprims sc s s' h
    obtain ⟨-, -, -, -, -, -, hbody, -⟩ := Stmt.writable_parts hprims
    simp only [emitStmt] at h
    obtain ⟨r, s₁, h₁, h₂⟩ := runs_bind.1 h
    obtain ⟨hnodup, hrange⟩ := writeNode_ids h₁
    obtain ⟨-, -, -, hl1, hl2, -⟩ := writeNode_runs h₁
    obtain ⟨ids, hr₂, hlen⟩ := List.map_eq_singleton_iff.1 hl2
    simp only [List.length_nil, List.length_eq_zero_iff] at hl1
    rw [hl1, hr₂, List.flatten_singleton, List.nil_append] at hnodup hrange
    rw [hr₂, List.headD_cons] at h₂
    obtain ⟨C, hC₁, hC₂, hC, hCa, hCc⟩ := ih [ids] hbody h₂ hlen hnodup
      (fun j hj => by have := hrange j hj; omega)
    rw [List.headD_cons] at hC hCa hCc
    refine branchNode_wrote rfl (by simp [Stmt.branches]) rfl h₁ hC₁ hC₂ ?_ (by simp [hl1]) ?_
      ⟨Or.inl rfl, Or.inl rfl⟩
    · rw [hl1, hr₂, List.flatten_singleton, List.nil_append]
      exact hC
    · rw [hr₂]
      intro q hq
      obtain rfl : q = (("SUBSTACK", body), ids) := by simpa [Stmt.branches] using hq
      exact ⟨hCa, hCc⟩
  case branch =>
    intro link span name type isLocal value index times cond op body orElse command proc args
      ih ihElse hprims sc s s' h
    obtain ⟨-, -, -, -, hcond, -, hbody, helse⟩ := Stmt.writable_parts hprims
    cases orElse with
    | nil =>
      -- without an else branch, a loop-like node
      simp only [emitStmt, List.isEmpty_nil, if_true, Bool.not_true, Bool.false_eq_true, if_false,
        bind_pure_unit] at h
      obtain ⟨r, s₁, h₁, h⟩ := runs_bind.1 h
      obtain ⟨u, s₂, h₂, h₃⟩ := runs_bind.1 h
      exact slotBodyNode_wrote rfl rfl (by simp) rfl hcond ih hbody h₁ h₂ h₃ ⟨Or.inl rfl, Or.inl rfl⟩
    | cons e es =>
      simp only [emitStmt, List.isEmpty_cons, Bool.false_eq_true, if_false, Bool.not_false,
        if_true] at h
      obtain ⟨r, s₁, h₁, h⟩ := runs_bind.1 h
      obtain ⟨⟨⟩, s₂, h₂, h⟩ := runs_bind.1 h
      obtain ⟨⟨⟩, s₃, h₃, h₄⟩ := runs_bind.1 h
      obtain ⟨hnodup, hrange⟩ := writeNode_ids h₁
      obtain ⟨-, -, -, hl1, hl2, -⟩ := writeNode_runs h₁
      obtain ⟨i, hr₁⟩ := List.length_eq_one_iff.1 hl1
      simp only [List.map_cons, List.map_nil] at hl2
      obtain ⟨ids₁, rest, hr₂, hlen₁, hrest⟩ := List.map_eq_cons_iff.1 hl2
      obtain ⟨ids₂, rfl, hlen₂⟩ := List.map_eq_singleton_iff.1 hrest
      rw [hr₁, hr₂] at hnodup hrange
      simp only [List.flatten_cons, List.flatten_nil, List.append_nil, List.singleton_append,
        List.nodup_cons, List.nodup_append, List.mem_append, not_or] at hnodup
      rw [hr₁, List.headD_cons] at h₂
      rw [hr₂, List.headD_cons] at h₃
      rw [hr₂, List.drop_one, List.tail_cons, List.headD_cons] at h₄
      have hin : ∀ j ∈ [i] ++ (ids₁ ++ ids₂), s.last < j ∧ j ≤ s₁.last := by simpa using hrange
      obtain ⟨T, hT₁, hT₂, hT, hTa⟩ := emitSlotValue_spec hcond h₂ (hin i (by simp)).2
      obtain ⟨C₁, hC₁, hC₁le, hC₁f, hC₁a, hC₁c⟩ := ih [ids₁] hbody h₃ hlen₁ hnodup.2.1
        (fun j hj => by rw [List.headD_cons] at hj; have := hin j (by simp [hj]); omega)
      obtain ⟨C₂, hC₂, hC₂le, hC₂f, hC₂a, hC₂c⟩ := ihElse [ids₁, ids₂] helse h₄ hlen₂
        hnodup.2.2.1 (fun j hj => by
          rw [List.drop_one, List.tail_cons, List.headD_cons] at hj
          have := hin j (by simp [hj])
          omega)
      simp only [List.headD_cons, List.drop_one, List.tail_cons] at hC₁f hC₁a hC₁c hC₂f hC₂a hC₂c
      refine branchNode_wrote (by simp [Stmt.branches]) (by simp [Stmt.branches]) rfl h₁
        (show s'.blocks = s₁.blocks ++ (T ++ (C₁ ++ C₂)) by rw [hC₂, hC₁, hT₁]; simp) (by omega)
        ?_ ?_ ?_ ⟨Or.inl rfl, Or.inl rfl⟩
      · rw [hr₁, hr₂]
        simp only [List.flatten_cons, List.flatten_nil, List.append_nil]
        refine Fragment.append hT (Fragment.append hC₁f hC₂f ?_ hC₁le hC₂le
          fun a ha hb => hnodup.2.2.2 a ha a hb rfl) ?_ hT₂
          (by omega) ?_
        · intro j hj
          have := hin j (by simp_all)
          omega
        · intro j hj
          exact (hin j (by simpa using hj)).2
        · simpa using hnodup.1
      · rw [hr₁]
        intro p hp hneed
        obtain rfl : p = ({ name := "CONDITION", value := cond, boolean := true }, i) := by
          simpa using hp
        exact (hTa hneed).append_left _
      · rw [hr₂]
        intro q hq
        simp only [Stmt.branches, List.isEmpty_cons, Bool.false_eq_true, if_false, List.zip_cons_cons,
          List.zip_nil_right, List.mem_cons, List.not_mem_nil, or_false] at hq
        rcases hq with rfl | rfl
        · exact ⟨fun j hj => ((hC₁a j hj).append_left C₂).append_right T,
            (hC₁c.mono (List.subset_append_left C₁ C₂)).mono (List.subset_append_right T _)⟩
        · exact ⟨fun j hj => ((hC₂a j hj).append_right C₁).append_right T,
            (hC₂c.mono (List.subset_append_right C₁ C₂)).mono (List.subset_append_right T _)⟩
  case listChange =>
    intro link span name type isLocal value index times cond op body orElse command proc args
      hprims sc s s' h
    obtain ⟨-, hvalue, hindex, -⟩ := Stmt.writable_parts hprims
    simp only [emitStmt] at h
    exact (emitListChange_wrote hindex hvalue h).mono_ops (by simp [Stmt.opcodes])

theorem emitStmt_spec (link : Link) (st : Stmt) : StmtSpec link st :=
  emitStmt_chain_spec.1 link st

theorem emitChain_spec (sts : List Stmt) (ids : List Nat) (parent : Nat) :
    ChainSpec sts ids parent :=
  emitStmt_chain_spec.2.2 sts ids parent

end Graph

end BlockGraph
