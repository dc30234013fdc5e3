import BlockGraph.Proofs.Emission.Appends
import BlockGraph.Proofs.Resolve.Expansion
import BlockGraph.Proofs.Program.Sourced

namespace BlockGraph

/-- Graph id `q` is that of the name `base`: `base` or `base.field`, either one after the prefix
`proc:` of a procedure local. -/
def Names.IsIdOf (q base : String) : Prop := ∃ proc field, q = Names.qualify proc base field

/-- An inline value holds only what the references `R` hold: a number `[4,"n"]` or a text
`[10,"t"]` names nothing, a message `[11,"m","m"]` is one of `R`, and a read of a variable
`[12,"q","q"]` or of a list `[13,"q","q"]` has the id of a variable or list of `R`. -/
def References.HoldsInline (R : References) (text : String) : Prop :=
  (∃ t, text = "[4," ++ Json.quoteKept t ++ "]") ∨ (∃ t, text = "[10," ++ Json.quoteKept t ++ "]") ∨
    (∃ m ∈ R.messages, text = "[11," ++ Json.quoteKept m ++ "," ++ Json.quoteKept m ++ "]") ∨
    (∃ v ∈ R.vars, ∃ q, Names.IsIdOf q v ∧
      text = "[12," ++ Json.quoteKept q ++ "," ++ Json.quoteKept q ++ "]") ∨
    ∃ l ∈ R.lists, ∃ q, Names.IsIdOf q l ∧
      text = "[13," ++ Json.quoteKept q ++ "," ++ Json.quoteKept q ++ "]"

/-- The literal of an input, if it has one, holds only what `R` holds. -/
def References.HoldsInput (R : References) (i : Graph.Input) : Prop :=
  ∀ text, i.value = .literal text → R.HoldsInline text

theorem Sprite.proc?_name {t : Sprite} {n : String} {p : Proc} (h : t.proc? n = some p) : p.name = n := by
  simpa using List.find?_some h

/-- Whether a statement of this kind changes a list it names. -/
def StmtKind.changesList : StmtKind → Bool
  | .listAdd | .listDelete | .listDeleteAll | .listInsert | .listSet | .listChange => true
  | _ => false

mutual

/-- Every name and accessor of `e` that emission in `sc` can write as a read is recorded in `R`
as emission resolves it: a name of a variable among the variables, any other name among the
lists, and an accessor of a struct variable that no enum shadows among the variables. -/
def Expr.Recorded (sc : Graph.EmitScope) (R : References) : Expr → Prop
  | .name n => if (sc.var? n.base).isSome then n.base ∈ R.vars else n.base ∈ R.lists
  | .accessor symbol _ _ _ =>
    ∀ v, sc.enum? symbol = none → sc.var? symbol = some v → sc.structFields v ≠ [] → symbol ∈ R.vars
  | .repr _ args _ => Expr.AllRecorded sc R args
  | .unop _ operand _ => operand.Recorded sc R
  | .binop _ lhs rhs _ => lhs.Recorded sc R ∧ rhs.Recorded sc R
  | _ => True

def Expr.AllRecorded (sc : Graph.EmitScope) (R : References) : List Expr → Prop
  | [] => True
  | e :: es => e.Recorded sc R ∧ Expr.AllRecorded sc R es

end

theorem Expr.allRecorded_iff {sc : Graph.EmitScope} {R : References} {es : List Expr} :
    Expr.AllRecorded sc R es ↔ ∀ e ∈ es, e.Recorded sc R := by
  induction es with
  | nil => simp [Expr.AllRecorded]
  | cons e es ih => simp [Expr.AllRecorded, ih]

/-- What a statement names is recorded in `R`, as emission in `sc` resolves it: the expressions
of the slots its kind writes, the list a list statement changes, the procedure a call names,
and the message a block statement sends as a text. -/
structure Stmt.Recorded (sc : Graph.EmitScope) (R : References) (st : Stmt) : Prop where
  exprs : ∀ e ∈ st.walked, e.Recorded sc R
  list : st.kind.changesList = true → st.name.base ∈ R.lists
  call : st.kind = .procCall → st.proc ∈ R.procs
  message : st.kind = .block → st.command.sendsMessage = true →
    ∀ m span, st.args.head? = some (.str m span) → m ∈ R.messages

namespace Graph

open EmitM

/-- The opcodes of the blocks that name a list in their `LIST` field: reading an item, and the
statements that change a list. -/
def listOpcodes : List String :=
  [Opcode.itemOfList, Opcode.addToList, Opcode.deleteOfList, Opcode.deleteAllOfList,
    Opcode.insertAtList, Opcode.replaceItemOfList]

/-- An opcode of a block that names neither a list nor a procedure. -/
def PlainOpcode (opcode : String) : Prop := opcode ∉ listOpcodes ∧ opcode ≠ Opcode.procCall

instance : DecidablePred PlainOpcode :=
  fun o => inferInstanceAs (Decidable (o ∉ listOpcodes ∧ o ≠ Opcode.procCall))

/-- A block reads and changes only what `R` records: its inline values hold what `R` holds, a
block of a list names a list of `R`, and a call a procedure of `R`. -/
structure Block.Recorded (R : References) (b : Block) : Prop where
  inline : ∀ i ∈ b.inputs, R.HoldsInput i
  list : b.opcode ∈ listOpcodes → ∃ l ∈ R.lists, ∃ q, Names.IsIdOf q l ∧ b.fields = fieldRef "LIST" q
  call : b.opcode = Opcode.procCall → ∃ proc ∈ R.procs, ∃ ps warp, b.mutation = callMutation proc ps warp

/-- An emitted block reads only what `R` records; script starts and findings read nothing. -/
def Emitted.Recorded (R : References) : Emitted → Prop
  | .block b => b.Recorded R
  | _ => True

/-- A slot is recorded when its expression is, and a text in the slot of a message is a message
of `R`. -/
structure Slot.Recorded (sc : EmitScope) (R : References) (sl : Slot) : Prop where
  value : ∀ e ∈ sl.value, e.Recorded sc R
  message : sl.name = broadcastInput → ∀ m span, sl.value = some (.str m span) → m ∈ R.messages

/-- A node reads only what `R` records: its slots are recorded, a node of a list names a list of
`R` in its fields, and a call a procedure of `R` in its mutation. -/
structure NodeSpec.Recorded (sc : EmitScope) (R : References) (spec : NodeSpec) : Prop where
  slots : ∀ sl ∈ spec.slots, sl.Recorded sc R
  list : spec.opcode ∈ listOpcodes →
    ∃ l ∈ R.lists, ∃ q, Names.IsIdOf q l ∧ spec.fields = fieldRef "LIST" q
  call : spec.opcode = Opcode.procCall →
    ∃ proc ∈ R.procs, ∃ ps warp, spec.mutation = callMutation proc ps warp

/-! ## Emission in one scope -/

/-- In scope `sc`, every run of `m` appends to what was emitted items satisfying `P` only,
whether it ends normally or at an error, and ends normally, if it does, with a value
satisfying `Q`. -/
def EmitM.EmitsIn {α : Type} (sc : EmitScope) (P : Emitted → Prop) (Q : α → Prop) (m : EmitM α) :
    Prop :=
  ∀ s, (∃ new, (m sc s).2.out = new ++ s.out ∧ ∀ x ∈ new, P x) ∧ ∀ a s', m.Runs sc s a s' → Q a

namespace EmitM.EmitsIn

variable {α β γ : Type} {sc : EmitScope} {P : Emitted → Prop} {Q Q' : α → Prop} {R : β → Prop}

theorem of_emits {m : EmitM α} (h : m.Emits P) : m.EmitsIn sc P fun _ => True :=
  fun s => ⟨h sc s, fun _ _ _ => trivial⟩

theorem imp {m : EmitM α} (h : m.EmitsIn sc P Q) (hQ : ∀ a, Q a → Q' a) : m.EmitsIn sc P Q' :=
  fun s => ⟨(h s).1, fun a s' hr => hQ a ((h s).2 a s' hr)⟩

theorem pure {a : α} (h : Q a) : (Pure.pure a : EmitM α).EmitsIn sc P Q := by
  intro s
  refine ⟨⟨[], rfl, by simp⟩, fun b s' hr => ?_⟩
  obtain ⟨rfl, -⟩ := runs_pure.1 hr
  exact h

theorem bind {m : EmitM α} {f : α → EmitM β} (hm : m.EmitsIn sc P Q)
    (hf : ∀ a, Q a → (f a).EmitsIn sc P R) : (m >>= f).EmitsIn sc P R := by
  intro s
  obtain ⟨⟨new₁, e₁, h₁⟩, hv₁⟩ := hm s
  refine ⟨?_, fun b s' hr => ?_⟩
  · rw [bind_apply]
    rcases hrun : m sc s with ⟨e | a, s₁⟩
    · rw [hrun] at e₁
      exact ⟨new₁, e₁, h₁⟩
    · rw [hrun] at e₁
      obtain ⟨⟨new₂, e₂, h₂⟩, -⟩ := hf a (hv₁ a s₁ hrun) s₁
      refine ⟨new₂ ++ new₁, by rw [e₂, e₁, List.append_assoc], fun x hx => ?_⟩
      rcases List.mem_append.1 hx with hx | hx
      · exact h₂ x hx
      · exact h₁ x hx
  · obtain ⟨a, s₁, h₁r, h₂r⟩ := runs_bind.1 hr
    exact (hf a (hv₁ a s₁ h₁r) s₁).2 b s' h₂r

theorem read : (read : EmitM EmitScope).EmitsIn sc P (· = sc) := by
  intro s
  refine ⟨⟨[], rfl, by simp⟩, fun r s' hr => ?_⟩
  obtain ⟨rfl, -⟩ := runs_read.1 hr
  rfl

theorem withReader {f : EmitScope → EmitScope} {m : EmitM α} (h : m.EmitsIn (f sc) P Q) :
    (withReader f m).EmitsIn sc P Q :=
  fun s => ⟨(h s).1, fun a s' hr => (h s).2 a s' (runs_withReader.1 hr)⟩

theorem push {x : Emitted} (hx : P x) : (EmitM.push x).EmitsIn sc P fun _ => True :=
  of_emits (Emits.push hx)

theorem mapM {f : γ → EmitM α} {xs : List γ} (hf : ∀ x ∈ xs, (f x).EmitsIn sc P Q) :
    (xs.mapM f).EmitsIn sc P fun ys => ∀ y ∈ ys, Q y := by
  induction xs with
  | nil =>
    rw [List.mapM_nil]
    exact pure (by simp)
  | cons x xs ih =>
    rw [List.mapM_cons]
    refine (hf x List.mem_cons_self).bind fun y hy => (ih fun x' hx' =>
      hf x' (List.mem_cons_of_mem _ hx')).bind fun ys hys => pure ?_
    intro z hz
    rcases List.mem_cons.1 hz with rfl | hz
    · exact hy
    · exact hys z hz

theorem foldlM {f : β → γ → EmitM β} {xs : List γ} (I : β → Prop)
    (hf : ∀ b, I b → ∀ x ∈ xs, (f b x).EmitsIn sc P I) : ∀ b, I b → (xs.foldlM f b).EmitsIn sc P I := by
  induction xs with
  | nil =>
    intro b hb
    rw [List.foldlM_nil]
    exact pure hb
  | cons x xs ih =>
    intro b hb
    rw [List.foldlM_cons]
    exact (hf b hb x List.mem_cons_self).bind fun b' hb' =>
      ih (fun c hc y hy => hf c hc y (List.mem_cons_of_mem _ hy)) b' hb'

theorem forIn {f : γ → β → EmitM (ForInStep β)} {xs : List γ}
    (hf : ∀ x ∈ xs, ∀ b, (f x b).EmitsIn sc P fun _ => True) :
    ∀ b : β, (forIn xs b f).EmitsIn sc P fun _ => True := by
  induction xs with
  | nil =>
    intro b
    rw [List.forIn_nil]
    exact pure trivial
  | cons x xs ih =>
    intro b
    rw [List.forIn_cons]
    refine (hf x List.mem_cons_self b).bind fun step _ => ?_
    cases step with
    | done b' => exact pure trivial
    | yield b' => exact ih (fun y hy => hf y (List.mem_cons_of_mem _ hy)) b'

theorem error {e : EmitError} : (throw e : EmitM α).EmitsIn sc P Q :=
  fun s => ⟨(of_emits (P := P) Emits.error s).1, fun _ _ hr => absurd hr not_runs_throw⟩

theorem guard {c : Prop} [Decidable c] {e : EmitError} {m : EmitM α} (hm : m.EmitsIn sc P Q) :
    (if c then (throw e : EmitM PUnit) >>= (fun _ => m) else m).EmitsIn sc P Q := by
  split
  · exact (of_emits Emits.error).bind fun _ _ => hm
  · exact hm

end EmitM.EmitsIn

/-! ## Names as emission writes them -/

theorem NameKind.beq_variable_iff (k : NameKind) : (k == .variable) = true ↔ k = .variable := by
  cases k <;> constructor <;> intro h <;> first | rfl | cases h

namespace EmitScope

theorem var?_isSome (sc : EmitScope) (n : String) :
    (sc.var? n).isSome = ((sc.proc.map fun p => p.locals.any (·.name == n)).getD false ||
      (sc.sprite.var? n).isSome || (sc.stage.bind (·.var? n)).isSome) := by
  unfold var?
  cases sc.proc with
  | none => cases sc.sprite.var? n <;> simp
  | some p =>
    simp only [Option.bind_some, Option.map_some, Option.getD_some, ← List.isSome_find?]
    cases p.locals.find? (·.name == n) <;> cases sc.sprite.var? n <;> simp

theorem qualify_variable (sc : EmitScope) (n : Name) :
    (sc.qualify n).2 = .variable ↔ (sc.var? n.base).isSome = true := by
  rw [var?_isSome]
  unfold qualify qualifyOuter
  cases sc.proc <;> dsimp only <;> (repeat' split) <;> simp_all
  tauto

theorem qualify_list {sc : EmitScope} {n : Name} (h : (sc.qualify n).2 = .list) :
    sc.var? n.base = none ∧ (sc.qualify n).1 = n.base := by
  have hvar : (sc.var? n.base).isSome = false := by
    rw [← Bool.not_eq_true, ← qualify_variable, h]
    exact fun h' => by cases h'
  refine ⟨by cases hv : sc.var? n.base <;> simp_all, ?_⟩
  revert h
  unfold qualify qualifyOuter
  cases sc.proc <;> dsimp only <;> (repeat' split) <;> simp_all

theorem qualify_isIdOf (sc : EmitScope) (n : Name) : Names.IsIdOf (sc.qualify n).1 n.base := by
  have houter : Names.IsIdOf (sc.qualifyOuter n).1 n.base := by
    unfold qualifyOuter
    split
    · exact ⟨"", n.field, rfl⟩
    · split
      · exact ⟨"", "", by simp [Names.qualify]⟩
      · exact ⟨"", n.field, by simp [Name.render, Names.qualify, Names.structVar]⟩
  unfold qualify
  cases sc.proc with
  | none => exact houter
  | some p =>
    dsimp only
    split
    · exact ⟨p.name, n.field, rfl⟩
    · exact houter

end EmitScope

/-! ## The catalogue

Primitives, their menus and hats have opcodes of their own, and the only slot that takes a
message is the one slot of the two broadcasts, which send it. -/

theorem reporters_plain :
    ∀ p ∈ reporters, PlainOpcode p.opcode ∧ (∀ m ∈ p.menu, PlainOpcode m.opcode) ∧
      broadcastInput ∉ p.args := by
  decide

theorem commands_plain :
    ∀ p ∈ commands, PlainOpcode p.opcode ∧ (∀ m ∈ p.menu, PlainOpcode m.opcode) ∧
      (broadcastInput ∈ p.args → p.args = [broadcastInput] ∧ p.sendsMessage = true) := by
  decide

theorem hats_plain : ∀ h ∈ hats, PlainOpcode h.opcode := by decide

theorem argReporter_plain : PlainOpcode Opcode.argReporter := by decide

theorem UnOp.plain (op : UnOp) : PlainOpcode op.opcode ∧ op.input ≠ broadcastInput := by
  cases op <;> decide

theorem BinOp.plain (op : BinOp) :
    PlainOpcode op.opcode ∧ op.lhsInput ≠ broadcastInput ∧ op.rhsInput ≠ broadcastInput := by
  cases op <;> decide

/-! ## Inline values -/

section Inline

variable {sc : EmitScope} {R : References}

theorem holdsInline_emptyShadow (R : References) : R.HoldsInline emptyShadow :=
  Or.inr (Or.inl ⟨"", by decide⟩)

theorem report_emits (d : Diagnostic) : (EmitM.report d).Emits (Emitted.Recorded R) :=
  Emits.push trivial

theorem report_recorded (d : Diagnostic) :
    (EmitM.report d).EmitsIn sc (Emitted.Recorded R) fun _ => True :=
  EmitsIn.of_emits (report_emits d)

theorem inlineRead_recorded (n : Name) (hn : (Expr.name n).Recorded sc R) :
    (if ((sc.qualify n).2 == NameKind.variable) = true then
      (pure ("[12," ++ Json.quoteKept (sc.qualify n).1 ++ "," ++ Json.quoteKept (sc.qualify n).1 ++ "]",
        false, true) : EmitM (String × Bool × Bool))
    else pure ("[13," ++ Json.quoteKept (sc.qualify n).1 ++ "," ++ Json.quoteKept (sc.qualify n).1 ++ "]",
        false, true)).EmitsIn sc (Emitted.Recorded R) fun r => R.HoldsInline r.1 := by
  have hid := sc.qualify_isIdOf n
  simp only [Expr.Recorded] at hn
  split
  · rename_i hkind
    have hsome : (sc.var? n.base).isSome = true :=
      (sc.qualify_variable n).1 ((NameKind.beq_variable_iff _).1 hkind)
    rw [if_pos hsome] at hn
    exact EmitsIn.pure (Or.inr (Or.inr (Or.inr (Or.inl ⟨n.base, hn, _, hid, rfl⟩))))
  · rename_i hkind
    have hnone : ¬(sc.var? n.base).isSome = true := fun h =>
      hkind ((NameKind.beq_variable_iff _).2 ((sc.qualify_variable n).2 h))
    rw [if_neg hnone] at hn
    exact EmitsIn.pure (Or.inr (Or.inr (Or.inr (Or.inr ⟨n.base, hn, _, hid, rfl⟩))))

theorem inlineName_recorded {n : Name} (field : String) (hn : (Expr.name n).Recorded sc R) :
    (inlineName n field).EmitsIn sc (Emitted.Recorded R) fun r => R.HoldsInline r.1 := by
  have hwritten := @inlineRead_recorded sc R
    (if (n.field == "" && field != "") = true then { n with field } else n) (by split <;> exact hn)
  unfold inlineName
  refine EmitsIn.read.bind fun s hs => ?_
  subst hs
  dsimp only
  repeat' first
    | (simp only [pure_bind, Bool.false_eq_true, if_false]; exact hwritten)
    | exact (report_recorded _).bind fun _ _ => by
        simp only [pure_bind, if_true]
        exact EmitsIn.pure (holdsInline_emptyShadow R)
    | split

theorem refused_recorded (d : Diagnostic) :
    (EmitM.report d >>= fun _ => (Pure.pure (emptyShadow, true, true) : EmitM (String × Bool × Bool))).EmitsIn
      sc (Emitted.Recorded R) fun r => R.HoldsInline r.1 :=
  (report_recorded d).bind fun _ _ => EmitsIn.pure (holdsInline_emptyShadow R)

theorem inlineAccessor_recorded {symbol property : String} {s1 s2 : Span}
    (h : (Expr.accessor symbol s1 property s2).Recorded sc R) :
    (inlineAccessor symbol s1 property s2).EmitsIn sc (Emitted.Recorded R) fun r => R.HoldsInline r.1 := by
  unfold inlineAccessor
  refine EmitsIn.read.bind fun s hs => ?_
  subst hs
  split
  · split
    · exact EmitsIn.pure (Or.inr (Or.inl ⟨_, rfl⟩))
    · exact refused_recorded _
  · rename_i henum
    -- a field is read only of a variable whose struct has fields, which the accessor records
    cases hv : s.var? symbol with
    | none =>
      rw [if_neg (by simp)]
      exact refused_recorded _
    | some v =>
      dsimp only
      split
      · rename_i hfields
        split
        · have hmem : symbol ∈ R.vars := h v henum hv (by simpa using hfields)
          exact EmitsIn.pure
            (Or.inr (Or.inr (Or.inr (Or.inl ⟨symbol, hmem, _, s.qualify_isIdOf _, rfl⟩))))
        · exact refused_recorded _
      · exact refused_recorded _

theorem inlineValue_recorded {sl : Slot} (h : sl.Recorded sc R) :
    (inlineValue sl).EmitsIn sc (Emitted.Recorded R) fun r => r.2.2 = true → R.HoldsInline r.1 := by
  unfold inlineValue
  split
  · exact EmitsIn.pure fun _ => holdsInline_emptyShadow R
  · exact EmitsIn.pure fun _ => Or.inl ⟨_, rfl⟩
  · exact EmitsIn.pure fun _ => Or.inl ⟨_, rfl⟩
  · rename_i t span hv
    split
    · rename_i hname
      have hm : t ∈ R.messages := h.message (by simpa using hname) t span hv
      exact EmitsIn.pure fun _ => Or.inr (Or.inr (Or.inl ⟨t, hm, rfl⟩))
    · exact EmitsIn.pure fun _ => Or.inr (Or.inl ⟨_, rfl⟩)
  · rename_i hv
    exact (inlineName_recorded _ (h.value _ hv)).imp fun _ hr _ => hr
  · rename_i hv
    exact (inlineAccessor_recorded (h.value _ hv)).imp fun _ hr _ => hr
  · exact EmitsIn.pure fun h => by cases h

theorem childInput_value (name : String) (child : Nat) (boolean : Bool) :
    (childInput name child boolean).value = .block child := by
  unfold childInput
  split <;> rfl

theorem slotInput_recorded {sl : Slot} (child : Nat) (h : sl.Recorded sc R) :
    (slotInput sl child).EmitsIn sc (Emitted.Recorded R) R.HoldsInput := by
  unfold slotInput
  refine (inlineValue_recorded h).bind fun r hr => ?_
  obtain ⟨text, literal, inline⟩ := r
  -- an inline value is written as a literal, anything else as a child block
  have hwritten : ∀ i : Input, i.value = .literal text → inline = true →
      (Pure.pure i : EmitM Input).EmitsIn sc (Emitted.Recorded R) R.HoldsInput := by
    intro i hi hinline
    refine EmitsIn.pure fun t ht => ?_
    rw [hi] at ht
    cases ht
    exact hr hinline
  dsimp only
  split
  · rename_i hc
    exact hwritten _ rfl (Bool.and_eq_true_iff.1 hc).1
  split
  · rename_i hc
    exact hwritten _ rfl (Bool.and_eq_true_iff.1 hc).1
  split
  · rename_i hc
    exact hwritten _ rfl hc
  · exact EmitsIn.pure fun t ht => by rw [childInput_value] at ht; cases ht

end Inline

/-! ## Nodes -/

section Nodes

variable {sc : EmitScope} {R : References}

theorem fieldRef_ne_empty (name value : String) : fieldRef name value ≠ "" := by
  simp [fieldRef]

theorem Slot.recorded_of {name : String} {value : Option Expr} {boolean : Bool} {field : String}
    (hvalue : ∀ e ∈ value, e.Recorded sc R) (hname : name ≠ broadcastInput) :
    Slot.Recorded sc R { name, value, boolean, field } :=
  ⟨hvalue, fun h => absurd h hname⟩

theorem Slot.recorded_some (name : String) (boolean : Bool) (field : String) {e : Expr}
    (he : e.Recorded sc R) (hname : name ≠ broadcastInput) :
    Slot.Recorded sc R { name, value := some e, boolean, field } :=
  Slot.recorded_of (fun e' he' => by cases he'; exact he) hname

theorem NodeSpec.recorded_of_plain {spec : NodeSpec} (hplain : PlainOpcode spec.opcode)
    (hslots : ∀ sl ∈ spec.slots, sl.Recorded sc R) : spec.Recorded sc R :=
  ⟨hslots, fun h => absurd h hplain.1, fun h => absurd h hplain.2⟩

theorem NodeSpec.recorded_of_list {spec : NodeSpec} (hcall : spec.opcode ≠ Opcode.procCall)
    (hslots : ∀ sl ∈ spec.slots, sl.Recorded sc R)
    (hfields : ∃ l ∈ R.lists, ∃ q, Names.IsIdOf q l ∧ spec.fields = fieldRef "LIST" q) :
    spec.Recorded sc R :=
  ⟨hslots, fun _ => hfields, fun h => absurd h hcall⟩

theorem holdsInput_childInput (name : String) (child : Nat) (boolean : Bool) :
    R.HoldsInput (childInput name child boolean) := by
  intro t ht
  rw [childInput_value] at ht
  cases ht

theorem Block.recorded_of_list {b : Block} (hcall : b.opcode ≠ Opcode.procCall)
    (hinputs : ∀ i ∈ b.inputs, R.HoldsInput i)
    (hfields : ∃ l ∈ R.lists, ∃ q, Names.IsIdOf q l ∧ b.fields = fieldRef "LIST" q) :
    Emitted.Recorded R (.block b) :=
  ⟨hinputs, fun _ => hfields, fun h => absurd h hcall⟩

theorem Block.recorded_of_plain {b : Block} (hplain : PlainOpcode b.opcode)
    (hinputs : ∀ i ∈ b.inputs, R.HoldsInput i) : Emitted.Recorded R (.block b) :=
  ⟨hinputs, fun h => absurd h hplain.1, fun h => absurd h hplain.2⟩

theorem writeNode_recorded {spec : NodeSpec} (h : spec.Recorded sc R) :
    (writeNode spec).EmitsIn sc (Emitted.Recorded R) fun _ => True := by
  unfold writeNode
  refine (EmitsIn.of_emits (Emits.take _)).bind fun slotIds _ => ?_
  refine (EmitsIn.of_emits (Emits.mapM (fun _ => Emits.take _) _)).bind fun bodyIds _ => ?_
  extract_lets branchInputs afterPlace
  -- whether or not the node is placed, its inputs and the block follow
  have hafter : ∀ y, (afterPlace y).EmitsIn sc (Emitted.Recorded R) fun _ => True := by
    intro y
    dsimp only [afterPlace]
    refine (EmitsIn.mapM (Q := R.HoldsInput) fun x hx => ?_).bind fun inputs hinputs => ?_
    · exact slotInput_recorded x.2 (h.slots x.1 (List.of_mem_zip hx).1)
    refine (EmitsIn.push ?_).bind fun _ _ => EmitsIn.pure trivial
    -- the branches are child blocks; a list or call node names what its spec names
    have hbranches : ∀ i ∈ branchInputs, R.HoldsInput i := by
      intro i hi text htext
      obtain ⟨⟨⟨input, _⟩, ids⟩, -, hmap⟩ := List.mem_filterMap.1 hi
      obtain ⟨first, -, rfl⟩ := Option.map_eq_some_iff.1 hmap
      rw [childInput_value] at htext
      cases htext
    show Block.Recorded R _
    refine ⟨fun i hi => ?_, fun hlist => ?_, h.call⟩
    · rcases List.mem_append.1 hi with hi | hi
      · exact hinputs i hi
      · exact hbranches i hi
    · obtain ⟨l, hl, q, hq, hfields⟩ := h.list hlist
      refine ⟨l, hl, q, hq, ?_⟩
      rw [hfields, if_neg (by simp [fieldRef_ne_empty])]
  split
  · exact (EmitsIn.of_emits Emits.place).bind fun y _ => hafter y
  · exact (EmitsIn.pure (Q := fun _ => True) trivial).bind fun y _ => hafter y

theorem writeArgument_recorded (this parent : Nat) (n : Name) :
    (writeArgument this parent n).EmitsIn sc (Emitted.Recorded R) fun _ => True := by
  unfold writeArgument
  refine EmitsIn.read.bind fun s _ => ?_
  -- the reporter's value is found with findings only
  extract_lets write
  have hwrite : ∀ value, (write value).EmitsIn sc (Emitted.Recorded R) fun _ => True :=
    fun value => (writeNode_recorded (NodeSpec.recorded_of_plain argReporter_plain (by simp))).bind
      fun _ _ => EmitsIn.pure trivial
  repeat' first
    | exact hwrite _
    | exact (EmitsIn.pure (Q := fun _ => True) trivial).bind fun _ _ => hwrite _
    | refine (report_recorded _).bind fun _ _ => ?_
    | split
/-- A primitive of the catalogue is written as a block that reads what its arguments read, with a
plain menu selector; its arguments are recorded, and a text in its slot of a message is a
message of `R`. -/
theorem writePrimitive_recorded {p : Primitive} {this parent next : Nat} {args : List Expr}
    {span : Span} (hplain : PlainOpcode p.opcode) (hmenu : ∀ m ∈ p.menu, PlainOpcode m.opcode)
    (hargs : ∀ e ∈ args, e.Recorded sc R)
    (hmsg : ∀ x ∈ p.args.zip args, x.1 = broadcastInput → ∀ m span, x.2 = .str m span → m ∈ R.messages) :
    (writePrimitive p this parent next args span).EmitsIn sc (Emitted.Recorded R) fun _ => True := by
  unfold writePrimitive
  refine EmitsIn.guard (EmitsIn.guard ?_)
  refine (EmitsIn.of_emits (Emits.take _)).bind fun argIds _ => ?_
  extract_lets afterMenuId
  have hafter : ∀ menuId, (afterMenuId menuId).EmitsIn sc (Emitted.Recorded R) fun _ => True := by
    intro menuId
    dsimp only [afterMenuId]
    refine (EmitsIn.foldlM (fun acc => ∀ i ∈ acc.1, R.HoldsInput i) (fun acc hacc x hx => ?_) _ (by simp)).bind fun r hr => ?_
    · obtain ⟨⟨slotName, arg⟩, argId⟩ := x
      obtain ⟨inputs, menuValue⟩ := acc
      have hpair := (List.of_mem_zip hx).1
      have hslot : Slot.Recorded sc R { name := slotName, value := some arg } :=
        ⟨fun e he => by cases he; exact hargs arg (List.of_mem_zip hpair).2,
          fun hname m span' hm => hmsg _ hpair hname m span' (Option.some.inj hm)⟩
      -- each step appends one input
      have happend : ∀ i, R.HoldsInput i → ∀ v, (Pure.pure (inputs ++ [i], v) :
          EmitM (List Input × Option String)).EmitsIn sc (Emitted.Recorded R)
            fun acc => ∀ i ∈ acc.1, R.HoldsInput i := by
        intro i hi v
        refine EmitsIn.pure fun i' hi' => ?_
        rcases List.mem_append.1 hi' with hi' | hi'
        · exact hacc i' hi'
        · rw [List.mem_singleton.1 hi']
          exact hi
      dsimp only
      split
      · exact (slotInput_recorded argId hslot).bind fun i hi => happend i hi _
      · split
        · exact happend _ (fun t ht => by cases ht) _
        · refine (inlineValue_recorded hslot).bind fun r hr' => happend _ (fun t ht => ?_) _
          dsimp only at ht
          split at ht
          · cases ht
            exact hr' ‹_›
          · cases ht
    · obtain ⟨inputs, menuValue⟩ := r
      refine (EmitsIn.push (Block.recorded_of_plain hplain hr)).bind fun _ _ => ?_
      -- the menu's selector, when there is one, is a plain node with no slots
      split
      · rename_i m hm
        repeat' first
          | exact (EmitsIn.pure (Q := fun _ => True) trivial).bind fun _ _ =>
              (writeNode_recorded (NodeSpec.recorded_of_plain (hmenu m hm) (by simp))).bind
                fun _ _ => EmitsIn.pure trivial
          | refine (report_recorded _).bind fun _ _ => ?_
          | split
      · exact EmitsIn.pure trivial
  split
  · exact (EmitsIn.of_emits Emits.fresh).bind fun y _ => hafter y
  · exact (EmitsIn.pure (Q := fun _ => True) trivial).bind fun y _ => hafter y
end Nodes

/-! ## Expressions -/

section Expressions

variable {sc : EmitScope} {R : References}

theorem emitExpr_args_recorded :
    (∀ field this parent (e : Expr), e.Recorded sc R → (∀ p ∈ e.primitives, p ∈ reporters) →
      (emitExpr field this parent e).EmitsIn sc (Emitted.Recorded R) fun _ => True) ∧
    ∀ p used this slots args ids, (∀ e ∈ args, e.Recorded sc R ∧ ∀ q ∈ e.primitives, q ∈ reporters) →
      (emitPrimitiveArgs p used this slots args ids).EmitsIn sc (Emitted.Recorded R) fun _ => True := by
  refine emitExpr.mutual_induct
    (fun field this parent e => e.Recorded sc R → (∀ p ∈ e.primitives, p ∈ reporters) →
      (emitExpr field this parent e).EmitsIn sc (Emitted.Recorded R) fun _ => True)
    (fun p used this slots args ids => (∀ e ∈ args, e.Recorded sc R ∧ ∀ q ∈ e.primitives, q ∈ reporters) →
      (emitPrimitiveArgs p used this slots args ids).EmitsIn sc (Emitted.Recorded R) fun _ => True)
    ?int ?float ?str ?name ?accessor ?arg ?repr ?sugar ?unop ?binop ?argsEmit ?argsSkip ?argsEnd
  case int | float | str => intro _ _ _ _ _ _ _; simp only [emitExpr]; exact EmitsIn.pure trivial
  case name => intro _ _ _ _ _ _; simp only [emitExpr]; exact EmitsIn.pure trivial
  case accessor => intro _ _ _ _ _ _ _ _ _; simp only [emitExpr]; exact EmitsIn.pure trivial
  case arg =>
    intro field this parent n _ _
    simp only [emitExpr]
    exact writeArgument_recorded _ _ _
  case repr =>
    intro field this parent p args span ih he hp
    simp only [emitExpr]
    obtain ⟨hplain, hmenu, hnomsg⟩ := reporters_plain p (hp p List.mem_cons_self)
    -- no slot of a reporter takes a message
    have hmsg : ∀ x ∈ p.args.zip args, x.1 = broadcastInput →
        ∀ m span, x.2 = .str m span → m ∈ R.messages :=
      fun x hx hname => absurd (hname ▸ (List.of_mem_zip hx).1) hnomsg
    have hargs : ∀ e ∈ args, e.Recorded sc R ∧ ∀ q ∈ e.primitives, q ∈ reporters :=
      fun e he' => ⟨Expr.allRecorded_iff.1 he e he',
        fun q hq => hp q (List.mem_cons_of_mem _ (Expr.mem_primitivesOf.2 ⟨e, he', hq⟩))⟩
    exact (writePrimitive_recorded hplain hmenu (fun e he' => (hargs e he').1) hmsg).bind
      fun r _ => ih r.1 r.2 hargs
  case sugar =>
    intro field this parent op operand span hsugar ih _ _
    simp only [emitExpr]
    rw [if_pos hsugar]
    exact (EmitsIn.error (Q := fun _ => False)).bind fun _ h => h.elim
  case unop =>
    intro field this parent op operand span hsugar ih he hp
    simp only [emitExpr]
    rw [if_neg hsugar]
    obtain ⟨hplain, hinput⟩ := UnOp.plain op
    have hslot := Slot.recorded_some _ op.isBoolean "" (e := operand) he hinput
    exact (writeNode_recorded (NodeSpec.recorded_of_plain hplain
      (List.forall_mem_singleton.2 hslot))).bind fun r _ => ih r.1 he hp
  case binop =>
    intro field this parent op lhs rhs span ihIndex ihl ihr he hp
    simp only [emitExpr]
    refine EmitsIn.read.bind fun s hs => ?_
    subst hs
    split
    · rename_i list hlist
      -- the list an item is read of is a name that resolves to a list
      obtain ⟨n, rfl, hkind, rfl⟩ :
          ∃ n, lhs = .name n ∧ (s.qualify n).2 = .list ∧ (s.qualify n).1 = list := by
        split at hlist
        · rename_i n
          split at hlist
          · rename_i q hq
            cases hlist
            exact ⟨n, rfl, by rw [hq], by rw [hq]⟩
          · cases hlist
        · cases hlist
      have hbase : n.base ∈ R.lists := by
        have hn := he.1
        simp only [Expr.Recorded, (EmitScope.qualify_list hkind).1, Option.isSome_none] at hn
        exact hn
      have hslot := Slot.recorded_some "INDEX" false "" he.2
        (by decide)
      exact (writeNode_recorded (NodeSpec.recorded_of_list
        (show Opcode.itemOfList ≠ Opcode.procCall by decide)
        (List.forall_mem_singleton.2 hslot) ⟨n.base, hbase, _, s.qualify_isIdOf n, rfl⟩)).bind
          fun r _ => ihIndex r.1 he.2 fun q hq => hp q (List.mem_append_right _ hq)
    · refine EmitsIn.guard ?_
      obtain ⟨hplain, hl, hr⟩ := BinOp.plain op
      have hslots := List.forall_mem_cons.2
        ⟨Slot.recorded_some _ op.isBoolean "" he.1 hl,
          List.forall_mem_singleton.2 (Slot.recorded_some _ op.isBoolean "" he.2 hr)⟩
      exact (writeNode_recorded (NodeSpec.recorded_of_plain hplain hslots)).bind fun r _ =>
        (ihl r.1 he.1 fun q hq => hp q (List.mem_append_left _ hq)).bind fun _ _ =>
          ihr r.1 he.2 fun q hq => hp q (List.mem_append_right _ hq)
  case argsEmit =>
    intro p used this slot slots arg args id ids hemit ihs iha h
    simp only [emitPrimitiveArgs, hemit, if_true]
    obtain ⟨harg, hprims⟩ := h arg List.mem_cons_self
    exact (iha harg hprims).bind fun _ _ => ihs fun e he => h e (List.mem_cons_of_mem _ he)
  case argsSkip =>
    intro p used this slot slots arg args id ids hskip ihs h
    simp only [emitPrimitiveArgs, hskip]
    exact ihs fun e he => h e (List.mem_cons_of_mem _ he)
  case argsEnd =>
    intro xs p used this slots ids hend _
    have hpure : emitPrimitiveArgs p used this slots xs ids = Pure.pure () := by
      rcases slots with _ | ⟨slot, slots⟩
      · simp only [emitPrimitiveArgs]
      rcases xs with _ | ⟨arg, args⟩
      · simp only [emitPrimitiveArgs]
      rcases ids with _ | ⟨id, ids⟩
      · simp only [emitPrimitiveArgs]
      exact (hend slot slots arg args id ids rfl rfl rfl).elim
    rw [hpure]
    exact EmitsIn.pure trivial

theorem emitSlotValue_recorded (field : String) (this parent : Nat) {v : Option Expr}
    (h : ∀ e ∈ v, e.Recorded sc R ∧ ∀ p ∈ e.primitives, p ∈ reporters) :
    (emitSlotValue field this parent v).EmitsIn sc (Emitted.Recorded R) fun _ => True := by
  cases v with
  | none => exact EmitsIn.pure trivial
  | some e =>
    obtain ⟨he, hp⟩ := h e rfl
    exact emitExpr_args_recorded.1 field this parent e he hp

theorem emitSlots_recorded (parent : Nat) {sls : List Slot}
    (h : ∀ sl ∈ sls, ∀ e ∈ sl.value, e.Recorded sc R ∧ ∀ p ∈ e.primitives, p ∈ reporters) :
    ∀ ids : List Nat, (emitSlots parent sls ids).EmitsIn sc (Emitted.Recorded R) fun _ => True := by
  induction sls with
  | nil =>
    intro ids
    simp only [emitSlots]
    exact EmitsIn.pure trivial
  | cons sl sls ih =>
    intro ids
    cases ids with
    | nil =>
      simp only [emitSlots]
      exact EmitsIn.pure trivial
    | cons id ids =>
      rw [emitSlots]
      exact (emitSlotValue_recorded _ _ _ (h sl List.mem_cons_self)).bind fun _ _ =>
        ih (fun sl' hsl' => h sl' (List.mem_cons_of_mem _ hsl')) ids

/-- A recorded node whose slot expressions apply reporters of the catalogue is written, with
its slot expressions, as blocks that read only what `R` records. -/
theorem writeWithSlots_recorded {spec : NodeSpec} (h : spec.Recorded sc R)
    (hprims : ∀ sl ∈ spec.slots, ∀ e ∈ sl.value, ∀ p ∈ e.primitives, p ∈ reporters) :
    (writeWithSlots spec).EmitsIn sc (Emitted.Recorded R) fun _ => True :=
  (writeNode_recorded h).bind fun r _ => emitSlots_recorded _
    (fun sl hsl e he => ⟨(h.slots sl hsl).value e he, hprims sl hsl e he⟩) r.1

end Expressions

/-! ## Statements -/

section Statements

variable {sc : EmitScope} {R : References}

theorem Stmt.walked_sourced {st : Stmt} (hsrc : st.Sourced) {e : Expr} (he : e ∈ st.walked) :
    ∀ p ∈ e.primitives, p ∈ reporters := by
  obtain ⟨hv, hi, ht, hc, ha, -⟩ := Stmt.sourced_iff.1 hsrc
  have hargs : ∀ e ∈ st.args, ∀ p ∈ e.primitives, p ∈ reporters :=
    fun e he p hp => ha p (Expr.mem_primitivesOf.2 ⟨e, he, hp⟩)
  unfold Stmt.walked at he
  split at he <;> try simp only [Option.mem_toList, List.mem_append, List.not_mem_nil] at he
  all_goals first
    | exact hv e he | exact hi e he | exact ht e he | exact hc e he | exact hargs e he
    | (rcases he with he | he; exact hi e he; exact hv e he)

theorem Stmt.walked_readable {st : Stmt} (hrec : st.Recorded sc R) (hsrc : st.Sourced) {e : Expr}
    (he : e ∈ st.walked) : e.Recorded sc R ∧ ∀ p ∈ e.primitives, p ∈ reporters :=
  ⟨hrec.exprs e he, Stmt.walked_sourced hsrc he⟩

/-- The slots of a node of a recorded, sourced statement that hold expressions it walks, and
take no message, are recorded and apply reporters of the catalogue. -/
theorem Stmt.slots_recorded {st : Stmt} (hrec : st.Recorded sc R) (hsrc : st.Sourced)
    (slots : List Slot) (h : ∀ sl ∈ slots, sl.name ≠ broadcastInput ∧ ∀ e ∈ sl.value, e ∈ st.walked) :
    (∀ sl ∈ slots, sl.Recorded sc R) ∧ ∀ sl ∈ slots, ∀ e ∈ sl.value, ∀ p ∈ e.primitives, p ∈ reporters :=
  ⟨fun sl hsl => ⟨fun e he => hrec.exprs e ((h sl hsl).2 e he), fun hname => absurd hname (h sl hsl).1⟩,
    fun sl hsl e he => Stmt.walked_sourced hsrc ((h sl hsl).2 e he)⟩

theorem localName_ne_broadcastInput (proc name : String) :
    Names.localName proc name ≠ broadcastInput := by
  intro h
  have hmem : ':' ∈ (Names.localName proc name).toList := by simp [Names.localName]
  rw [h] at hmem
  revert hmem
  decide

theorem params_id_ne (s : EmitScope) (p : Proc) : ∀ q ∈ params s p, q.id ≠ broadcastInput := by
  intro q hq
  simp only [params, List.mem_flatMap] at hq
  obtain ⟨⟨a, i⟩, -, hq⟩ := hq
  dsimp only at hq
  repeat' first
    | (simp only [List.mem_singleton] at hq; rw [hq]; exact localName_ne_broadcastInput _ _)
    | (obtain ⟨f, -, rfl⟩ := List.mem_map.1 hq; exact localName_ne_broadcastInput _ _)
    | split at hq

theorem assignedVariable_recorded (n : Name) :
    (assignedVariable n).EmitsIn sc (Emitted.Recorded R) fun _ => True := by
  unfold assignedVariable
  refine EmitsIn.read.bind fun s _ => EmitsIn.of_emits ?_
  dsimp only
  repeat' first
    | exact Emits.pure
    | exact report_emits _
    | refine Emits.bind ?_ fun _ => ?_
    | split

theorem changedList_recorded (n : Name) :
    (changedList n).EmitsIn sc (Emitted.Recorded R) fun q => Names.IsIdOf q n.base := by
  unfold changedList
  refine EmitsIn.read.bind fun s hs => ?_
  subst hs
  have hid := s.qualify_isIdOf n
  dsimp only
  split
  · exact (report_recorded _).bind fun _ _ => EmitsIn.pure hid
  · exact EmitsIn.pure hid

theorem emitListChange_recorded (link : Link) (span : Span) {name : Name} (op : Option BinOp)
    {index value : Option Expr} (hlist : name.base ∈ R.lists)
    (hindex : ∀ e ∈ index, e.Recorded sc R ∧ ∀ p ∈ e.primitives, p ∈ reporters)
    (hvalue : ∀ e ∈ value, e.Recorded sc R ∧ ∀ p ∈ e.primitives, p ∈ reporters) :
    (emitListChange link span name op index value).EmitsIn sc (Emitted.Recorded R) fun _ => True := by
  unfold emitListChange
  split
  · rename_i o
    obtain ⟨hplain, -, hrhs⟩ := BinOp.plain o
    have hindexSlot : Slot.Recorded sc R { name := "INDEX", value := index } :=
      Slot.recorded_of (fun e he => (hindex e he).1) (by decide)
    have hvalueSlot : Slot.Recorded sc R { name := o.rhsInput, value, boolean := o.isBoolean } :=
      Slot.recorded_of (fun e he => (hvalue e he).1) hrhs
    refine EmitsIn.guard ((changedList_recorded name).bind fun list hq => ?_)
    -- both blocks of the list name it by the id its name's base has
    have hfields : ∃ l ∈ R.lists, ∃ q, Names.IsIdOf q l ∧ fieldRef "LIST" list = fieldRef "LIST" q :=
      ⟨_, hlist, _, hq, rfl⟩
    refine (EmitsIn.of_emits Emits.fresh).bind fun indexId _ =>
      (EmitsIn.of_emits Emits.fresh).bind fun opId _ => ?_
    refine (slotInput_recorded indexId hindexSlot).bind fun indexInput hindexInput => ?_
    refine (EmitsIn.push (Block.recorded_of_list (show Opcode.replaceItemOfList ≠ Opcode.procCall by decide)
      ?_ hfields)).bind fun _ _ => ?_
    · simpa using ⟨hindexInput, holdsInput_childInput _ _ _⟩
    refine (emitSlotValue_recorded _ _ _ hindex).bind fun _ _ => ?_
    refine (EmitsIn.of_emits Emits.fresh).bind fun itemId _ =>
      (EmitsIn.of_emits Emits.fresh).bind fun valueId _ => ?_
    refine (slotInput_recorded valueId hvalueSlot).bind fun valueInput hvalueInput => ?_
    refine (EmitsIn.push (Block.recorded_of_plain hplain ?_)).bind fun _ _ => ?_
    · simpa using ⟨holdsInput_childInput _ _ _, hvalueInput⟩
    refine (writeWithSlots_recorded (NodeSpec.recorded_of_list
      (show Opcode.itemOfList ≠ Opcode.procCall by decide)
      (List.forall_mem_singleton.2 hindexSlot) hfields) ?_).bind fun _ _ =>
        emitSlotValue_recorded _ _ _ hvalue
    simpa using fun e he => (hindex e he).2
  · exact EmitsIn.error
theorem report_if_recorded {α : Type} {Q : α → Prop} {c : Prop} [Decidable c] {d : Diagnostic}
    {m : EmitM α} (hm : m.EmitsIn sc (Emitted.Recorded R) Q) :
    (if c then EmitM.report d >>= fun _ => m else m).EmitsIn sc (Emitted.Recorded R) Q := by
  split
  · exact (report_recorded d).bind fun _ _ => hm
  · exact hm

theorem emitStmt_chain_recorded :
    (∀ link st, (∀ x ∈ st.reached, x.Recorded sc R ∧ x.Sourced) →
      (emitStmt link st).EmitsIn sc (Emitted.Recorded R) fun _ => True) ∧
    (∀ sts ids parent, (∀ x ∈ Stmt.chainReached sts, x.Recorded sc R ∧ x.Sourced) →
      (emitBody sts ids parent).EmitsIn sc (Emitted.Recorded R) fun _ => True) ∧
    ∀ sts ids parent, (∀ x ∈ Stmt.chainReached sts, x.Recorded sc R ∧ x.Sourced) →
      (emitChain sts ids parent).EmitsIn sc (Emitted.Recorded R) fun _ => True := by
  refine And.imp id (fun h => ⟨h, h⟩) <| emitStmt.mutual_induct
    (fun link st => (∀ x ∈ st.reached, x.Recorded sc R ∧ x.Sourced) →
      (emitStmt link st).EmitsIn sc (Emitted.Recorded R) fun _ => True)
    (fun sts ids parent => (∀ x ∈ Stmt.chainReached sts, x.Recorded sc R ∧ x.Sourced) →
      (emitChain sts ids parent).EmitsIn sc (Emitted.Recorded R) fun _ => True)
    ?repeatTimes ?forever ?branch ?repeatUntil ?setVar ?setField ?changeVar ?showData ?hideData
    ?listAdd ?listDelete ?listDeleteAll ?listInsert ?listSet ?listChange ?block ?procCall
    ?chainCons ?chainEnd
  case chainCons =>
    intro st sts id ids parent ihst ihsts h
    simp only [Stmt.chainReached, List.forall_mem_append] at h
    rw [emitChain]
    exact (ihst h.1).bind fun _ _ => ihsts h.2
  case chainEnd =>
    intro sts ids parent hend _
    have hpure : emitChain sts ids parent = Pure.pure () := by
      rcases sts with _ | ⟨st, sts⟩
      · simp only [emitChain]
      rcases ids with _ | ⟨id, ids⟩
      · simp only [emitChain]
      exact (hend st sts id ids rfl rfl).elim
    rw [hpure]
    exact EmitsIn.pure trivial
  case repeatTimes =>
    intro link span name type isLocal value index times cond op body orElse command proc args ih h
    simp only [Stmt.reached, List.forall_mem_cons] at h
    obtain ⟨⟨hrec, hsrc⟩, hbody⟩ := h
    obtain ⟨hslots, -⟩ := Stmt.slots_recorded hrec hsrc [{ name := "TIMES", value := times }]
      (by simp [Stmt.walked, broadcastInput])
    simp only [emitStmt]
    refine (writeNode_recorded (NodeSpec.recorded_of_plain (by dsimp only; decide) hslots)).bind
      fun r _ => ?_
    exact (emitSlotValue_recorded _ _ _ fun e he => Stmt.walked_readable hrec hsrc (by simpa [Stmt.walked] using he)).bind
      fun _ _ => ih r.2 hbody
  case repeatUntil =>
    intro link span name type isLocal value index times cond op body orElse command proc args ih h
    simp only [Stmt.reached, List.forall_mem_cons] at h
    obtain ⟨⟨hrec, hsrc⟩, hbody⟩ := h
    obtain ⟨hslots, -⟩ := Stmt.slots_recorded hrec hsrc
      [{ name := "CONDITION", value := cond, boolean := true }]
      (by simp [Stmt.walked, broadcastInput])
    simp only [emitStmt]
    refine (writeNode_recorded (NodeSpec.recorded_of_plain (by dsimp only; decide) hslots)).bind
      fun r _ => ?_
    exact (emitSlotValue_recorded _ _ _ fun e he => Stmt.walked_readable hrec hsrc (by simpa [Stmt.walked] using he)).bind
      fun _ _ => ih r.2 hbody
  case forever =>
    intro link span name type isLocal value index times cond op body orElse command proc args ih h
    simp only [Stmt.reached, List.forall_mem_cons] at h
    simp only [emitStmt]
    exact (writeNode_recorded (NodeSpec.recorded_of_plain (by dsimp only; decide) (by simp))).bind
      fun r _ => ih r.2 h.2
  case branch =>
    intro link span name type isLocal value index times cond op body orElse command proc args ih ihElse h
    simp only [Stmt.reached, List.forall_mem_cons, List.forall_mem_append] at h
    obtain ⟨⟨hrec, hsrc⟩, hbody, helse⟩ := h
    obtain ⟨hslots, -⟩ := Stmt.slots_recorded hrec hsrc
      [{ name := "CONDITION", value := cond, boolean := true }]
      (by simp [Stmt.walked, broadcastInput])
    simp only [emitStmt]
    refine (writeNode_recorded (NodeSpec.recorded_of_plain (by dsimp only; split <;> decide) hslots)).bind
      fun r _ => ?_
    refine (emitSlotValue_recorded _ _ _ fun e he => Stmt.walked_readable hrec hsrc (by simpa [Stmt.walked] using he)).bind
      fun _ _ => (ih r.2 hbody).bind fun _ _ => ?_
    split
    · exact ihElse r.2 helse
    · exact EmitsIn.pure trivial
  case setVar | setField | changeVar =>
    intro link span name type isLocal value index times cond op body orElse command proc args h
    simp only [Stmt.reached, List.forall_mem_singleton] at h
    obtain ⟨hrec, hsrc⟩ := h
    obtain ⟨hslots, hprims⟩ := Stmt.slots_recorded hrec hsrc [{ name := "VALUE", value }]
      (by simp [Stmt.walked, broadcastInput])
    simp only [emitStmt]
    exact (assignedVariable_recorded _).bind fun _ _ =>
      writeWithSlots_recorded (NodeSpec.recorded_of_plain (by dsimp only; split <;> decide) hslots) hprims
  case showData | hideData =>
    intro link span name type isLocal value index times cond op body orElse command proc args _
    simp only [emitStmt]
    refine EmitsIn.read.bind fun s _ => ?_
    -- the block shows or hides a list or a variable, named in its fields
    repeat' first
      | exact (EmitsIn.pure (Q := fun spec : NodeSpec => spec.Recorded sc R)
          (NodeSpec.recorded_of_plain (by dsimp only; split <;> decide) (by simp))).bind
            fun _ hspec => (writeNode_recorded hspec).bind fun _ _ => EmitsIn.pure trivial
      | refine (report_recorded _).bind fun _ _ => ?_
      | split
  case listAdd =>
    intro link span name type isLocal value index times cond op body orElse command proc args h
    simp only [Stmt.reached, List.forall_mem_singleton] at h
    obtain ⟨hrec, hsrc⟩ := h
    obtain ⟨hslots, hprims⟩ := Stmt.slots_recorded hrec hsrc [{ name := "ITEM", value }]
      (by simp [Stmt.walked, broadcastInput])
    simp only [emitStmt]
    exact (changedList_recorded name).bind fun _ hq => writeWithSlots_recorded
      (NodeSpec.recorded_of_list (by dsimp only; decide) hslots ⟨_, hrec.list rfl, _, hq, rfl⟩) hprims
  case listDelete =>
    intro link span name type isLocal value index times cond op body orElse command proc args h
    simp only [Stmt.reached, List.forall_mem_singleton] at h
    obtain ⟨hrec, hsrc⟩ := h
    obtain ⟨hslots, hprims⟩ := Stmt.slots_recorded hrec hsrc [{ name := "INDEX", value := index }]
      (by simp [Stmt.walked, broadcastInput])
    simp only [emitStmt]
    exact (changedList_recorded name).bind fun _ hq => writeWithSlots_recorded
      (NodeSpec.recorded_of_list (by dsimp only; decide) hslots ⟨_, hrec.list rfl, _, hq, rfl⟩) hprims
  case listDeleteAll =>
    intro link span name type isLocal value index times cond op body orElse command proc args h
    simp only [Stmt.reached, List.forall_mem_singleton] at h
    simp only [emitStmt]
    exact (changedList_recorded name).bind fun _ hq => writeWithSlots_recorded
      (NodeSpec.recorded_of_list (by dsimp only; decide) (by simp) ⟨_, h.1.list rfl, _, hq, rfl⟩) (by simp)
  case listInsert | listSet =>
    intro link span name type isLocal value index times cond op body orElse command proc args h
    simp only [Stmt.reached, List.forall_mem_singleton] at h
    obtain ⟨hrec, hsrc⟩ := h
    obtain ⟨hslots, hprims⟩ := Stmt.slots_recorded hrec hsrc
      [{ name := "INDEX", value := index }, { name := "ITEM", value }]
      (by simp +contextual [Stmt.walked, broadcastInput])
    simp only [emitStmt]
    exact (changedList_recorded name).bind fun _ hq => writeWithSlots_recorded
      (NodeSpec.recorded_of_list (by dsimp only; decide) hslots ⟨_, hrec.list rfl, _, hq, rfl⟩) hprims
  case listChange =>
    intro link span name type isLocal value index times cond op body orElse command proc args h
    simp only [Stmt.reached, List.forall_mem_singleton] at h
    obtain ⟨hrec, hsrc⟩ := h
    simp only [emitStmt]
    exact emitListChange_recorded link span op (hrec.list rfl)
      (fun e he => Stmt.walked_readable hrec hsrc
        (by simp only [Stmt.walked, List.mem_append, Option.mem_toList]; exact Or.inl he))
      (fun e he => Stmt.walked_readable hrec hsrc
        (by simp only [Stmt.walked, List.mem_append, Option.mem_toList]; exact Or.inr he))
  case block =>
    intro link span name type isLocal value index times cond op body orElse command proc args h
    simp only [Stmt.reached, List.forall_mem_singleton] at h
    obtain ⟨hrec, hsrc⟩ := h
    obtain ⟨-, -, -, -, -, hcmd, -⟩ := Stmt.sourced_iff.1 hsrc
    obtain ⟨hplain, hmenu, hbroadcast⟩ := commands_plain command (hcmd rfl)
    have hargs : ∀ e ∈ args, e.Recorded sc R ∧ ∀ p ∈ e.primitives, p ∈ reporters :=
      fun e he => Stmt.walked_readable hrec hsrc (by simpa [Stmt.walked] using he)
    -- the one slot of a message is the only one of a broadcast, whose text the statement records
    have hmsg : ∀ x ∈ command.args.zip args, x.1 = broadcastInput →
        ∀ m span, x.2 = .str m span → m ∈ R.messages := by
      intro x hx hname m span' hm
      obtain ⟨hone, hsends⟩ := hbroadcast (hname ▸ (List.of_mem_zip hx).1)
      rw [hone] at hx
      cases args with
      | nil => simp at hx
      | cons a as =>
        simp only [List.zip_cons_cons, List.zip_nil_left, List.mem_singleton] at hx
        subst hx
        exact hrec.message rfl hsends m span' (by simp [← hm])
    simp only [emitStmt]
    exact (writePrimitive_recorded hplain hmenu (fun e he => (hargs e he).1) hmsg).bind fun _ _ =>
      emitExpr_args_recorded.2 _ _ _ _ _ _ hargs
  case procCall =>
    intro link span name type isLocal value index times cond op body orElse command proc args h
    simp only [Stmt.reached, List.forall_mem_singleton] at h
    obtain ⟨hrec, hsrc⟩ := h
    simp only [emitStmt]
    refine EmitsIn.read.bind fun s hs => ?_
    subst hs
    split
    · -- an unknown procedure is called by its name, which the statement records
      exact (report_recorded _).bind fun _ _ => (writeNode_recorded
        ⟨by simp, fun h => absurd h (by dsimp only; decide), fun _ => ⟨proc, hrec.call rfl, [], false, rfl⟩⟩).bind
          fun _ _ => EmitsIn.pure trivial
    · rename_i p hp
      have hname : p.name ∈ R.procs := by
        rw [Sprite.proc?_name hp]
        exact hrec.call rfl
      -- each slot of the call takes the argument of its parameter, under the parameter's id
      have hslots := Stmt.slots_recorded hrec hsrc
        ((params s p).map fun q => ({ name := q.id, value := args[q.arg]?, field := q.field } : Slot))
        (by
          simp only [List.mem_map]
          rintro sl ⟨q, hq, rfl⟩
          exact ⟨params_id_ne s p q hq, fun e he => by simpa [Stmt.walked] using List.mem_of_getElem? he⟩)
      exact report_if_recorded (writeWithSlots_recorded
        ⟨hslots.1, fun h => absurd h (by dsimp only; decide), fun _ => ⟨_, hname, _, _, rfl⟩⟩ hslots.2)
end Statements

/-! ## Scripts -/

section Scripts

variable {sc : EmitScope} {R : References}

theorem emitScript_recorded {opcode fields : String} {stmts : List Stmt} (hplain : PlainOpcode opcode)
    (h : ∀ x ∈ Stmt.chainReached stmts, x.Recorded sc R ∧ x.Sourced) :
    (emitScript opcode fields stmts).EmitsIn sc (Emitted.Recorded R) fun _ => True := by
  unfold emitScript
  exact (EmitsIn.of_emits Emits.fresh).bind fun _ _ => (EmitsIn.push trivial).bind fun _ _ =>
    (EmitsIn.of_emits (Emits.take _)).bind fun ids _ =>
      (writeNode_recorded (NodeSpec.recorded_of_plain hplain (by simp))).bind fun _ _ =>
        emitStmt_chain_recorded.2.1 stmts ids _ h

theorem emitEvent_recorded {ev : Event} (hhat : ev.hat ∈ hats)
    (h : ∀ x ∈ Stmt.chainReached ev.body, x.Recorded sc R ∧ x.Sourced) :
    (emitEvent ev).EmitsIn sc (Emitted.Recorded R) fun _ => True := by
  unfold emitEvent
  exact EmitsIn.guard (emitScript_recorded (hats_plain ev.hat hhat) h)

theorem emitHandler_recorded {hd : Handler}
    (h : ∀ x ∈ Stmt.chainReached hd.body, x.Recorded sc R ∧ x.Sourced) :
    (emitHandler hd).EmitsIn sc (Emitted.Recorded R) fun _ => True :=
  emitScript_recorded (by decide) h

theorem emitProcDef_recorded {p : Proc}
    (h : ∀ x ∈ Stmt.chainReached p.body, x.Recorded { sc with proc := some p } R ∧ x.Sourced) :
    (emitProcDef p).EmitsIn sc (Emitted.Recorded R) fun _ => True := by
  unfold emitProcDef
  refine EmitsIn.withReader (EmitsIn.read.bind fun s hs => ?_)
  subst hs
  dsimp only
  refine (EmitsIn.of_emits Emits.fresh).bind fun defId _ => (EmitsIn.push trivial).bind fun _ _ =>
    (EmitsIn.of_emits Emits.fresh).bind fun protoId _ =>
      (EmitsIn.of_emits (Emits.take _)).bind fun reporterIds _ =>
        (EmitsIn.of_emits (Emits.take _)).bind fun bodyIds _ =>
          (EmitsIn.of_emits Emits.place).bind fun y _ => ?_
  -- the definition and its prototype hold their parts as blocks
  refine (EmitsIn.push (Block.recorded_of_plain (by dsimp only; decide)
    (List.forall_mem_singleton.2 fun t ht => by cases ht))).bind fun _ _ => ?_
  refine (EmitsIn.push (Block.recorded_of_plain (by dsimp only; decide) ?_)).bind fun _ _ => ?_
  · simp only [List.mem_map]
    rintro i ⟨⟨q, rid⟩, -, rfl⟩ t ht
    cases ht
  refine (EmitsIn.forIn (fun x _ _ => ?_) _).bind fun _ _ => emitStmt_chain_recorded.2.1 _ _ _ h
  exact (writeNode_recorded (NodeSpec.recorded_of_plain argReporter_plain (by simp))).bind
    fun _ _ => EmitsIn.pure trivial
end Scripts

end Graph

end BlockGraph
