import BlockGraph.Proofs.Emission.Node

namespace BlockGraph.Graph

open EmitM

/-- What emitting `e` as `this` under `parent` writes, when every primitive of `e` can be
written and `this` is already taken: a fragment that owns `this` and, when `e` needs a block,
holds it under `parent`. -/
def ExprSpec (field : String) (this parent : Nat) (e : Expr) : Prop :=
  (∀ p ∈ e.primitives, p.Writable) → ∀ ⦃sc : EmitScope⦄ ⦃s s' : EmitState⦄,
    (emitExpr field this parent e).Runs sc s () s' → this ≤ s.last →
      ∃ B, s'.blocks = s.blocks ++ B ∧ s.last ≤ s'.last ∧
        Fragment [this] parent s.last s'.last B ∧ (e.needsBlock = true → Adopts B parent this)

/-- What emitting the arguments of `p` under `this`, with ids taken before, writes: a
fragment owning those ids that holds every argument block the primitive's inputs refer to. -/
def ArgsSpec (p : Primitive) (used : Bool) (this : Nat) (slots : List String) (args : List Expr)
    (ids : List Nat) : Prop :=
  (∀ q ∈ Expr.primitivesOf args, q.Writable) → ∀ ⦃sc : EmitScope⦄ ⦃s s' : EmitState⦄,
    (emitPrimitiveArgs p used this slots args ids).Runs sc s () s' → ids.Nodup →
      (∀ i ∈ ids, i ≤ s.last) →
        ∃ B, s'.blocks = s.blocks ++ B ∧ s.last ≤ s'.last ∧ Fragment ids this s.last s'.last B ∧
          ∀ t ∈ (slots.zip args).zip ids, t.1.2.needsBlock = true →
            (used && p.isMenuSlot t.1.1) = false → Adopts B this t.2

theorem writeNode_slots {spec : NodeSpec} (hbr : spec.branches = [])
    {r : List Nat × List (List Nat)} {sc : EmitScope} {s s' : EmitState}
    (h : (writeNode spec).Runs sc s r s') :
    r.1 = List.range' (s.last + 1) spec.slots.length ∧ r.2 = [] ∧
      s'.last = s.last + spec.slots.length ∧
      ∃ b, s'.blocks = s.blocks ++ [b] ∧ NodeBlock spec r.1 r.2 b := by
  obtain ⟨k, b, hids, hl1, hl2, hlast, hblocks, hb⟩ := writeNode_runs h
  rw [hbr, List.map_nil, List.map_eq_nil_iff] at hl2
  rw [hl2, List.flatten_nil, List.append_nil] at hids
  have hk : k = spec.slots.length := by
    rw [← hl1, hids, List.length_range']
  subst hk
  exact ⟨hids, hl2, hlast, b, hblocks, hb⟩

theorem exprNode_spec {spec : NodeSpec} {r : List Nat × List (List Nat)} {sc : EmitScope}
    {s s₁ s' : EmitState} {F : List Block} (h : (writeNode spec).Runs sc s r s₁)
    (hbr : spec.branches = []) (hnext : spec.next = 0) (htop : spec.topLevel = false)
    (hspec : spec.Writable) (hid : spec.id ≤ s.last) (hblocks : s'.blocks = s₁.blocks ++ F) (hle : s₁.last ≤ s'.last)
    (hF : Fragment r.1 spec.id s₁.last s'.last F)
    (hslots : ∀ p ∈ spec.slots.zip r.1, p.1.needsBlock = true → Adopts F spec.id p.2) :
    ∃ B, s'.blocks = s.blocks ++ B ∧ s.last ≤ s'.last ∧
      Fragment [spec.id] spec.parent s.last s'.last B ∧ Adopts B spec.parent spec.id := by
  obtain ⟨-, hr₂, -, -⟩ := writeNode_slots hbr h
  obtain ⟨b, hB, hle', hb, hover⟩ := writeNode_over h htop hspec hblocks hle
    (by rw [hr₂, List.flatten_nil, List.append_nil]; exact hF) hslots (by simp [hbr])
  have hfrag := hover.toFragment (hb.next.trans hnext) (hb.id ▸ hid)
  rw [hb.id, hb.parent] at hfrag
  exact ⟨b :: F, hB, hle', hfrag, b, List.mem_cons_self, hb.id, hb.parent⟩

theorem primitive_over {p : Primitive} (hp : p.Writable) {this parent next : Nat}
    {args : List Expr} {span : Span} {r : List Nat × Bool} {sc : EmitScope} {s s₁ s' : EmitState}
    (h₁ : (writePrimitive p this parent next args span).Runs sc s r s₁)
    (hargs : ArgsSpec p r.2 this p.args args r.1) (hprims : ∀ q ∈ Expr.primitivesOf args, q.Writable)
    (h₂ : (emitPrimitiveArgs p r.2 this p.args args r.1).Runs sc s₁ () s') :
    ∃ b R, s'.blocks = s.blocks ++ b :: R ∧ s.last ≤ s'.last ∧ b.id = this ∧
      b.parent = parent ∧ b.next = next ∧ b.opcode = p.opcode ∧ NodeOver s.last s'.last b R := by
  obtain ⟨hlen, hr, b, M, hblocks₁, hle₁, hid, hop, hpar, hnext, htop, hsh, hM, hrefs⟩ :=
    writePrimitive_runs hp h₁
  have hrange : ∀ i ∈ r.1, s.last < i ∧ i ≤ s.last + args.length := by
    intro i hi
    rw [hr, List.mem_range'_1] at hi
    omega
  obtain ⟨F, hblocks₂, hle₂, hF, hadopt⟩ := hargs hprims h₂
    (by rw [hr]; exact List.nodup_range') (fun i hi => by have := hrange i hi; omega)
  refine ⟨b, M ++ F, by rw [hblocks₂, hblocks₁]; simp, by omega, hid, hpar, hnext, hop, ?_, ?_,
    hsh, htop⟩
  · -- the menu's selector, then the arguments' blocks
    have hMF : Fragment ([] ++ r.1) this (s.last + args.length) s'.last (M ++ F) :=
      Fragment.append hM hF (fun i hi => (hrange i (by simpa using hi)).2) hle₁ hle₂ (by simp)
    rw [hid]
    refine hMF.widen (fun i hi => Or.inr ?_) (by omega)
    have := hrange i (by simpa using hi)
    omega
  · intro i hi
    rw [hid]
    rcases hrefs i hi with hM' | ⟨t, ht, rfl, hneed, hused⟩
    · exact hM'.append_left F
    · exact (hadopt t ht hneed hused).append_right M

theorem ExprSpec.of_inline {field : String} {this parent : Nat} {e : Expr}
    (h : emitExpr field this parent e = pure ()) (hn : e.needsBlock = false) :
    ExprSpec field this parent e := by
  intro _ sc s s' hrun _
  rw [h, runs_pure] at hrun
  obtain ⟨-, rfl⟩ := hrun
  exact ⟨[], by simp, Nat.le_refl _, Fragment.nil, fun h => by simp [hn] at h⟩

theorem writeArgument_runs {this parent : Nat} {n : Name} {sc : EmitScope} {s s' : EmitState}
    {u : Unit} (h : (writeArgument this parent n).Runs sc s u s') :
    s'.last = s.last ∧ ∃ b, s'.blocks = s.blocks ++ [b] ∧ b.id = this ∧ b.refs = [] ∧
      b.parent = parent ∧ b.topLevel = false ∧ b.Shaped := by
  unfold writeArgument at h
  obtain ⟨sc', s₁, h₁, h₂⟩ := runs_bind.1 h
  obtain ⟨rfl, rfl⟩ := runs_read.1 h₁
  -- the findings about the argument's name are reported, then the reporter is written
  obtain ⟨v, s₃, hl₃, hb₃, h₃⟩ : ∃ v s₃, s₃.last = s₁.last ∧ s₃.blocks = s₁.blocks ∧
      (writeNode
        { opcode := Opcode.argReporter, id := this, parent := parent,
          fields := fieldValue "VALUE" v } >>= fun _ => pure ()).Runs sc' s₃ u s' := by
    dsimp only at h₂
    repeat' split at h₂
    all_goals try simp only [pure_bind] at h₂
    all_goals first
      | exact ⟨_, _, rfl, rfl, h₂⟩
      | obtain ⟨_, s₄, h₄, h₅⟩ := runs_bind.1 h₂
        obtain rfl := runs_push.1 h₄
        refine ⟨_, _, ?_, ?_, h₅⟩
        · rfl
        · exact EmitState.blocks_push_report ..
  have hspec : NodeSpec.Writable
      { opcode := Opcode.argReporter, id := this, parent := parent, fields := fieldValue "VALUE" v } :=
    ⟨Or.inr (value_fieldValue _ _), Or.inl rfl⟩
  obtain ⟨-, hlast, b, hblocks, hid, hrefs, hpar, htop, hsh⟩ := writeLeaf_runs rfl rfl rfl hspec h₃
  exact ⟨hlast.trans hl₃, b, hblocks.trans (by rw [hb₃]), hid, hrefs, hpar, htop, hsh⟩

theorem emitExpr_args_spec : (∀ field this parent e, ExprSpec field this parent e) ∧
    ∀ p used this slots args ids, ArgsSpec p used this slots args ids := by
  refine emitExpr.mutual_induct ExprSpec ArgsSpec ?int ?float ?str ?name ?accessor ?arg ?repr
    ?sugar1 ?unop ?binop ?argsEmit ?argsSkip ?argsEnd
  case int => exact fun _ _ _ _ _ => ExprSpec.of_inline (by simp only [emitExpr]) rfl
  case float => exact fun _ _ _ _ _ => ExprSpec.of_inline (by simp only [emitExpr]) rfl
  case str => exact fun _ _ _ _ _ => ExprSpec.of_inline (by simp only [emitExpr]) rfl
  case name => exact fun _ _ _ _ => ExprSpec.of_inline (by simp only [emitExpr]) rfl
  case accessor => exact fun _ _ _ _ _ _ _ => ExprSpec.of_inline (by simp only [emitExpr]) rfl
  case arg =>
    intro field this parent n _ sc s s' h hthis
    simp only [emitExpr] at h
    obtain ⟨hlast, b, hblocks, hid, hrefs, hpar, htop, hsh⟩ := writeArgument_runs h
    refine ⟨[b], hblocks, by omega, ?_, fun _ => ⟨b, List.mem_singleton_self b, hid, hpar⟩⟩
    rw [hlast, ← hid]
    exact Fragment.leaf hrefs hpar htop hsh
  case repr =>
    intro field this parent p args span ih hprims sc s s' h hthis
    simp only [emitExpr] at h
    obtain ⟨r, s₁, h₁, h₂⟩ := runs_bind.1 h
    have hp : p.Writable := hprims p (by simp [Expr.primitives])
    obtain ⟨b, R, hblocks, hle, hid, hpar, hnext, -, hover⟩ := primitive_over hp h₁ (ih r.1 r.2)
      (fun q hq => hprims q (by simp [Expr.primitives, hq])) h₂
    have hfrag := hover.toFragment hnext (hid ▸ hthis)
    rw [hid, hpar] at hfrag
    exact ⟨b :: R, hblocks, hle, hfrag, fun _ => ⟨b, List.mem_cons_self, hid, hpar⟩⟩
  case sugar1 =>
    intro field this parent op operand span hsugar _ _ sc s s' h _
    simp only [emitExpr] at h
    rw [runs_guard] at h
    exact absurd hsugar h.1
  case unop =>
    intro field this parent op operand span hsugar ih hprims sc s s' h hthis
    simp only [emitExpr] at h
    rw [runs_guard] at h
    obtain ⟨-, h⟩ := h
    obtain ⟨r, s₁, h₁, h₂⟩ := runs_bind.1 h
    obtain ⟨hr, -, -⟩ := writeNode_slots rfl h₁
    have hr' : r.1 = [s.last + 1] := hr
    obtain ⟨T, hblocks, hle, hT, hadopt⟩ := ih r.1 (by simpa [Expr.primitives] using hprims) h₂
      (by simp [hr', (writeNode_slots rfl h₁).2.2.1])
    rw [hr'] at hT hadopt
    obtain ⟨B, hB, hle', hfrag, hadoptB⟩ := exprNode_spec h₁ rfl rfl rfl
      ⟨opFields_writable op, Or.inl rfl⟩ hthis hblocks hle
      (by rw [hr']; exact hT) (by simpa [hr', Slot.needsBlock] using hadopt)
    exact ⟨B, hB, hle', hfrag, fun _ => hadoptB⟩
  case binop =>
    intro field this parent op lhs rhs span ihr ihl ihr₂ hprims sc s s' h hthis
    have hpl : ∀ p ∈ lhs.primitives, p.Writable :=
      fun p hp => hprims p (by simp [Expr.primitives, hp])
    have hpr : ∀ p ∈ rhs.primitives, p.Writable :=
      fun p hp => hprims p (by simp [Expr.primitives, hp])
    simp only [emitExpr] at h
    obtain ⟨sc', s₀, h₀, hrun⟩ := runs_bind.1 h
    obtain ⟨rfl, rfl⟩ := runs_read.1 h₀
    clear h
    split at hrun
    · -- the item of a list: one slot, the index
      obtain ⟨r, s₁, h₁, h₂⟩ := runs_bind.1 hrun
      obtain ⟨hr, -, hlast, -⟩ := writeNode_slots rfl h₁
      have hr' : r.1 = [s₀.last + 1] := hr
      obtain ⟨T, hblocks, hle, hT, hadopt⟩ := ihr r.1 hpr h₂ (by simp [hr', hlast])
      rw [hr'] at hT hadopt
      obtain ⟨B, hB, hle', hfrag, hadoptB⟩ := exprNode_spec h₁ rfl rfl rfl
        ⟨Or.inr (value_fieldRef _ _), Or.inl rfl⟩ hthis hblocks hle
        (by rw [hr']; exact hT) (by simpa [hr', Slot.needsBlock] using hadopt)
      exact ⟨B, hB, hle', hfrag, fun _ => hadoptB⟩
    · -- an operator: two slots
      rw [runs_guard] at hrun
      obtain ⟨-, hrun⟩ := hrun
      obtain ⟨r, s₁, h₁, h₂⟩ := runs_bind.1 hrun
      obtain ⟨u, s₂, h₃, h₄⟩ := runs_bind.1 h₂
      obtain ⟨hr, -, hlast, -⟩ := writeNode_slots rfl h₁
      have hr' : r.1 = [s₀.last + 1, s₀.last + 2] := hr
      have hlast' : s₁.last = s₀.last + 2 := hlast
      obtain ⟨T₁, hblocks₁, hle₁, hT₁, hadopt₁⟩ := ihl r.1 hpl h₃ (by simp [hr', hlast'])
      obtain ⟨T₂, hblocks₂, hle₂, hT₂, hadopt₂⟩ := ihr₂ r.1 hpr h₄ (by simp [hr']; omega)
      rw [hr'] at hT₁ hadopt₁ hT₂ hadopt₂
      have hF : Fragment r.1 this s₁.last s'.last (T₁ ++ T₂) := by
        rw [hr']
        exact Fragment.append hT₁ hT₂ (by simp [hlast]) hle₁ hle₂ (by simp)
      obtain ⟨B, hB, hle', hfrag, hadoptB⟩ := exprNode_spec h₁ rfl rfl rfl
        ⟨Or.inl rfl, Or.inl rfl⟩ hthis (by rw [hblocks₂, hblocks₁, List.append_assoc]) (by omega) hF (by
          intro p hp hneed
          simp only [hr', List.zip_cons_cons, List.zip_nil_right, List.mem_cons, List.mem_nil_iff,
            or_false] at hp
          rcases hp with rfl | rfl
          · exact (hadopt₁ hneed).append_left T₂
          · exact (hadopt₂ hneed).append_right T₁)
      exact ⟨B, hB, hle', hfrag, fun _ => hadoptB⟩
  case argsEmit =>
    intro p used this slot slots arg args id ids hemit ihs iha hprims sc s s' h hnodup hle
    simp only [emitPrimitiveArgs, hemit, if_true] at h
    obtain ⟨u, s₁, h₁, h₂⟩ := runs_bind.1 h
    simp only [Expr.primitivesOf, List.mem_append] at hprims
    obtain ⟨T, hblocks₁, hle₁, hT, hadoptT⟩ := iha (fun q hq => hprims q (Or.inl hq)) h₁
      (hle id List.mem_cons_self)
    obtain ⟨F, hblocks₂, hle₂, hF, hadoptF⟩ := ihs (fun q hq => hprims q (Or.inr hq)) h₂
      (List.nodup_cons.1 hnodup).2
      (fun i hi => Nat.le_trans (hle i (List.mem_cons_of_mem id hi)) hle₁)
    refine ⟨T ++ F, by rw [hblocks₂, hblocks₁, List.append_assoc], by omega,
      Fragment.append hT hF (fun i hi => hle i (by simpa using hi)) hle₁ hle₂
        (by simpa using (List.nodup_cons.1 hnodup).1), ?_⟩
    intro t ht hneed hused
    rcases List.mem_cons.1 ht with rfl | ht
    · exact (hadoptT hneed).append_left F
    · exact (hadoptF t ht hneed hused).append_right T
  case argsSkip =>
    intro p used this slot slots arg args id ids hskip ihs hprims sc s s' h hnodup hle
    simp only [emitPrimitiveArgs, hskip] at h
    simp only [Expr.primitivesOf, List.mem_append] at hprims
    obtain ⟨F, hblocks, hle', hF, hadoptF⟩ := ihs (fun q hq => hprims q (Or.inr hq)) h
      (List.nodup_cons.1 hnodup).2 (fun i hi => hle i (List.mem_cons_of_mem id hi))
    refine ⟨F, hblocks, hle', hF.widen (fun i hi => Or.inl (List.mem_cons_of_mem id hi))
      (Nat.le_refl _), ?_⟩
    intro t ht hneed hused
    rcases List.mem_cons.1 ht with rfl | ht
    · simp [hused] at hskip
    · exact hadoptF t ht hneed hused
  case argsEnd =>
    intro xs p used this slots ids hend hprims sc s s' h hnodup hle
    have hzip : (slots.zip xs).zip ids = [] := by
      rcases slots with _ | ⟨slot, slots⟩
      · simp
      rcases xs with _ | ⟨arg, args⟩
      · simp
      rcases ids with _ | ⟨id, ids⟩
      · simp
      exact (hend slot slots arg args id ids rfl rfl rfl).elim
    have hpure : emitPrimitiveArgs p used this slots xs ids = pure () := by
      rcases slots with _ | ⟨slot, slots⟩
      · simp only [emitPrimitiveArgs]
      rcases xs with _ | ⟨arg, args⟩
      · simp only [emitPrimitiveArgs]
      rcases ids with _ | ⟨id, ids⟩
      · simp only [emitPrimitiveArgs]
      exact (hend slot slots arg args id ids rfl rfl rfl).elim
    rw [hpure, runs_pure] at h
    obtain ⟨-, rfl⟩ := h
    exact ⟨[], by simp, Nat.le_refl _, Fragment.nil, by simp [hzip]⟩

theorem emitExpr_spec (field : String) (this parent : Nat) (e : Expr) :
    ExprSpec field this parent e :=
  emitExpr_args_spec.1 field this parent e

theorem emitPrimitiveArgs_spec (p : Primitive) (used : Bool) (this : Nat) (slots : List String)
    (args : List Expr) (ids : List Nat) : ArgsSpec p used this slots args ids :=
  emitExpr_args_spec.2 p used this slots args ids

/-- The primitives of an optional expression can be written. -/
def PrimsWritable (v : Option Expr) : Prop := ∀ e ∈ v, ∀ p ∈ e.primitives, p.Writable

theorem emitSlotValue_spec {field : String} {this parent : Nat} {v : Option Expr}
    (hp : PrimsWritable v) {sc : EmitScope} {s s' : EmitState}
    (h : (emitSlotValue field this parent v).Runs sc s () s') (hthis : this ≤ s.last) :
    ∃ B, s'.blocks = s.blocks ++ B ∧ s.last ≤ s'.last ∧
      Fragment [this] parent s.last s'.last B ∧
      (v.any Expr.needsBlock = true → Adopts B parent this) := by
  cases v with
  | none =>
    rw [emitSlotValue, runs_pure] at h
    obtain ⟨-, rfl⟩ := h
    exact ⟨[], by simp, Nat.le_refl _, Fragment.nil, by simp⟩
  | some e =>
    rw [emitSlotValue] at h
    exact emitExpr_spec field this parent e (hp e rfl) h hthis

theorem emitSlots_spec {parent : Nat} {sc : EmitScope} :
    ∀ {sls : List Slot} {ids : List Nat} {s s' : EmitState}, (∀ sl ∈ sls, PrimsWritable sl.value) →
      (emitSlots parent sls ids).Runs sc s () s' → ids.Nodup → (∀ i ∈ ids, i ≤ s.last) →
        ∃ B, s'.blocks = s.blocks ++ B ∧ s.last ≤ s'.last ∧ Fragment ids parent s.last s'.last B ∧
          ∀ p ∈ sls.zip ids, p.1.needsBlock = true → Adopts B parent p.2
  | sl :: sls, id :: ids, s, s', hp, h, hnodup, hle => by
    rw [emitSlots] at h
    obtain ⟨u, s₁, h₁, h₂⟩ := runs_bind.1 h
    obtain ⟨T, hblocks₁, hle₁, hT, hadoptT⟩ :=
      emitSlotValue_spec (hp sl List.mem_cons_self) h₁ (hle id List.mem_cons_self)
    obtain ⟨F, hblocks₂, hle₂, hF, hadoptF⟩ :=
      emitSlots_spec (fun sl' h' => hp sl' (List.mem_cons_of_mem sl h')) h₂
        (List.nodup_cons.1 hnodup).2
        (fun i hi => Nat.le_trans (hle i (List.mem_cons_of_mem id hi)) hle₁)
    refine ⟨T ++ F, by rw [hblocks₂, hblocks₁, List.append_assoc], by omega,
      Fragment.append hT hF (fun i hi => hle i (by simpa using hi)) hle₁ hle₂
        (by simpa using (List.nodup_cons.1 hnodup).1), ?_⟩
    intro p hp' hneed
    rcases List.mem_cons.1 hp' with rfl | hp'
    · exact (hadoptT hneed).append_left F
    · exact (hadoptF p hp' hneed).append_right T
  | [], _, s, s', _, h, _, _ => by
    simp only [emitSlots, runs_pure] at h
    obtain ⟨-, rfl⟩ := h
    exact ⟨[], by simp, Nat.le_refl _, Fragment.nil, by simp⟩
  | _ :: _, [], s, s', _, h, _, _ => by
    simp only [emitSlots, runs_pure] at h
    obtain ⟨-, rfl⟩ := h
    exact ⟨[], by simp, Nat.le_refl _, Fragment.nil, by simp⟩

end BlockGraph.Graph
