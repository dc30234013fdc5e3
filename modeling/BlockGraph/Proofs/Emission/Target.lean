import BlockGraph.Proofs.Emission.Stmt
import Mathlib.Data.List.Forall2

namespace BlockGraph

/-- The scripts of a sprite in the order they are written, each with the opcode of its first
block: the events in order, then the handlers by message, then the procedures by name. -/
def Sprite.scripts (t : Sprite) : List (String × List Stmt) :=
  t.events.map (fun ev => (ev.hat.opcode, ev.body)) ++
    t.sortedHandlers.map (fun h => (Opcode.whenBroadcastReceived, h.body)) ++
    t.sortedProcs.map (fun p => (Opcode.procDefinition, p.body))

/-- Every primitive that the scripts of a sprite apply can be written. -/
def Sprite.Writable (t : Sprite) : Prop := ∀ b ∈ t.scripts, ∀ p ∈ Stmt.primitivesOf b.2, p.Writable

namespace Graph

open EmitM

/-- The blocks of whole scripts written after id `lo` and up to `hi`: distinct ids in that
range, every reference adopted among them, parents written first (the first block of a script
having none and being top level), and every block written as JSON. -/
structure ScriptBlocks (lo hi : Nat) (G : List Block) : Prop where
  ids : ∀ b ∈ G, lo < b.id ∧ b.id ≤ hi
  nodup : (G.map Block.id).Nodup
  adopted : ∀ b ∈ G, ∀ i ∈ b.refs, Adopts G b.id i
  parents : ParentsBefore [] G
  shaped : ∀ b ∈ G, b.Shaped

namespace ScriptBlocks

variable {lo m hi : Nat}

theorem nil : ScriptBlocks lo hi [] where
  ids := by simp
  nodup := List.nodup_nil
  adopted := by simp
  parents := trivial
  shaped := by simp

theorem append {G₁ G₂ : List Block} (h₁ : ScriptBlocks lo m G₁) (h₂ : ScriptBlocks m hi G₂)
    (hm : lo ≤ m) (hhi : m ≤ hi) : ScriptBlocks lo hi (G₁ ++ G₂) where
  ids b hb := by
    rcases List.mem_append.1 hb with hb | hb
    · have := h₁.ids b hb
      omega
    · have := h₂.ids b hb
      omega
  nodup := by
    rw [List.map_append, List.nodup_append]
    refine ⟨h₁.nodup, h₂.nodup, ?_⟩
    simp only [List.mem_map]
    rintro _ ⟨b₁, hb₁, rfl⟩ _ ⟨b₂, hb₂, rfl⟩
    have := h₁.ids b₁ hb₁
    have := h₂.ids b₂ hb₂
    omega
  adopted b hb i hi := by
    rcases List.mem_append.1 hb with hb | hb
    · exact (h₁.adopted b hb i hi).append_left G₂
    · exact (h₂.adopted b hb i hi).append_right G₁
  parents := h₁.parents.append h₂.parents
  shaped b hb := by
    rcases List.mem_append.1 hb with hb | hb
    · exact h₁.shaped b hb
    · exact h₂.shaped b hb

theorem head {hat : Block} {F : List Block} {lo' : Nat} (hF : Fragment [] hat.id lo hi F)
    (hrefs : ∀ i ∈ hat.refs, Adopts F hat.id i) (hparent : hat.parent = 0)
    (htop : hat.topLevel = true) (hshaped : hat.Shaped) (hid : lo' < hat.id)
    (hle : hat.id ≤ lo) (hhi : lo ≤ hi) : ScriptBlocks lo' hi (hat :: F) where
  ids b hb := by
    rcases List.mem_cons.1 hb with rfl | hb
    · omega
    · have := hF.ids b hb
      simp only [List.not_mem_nil, false_or] at this
      omega
  nodup := by
    rw [List.map_cons, List.nodup_cons]
    refine ⟨fun hmem => ?_, hF.nodup⟩
    obtain ⟨b, hb, hbid⟩ := List.mem_map.1 hmem
    have := hF.ids b hb
    simp only [List.not_mem_nil, false_or] at this
    omega
  adopted b hb i hi := by
    rcases List.mem_cons.1 hb with rfl | hb
    · exact (hrefs i hi).cons b
    · exact (hF.adopted b hb i hi).cons hat
  parents := ⟨Or.inr ⟨hparent, htop⟩, hF.parents⟩
  shaped b hb := by
    rcases List.mem_cons.1 hb with rfl | hb
    · exact hshaped
    · exact hF.shaped b hb

theorem parent_first {G : List Block} (h : ScriptBlocks lo hi G) {pre post : List Block} {b : Block}
    (hG : G = pre ++ b :: post) (hparent : b.parent ≠ 0) : ∃ c ∈ pre, c.id = b.parent := by
  subst hG
  rcases h.parents.parent_before with h' | ⟨h0, -⟩ | h'
  · cases h'
  · exact absurd h0 hparent
  · exact h'

theorem topLevel_of_parent_eq_zero {G : List Block} (h : ScriptBlocks lo hi G) {b : Block} (hb : b ∈ G)
    (hparent : b.parent = 0) : b.topLevel = true := by
  obtain ⟨pre, post, rfl⟩ := List.append_of_mem hb
  rcases h.parents.parent_before with h' | ⟨-, htop⟩ | ⟨c, hc, hcid⟩
  · cases h'
  · exact htop
  · -- no block has id 0, so none is the parent
    have := h.ids c (List.mem_append_left _ hc)
    omega

end ScriptBlocks

/-- The scripts `scripts`, each an opcode and a body, are written in `G` in order: the
top-level blocks of `G` have the scripts' opcodes, and each body is a chain from its top-level
block's `next`. -/
def ScriptsIn (G : List Block) (scripts : List (String × List Stmt)) : Prop :=
  List.Forall₂ (fun hat sc => hat.opcode = sc.1 ∧ ChainFrom G hat.next? sc.2)
    (G.filter (·.topLevel)) scripts

/-- Whole scripts written after id `lo` and up to `hi`, for the scripts `scripts`. -/
def ScriptsWrote (lo hi : Nat) (scripts : List (String × List Stmt)) (G : List Block) : Prop :=
  ScriptBlocks lo hi G ∧ ScriptsIn G scripts

theorem ScriptsWrote.nil {lo hi : Nat} : ScriptsWrote lo hi [] [] :=
  ⟨ScriptBlocks.nil, List.Forall₂.nil⟩

theorem ScriptsIn.append {G₁ G₂ : List Block} {sc₁ sc₂ : List (String × List Stmt)}
    (h₁ : ScriptsIn G₁ sc₁) (h₂ : ScriptsIn G₂ sc₂) : ScriptsIn (G₁ ++ G₂) (sc₁ ++ sc₂) := by
  unfold ScriptsIn at *
  rw [List.filter_append]
  refine List.rel_append (h₁.imp fun hat sc ⟨hop, hc⟩ => ⟨hop, ?_⟩)
    (h₂.imp fun hat sc ⟨hop, hc⟩ => ⟨hop, ?_⟩)
  · exact hc.mono (List.subset_append_left G₁ G₂)
  · exact hc.mono (List.subset_append_right G₁ G₂)

theorem ScriptsWrote.append {lo m hi : Nat} {sc₁ sc₂ : List (String × List Stmt)}
    {G₁ G₂ : List Block} (h₁ : ScriptsWrote lo m sc₁ G₁) (h₂ : ScriptsWrote m hi sc₂ G₂)
    (hm : lo ≤ m) (hhi : m ≤ hi) : ScriptsWrote lo hi (sc₁ ++ sc₂) (G₁ ++ G₂) :=
  ⟨h₁.1.append h₂.1 hm hhi, h₁.2.append h₂.2⟩

theorem ScriptsWrote.script {hat : Block} {F : List Block} {lo lo' hi : Nat} {op : String}
    {body : List Stmt} (hF : Fragment [] hat.id lo hi F) (hrefs : ∀ i ∈ hat.refs, Adopts F hat.id i)
    (hparent : hat.parent = 0) (htop : hat.topLevel = true) (hshaped : hat.Shaped)
    (hid : lo' < hat.id) (hle : hat.id ≤ lo) (hhi : lo ≤ hi) (hop : hat.opcode = op)
    (hchain : ChainFrom F hat.next? body) : ScriptsWrote lo' hi [(op, body)] (hat :: F) := by
  refine ⟨ScriptBlocks.head hF hrefs hparent htop hshaped hid hle hhi, ?_⟩
  unfold ScriptsIn
  have hinner : F.filter (·.topLevel) = [] := List.filter_eq_nil_iff.2 fun b hb => by
    simp [hF.inner b hb]
  rw [List.filter_cons_of_pos htop, hinner]
  exact List.Forall₂.cons ⟨hop, hchain.mono (List.subset_cons_self hat F)⟩ List.Forall₂.nil

theorem emitScript_wrote {op fields : String} {stmts : List Stmt}
    (hfields : fields = "" ∨ Json.Grammar.Value fields.toList)
    (hprims : ∀ p ∈ Stmt.primitivesOf stmts, p.Writable) {sc : EmitScope} {s s' : EmitState}
    (h : (emitScript op fields stmts).Runs sc s () s') :
    ∃ G, s'.blocks = s.blocks ++ G ∧ s.last ≤ s'.last ∧
      ScriptsWrote s.last s'.last [(op, stmts)] G := by
  unfold emitScript at h
  obtain ⟨hatId, s₁, h₁, hr₁⟩ := runs_bind.1 h
  obtain ⟨hhat, hl₁, hb₁⟩ := runs_fresh_state h₁
  obtain ⟨⟨⟩, s₂, h₂, hr₂⟩ := runs_bind.1 hr₁
  obtain ⟨hl₂, hb₂⟩ := runs_push_scriptStart h₂
  obtain ⟨ids, s₃, h₃, hr₃⟩ := runs_bind.1 hr₂
  obtain ⟨hids, hl₃, hb₃⟩ := runs_take_state h₃
  obtain ⟨r, s₄, h₄, h₅⟩ := runs_bind.1 hr₃
  obtain ⟨hl₄, hat, hb₄, hb, hrefs⟩ := writeNode_leaf rfl rfl h₄
  rw [emitBody] at h₅
  have hrange : ∀ i ∈ ids, s₁.last < i ∧ i ≤ s₁.last + stmts.length := by
    intro i hi
    rw [hids, hl₂, List.mem_range'_1] at hi
    omega
  obtain ⟨C, hC₁, hC₂, hC, hCa, hCc⟩ := emitChain_spec stmts ids hatId hprims h₅
    (by simp [hids]) (hids ▸ List.nodup_range')
    (fun i hi => by have := hrange i hi; omega)
  have hid : hat.id = s.last + 1 := hb.id.trans hhat
  have hnext : hat.next? = ids.head? :=
    Block.next?_eq_head? hb.next fun i hi => by have := hrange i hi; omega
  have hF : Fragment [] hat.id s₁.last s'.last C := by
    rw [hb.id]
    refine hC.widen (fun i hi => Or.inr ?_) (by omega)
    have := hrange i hi
    omega
  refine ⟨hat :: C, by rw [hC₁, hb₄, hb₃, hb₂, hb₁]; simp, by omega,
    ScriptsWrote.script hF ?_ hb.parent hb.topLevel (hb.shaped ⟨hfields, Or.inl rfl⟩) (by omega)
      (by omega) (by omega)
      hb.opcode (hnext ▸ hCc)⟩
  intro i hi
  rw [Block.refs_eq, hnext, hrefs, List.append_nil] at hi
  rw [hb.id]
  exact hCa i (by simpa using hi)

theorem reporters_wrote {sc : EmitScope} {protoId : Nat} :
    ∀ {L : List (Param × Nat)} {s s' : EmitState},
      (forIn L PUnit.unit fun x _ => match x with
        | (q, rid) => do
          let _ ← writeNode
            { opcode := Opcode.argReporter, id := rid, parent := protoId, shadow := true,
              fields := fieldValue "VALUE" q.name }
          pure (ForInStep.yield PUnit.unit) : EmitM PUnit).Runs sc s () s' →
      s'.last = s.last ∧ ∃ Rs, s'.blocks = s.blocks ++ Rs ∧ Rs.map Block.id = L.map Prod.snd ∧
        ∀ b ∈ Rs, b.parent = protoId ∧ b.refs = [] ∧ b.topLevel = false ∧ b.Shaped
  | [], s, s', h => by
    rw [List.forIn_nil, runs_pure] at h
    obtain ⟨-, rfl⟩ := h
    exact ⟨rfl, [], by simp, rfl, by simp⟩
  | (q, rid) :: L, s, s', h => by
    rw [List.forIn_cons] at h
    obtain ⟨step, s₁, h₁, h₂⟩ := runs_bind.1 h
    have hspec : NodeSpec.Writable
        { opcode := Opcode.argReporter, id := rid, parent := protoId, shadow := true,
          fields := fieldValue "VALUE" q.name } := ⟨Or.inr (value_fieldValue _ _), Or.inl rfl⟩
    obtain ⟨rfl, hl₁, b, hb₁, hbid, hbrefs, hbpar, hbtop, hbsh⟩ := writeLeaf_runs rfl rfl rfl hspec h₁
    obtain ⟨hl₂, Rs, hb₂, hids, hRs⟩ := reporters_wrote h₂
    refine ⟨hl₂.trans hl₁, b :: Rs, by rw [hb₂, hb₁]; simp, by simp [hbid, hids], ?_⟩
    intro c hc
    rcases List.mem_cons.1 hc with rfl | hc
    · exact ⟨hbpar, hbrefs, hbtop, hbsh⟩
    · exact hRs c hc

theorem emitProcDef_wrote {p : Proc} (hprims : ∀ q ∈ Stmt.primitivesOf p.body, q.Writable)
    {sc : EmitScope} {s s' : EmitState} (h : (emitProcDef p).Runs sc s () s') :
    ∃ G, s'.blocks = s.blocks ++ G ∧ s.last ≤ s'.last ∧
      ScriptsWrote s.last s'.last [(Opcode.procDefinition, p.body)] G := by
  unfold emitProcDef at h
  rw [runs_withReader] at h
  obtain ⟨sc', s₀, h₀, hr₀⟩ := runs_bind.1 h
  obtain ⟨rfl, rfl⟩ := runs_read.1 h₀
  clear h
  obtain ⟨defId, s₁, h₁, hr₁⟩ := runs_bind.1 hr₀
  obtain ⟨hdef, hl₁, hb₁⟩ := runs_fresh_state h₁
  obtain ⟨⟨⟩, s₂, h₂, hr₂⟩ := runs_bind.1 hr₁
  obtain ⟨hl₂, hb₂⟩ := runs_push_scriptStart h₂
  obtain ⟨protoId, s₃, h₃, hr₃⟩ := runs_bind.1 hr₂
  obtain ⟨hproto, hl₃, hb₃⟩ := runs_fresh_state h₃
  obtain ⟨reporterIds, s₄, h₄, hr₄⟩ := runs_bind.1 hr₃
  obtain ⟨hrep, hl₄, hb₄⟩ := runs_take_state h₄
  obtain ⟨bodyIds, s₅, h₅, hr₅⟩ := runs_bind.1 hr₄
  obtain ⟨hbody, hl₅, hb₅⟩ := runs_take_state h₅
  obtain ⟨y, s₆, h₆, hr₆⟩ := runs_bind.1 hr₅
  obtain ⟨hl₆, hb₆⟩ := runs_place_state h₆
  obtain ⟨⟨⟩, s₇, h₇, hr₇⟩ := runs_bind.1 hr₆
  obtain ⟨hl₇, hb₇⟩ := runs_push_block h₇
  obtain ⟨⟨⟩, s₈, h₈, hr₈⟩ := runs_bind.1 hr₇
  obtain ⟨hl₈, hb₈⟩ := runs_push_block h₈
  obtain ⟨⟨⟩, s₉, h₉, h₁₀⟩ := runs_bind.1 hr₈
  obtain ⟨hl₉, Rs, hb₉, hRsids, hRs⟩ := reporters_wrote h₉
  rw [emitBody] at h₁₀
  -- the ids taken: the definition's, the prototype's, the reporters', then the body's
  have hrlen : reporterIds.length = (params { sc with proc := some p } p).length := by
    simp [hrep]
  rw [List.map_snd_zip (by omega)] at hRsids
  have hrrange : ∀ i ∈ reporterIds, s₃.last < i ∧ i ≤ s₄.last := by
    intro i hi
    rw [hrep, List.mem_range'_1] at hi
    omega
  have hbrange : ∀ i ∈ bodyIds, s₄.last < i ∧ i ≤ s₉.last := by
    intro i hi
    rw [hbody, List.mem_range'_1] at hi
    omega
  -- the definition and the prototype, as far as the graph goes
  obtain ⟨D, hD, hDid, hDpar, hDnext, hDtop, hDop, hDrefs, hDsh⟩ : ∃ D : Block,
      s₇.blocks = s₆.blocks ++ [D] ∧ D.id = defId ∧ D.parent = 0 ∧ D.next = bodyIds.headD 0 ∧
        D.topLevel = true ∧ D.opcode = Opcode.procDefinition ∧ D.inputRefs = [protoId] ∧
        D.Shaped :=
    ⟨_, hb₇, rfl, rfl, rfl, rfl, rfl, rfl,
      ⟨by simp [InputValue.Writable, Input.Writable], value_emptyObject, Or.inl rfl, by simp⟩⟩
  obtain ⟨P, hP, hPid, hPpar, hPnext, hPtop, hPrefs, hPsh⟩ : ∃ P : Block,
      s₈.blocks = s₇.blocks ++ [P] ∧ P.id = protoId ∧ P.parent = defId ∧ P.next = 0 ∧
        P.topLevel = false ∧ P.inputRefs = reporterIds ∧ P.Shaped := by
    refine ⟨_, hb₈, rfl, rfl, rfl, rfl, ?_,
      ⟨?_, value_emptyObject, Or.inr (value_prototypeMutation _ _),
        fun h => absurd h Bool.false_ne_true⟩⟩
    · simp only [Block.inputRefs, List.flatMap_map]
      show List.flatMap (fun a : Param × Nat => [a.2]) _ = _
      rw [← List.map_eq_flatMap, List.map_snd_zip (by omega)]
    · simp only [List.mem_map]
      rintro i ⟨⟨q, rid⟩, -, rfl⟩
      exact ⟨trivial, by simp⟩
  obtain ⟨C, hC₁, hC₂, hC, hCa, hCc⟩ := emitChain_spec p.body bodyIds defId hprims h₁₀
    (by simp [hbody]) (hbody ▸ List.nodup_range') (fun i hi => by have := hbrange i hi; omega)
  -- the reporters under the prototype; the prototype and the body under the definition
  have hR : Fragment reporterIds P.id s₉.last s₉.last Rs :=
    hPid ▸ Fragment.leaves hRs hRsids (hrep ▸ List.nodup_range')
  have hPrefs' : ∀ i ∈ P.refs, Adopts Rs P.id i := by
    intro i hi
    rw [Block.refs_eq, (Block.next?_eq_none_iff P).2 hPnext, hPrefs, ← hRsids] at hi
    obtain ⟨b, hb, rfl⟩ := List.mem_map.1 (by simpa using hi)
    exact ⟨b, hb, rfl, (hRs b hb).1.trans hPid.symm⟩
  have hPR := Fragment.cons hR hPrefs' hPpar hPtop hPsh
    (by rw [hPid]; exact fun h => by have := hrrange _ h; omega) (by omega)
  rw [hPid] at hPR
  have hF : Fragment [] D.id s₁.last s'.last (P :: Rs ++ C) := by
    have hPRC := Fragment.append hPR hC (fun i hi => ?_) (Nat.le_refl _) hC₂ (fun i hi hi' => ?_)
    · rw [hDid]
      refine hPRC.widen (fun i hi => Or.inr ?_) (by omega)
      simp only [List.cons_append, List.mem_cons, List.mem_append] at hi
      rcases hi with rfl | hi | hi
      · omega
      · have := hrrange i hi
        omega
      · have := hbrange i hi
        omega
    · simp only [List.cons_append, List.mem_cons, List.mem_append] at hi
      rcases hi with rfl | hi | hi
      · omega
      · have := hrrange i hi
        omega
      · have := hbrange i hi
        omega
    · have := hbrange i hi'
      rcases List.mem_cons.1 hi with rfl | hi
      · omega
      · have := hrrange i hi
        omega
  have hDnext' : D.next? = bodyIds.head? :=
    Block.next?_eq_head? hDnext fun i hi => by have := hbrange i hi; omega
  have hDrefs' : ∀ i ∈ D.refs, Adopts (P :: Rs ++ C) D.id i := by
    intro i hi
    rw [Block.refs_eq, hDnext', hDrefs, List.mem_append, List.mem_singleton] at hi
    rcases hi with hi | rfl
    · rw [hDid]
      exact ((hCa i (by simpa using hi)).append_right (P :: Rs))
    · exact ⟨P, List.mem_cons_self, hPid, hPpar.trans hDid.symm⟩
  refine ⟨D :: (P :: Rs ++ C), ?_, by omega,
    ScriptsWrote.script hF hDrefs' hDpar hDtop hDsh (by omega) (by omega) (by omega) hDop ?_⟩
  · rw [hC₁, hb₉, hP, hD, hb₆, hb₅, hb₄, hb₃, hb₂, hb₁]
    simp
  · rw [hDnext']
    exact hCc.mono (List.subset_append_right _ _)

theorem forIn_scripts_wrote {γ : Type} {f : γ → EmitM Unit} {g : γ → String × List Stmt}
    {sc : EmitScope} :
    ∀ {xs : List γ} {s s' : EmitState},
      (∀ x ∈ xs, ∀ ⦃s s' : EmitState⦄, (f x).Runs sc s () s' →
        ∃ G, s'.blocks = s.blocks ++ G ∧ s.last ≤ s'.last ∧ ScriptsWrote s.last s'.last [g x] G) →
      (forIn xs PUnit.unit fun x _ => do
        f x
        pure (ForInStep.yield PUnit.unit) : EmitM PUnit).Runs sc s () s' →
      ∃ G, s'.blocks = s.blocks ++ G ∧ s.last ≤ s'.last ∧ ScriptsWrote s.last s'.last (xs.map g) G
  | [], s, s', _, h => by
    rw [List.forIn_nil, runs_pure] at h
    obtain ⟨-, rfl⟩ := h
    exact ⟨[], by simp, Nat.le_refl _, ScriptsWrote.nil⟩
  | x :: xs, s, s', hf, h => by
    rw [List.forIn_cons] at h
    obtain ⟨step, s₁, h₁, h₂⟩ := runs_bind.1 h
    obtain ⟨⟨⟩, s₀, h₀, hp⟩ := runs_bind.1 h₁
    obtain ⟨rfl, rfl⟩ := runs_pure.1 hp
    obtain ⟨G₁, hG₁, hle₁, hw₁⟩ := hf x List.mem_cons_self h₀
    obtain ⟨G₂, hG₂, hle₂, hw₂⟩ :=
      forIn_scripts_wrote (fun y hy => hf y (List.mem_cons_of_mem x hy)) h₂
    exact ⟨G₁ ++ G₂, by rw [hG₂, hG₁, List.append_assoc], by omega, hw₁.append hw₂ hle₁ hle₂⟩

theorem emitEvent_wrote {ev : Event} (hprims : ∀ p ∈ Stmt.primitivesOf ev.body, p.Writable)
    {sc : EmitScope} {s s' : EmitState} (h : (emitEvent ev).Runs sc s () s') :
    ∃ G, s'.blocks = s.blocks ++ G ∧ s.last ≤ s'.last ∧
      ScriptsWrote s.last s'.last [(ev.hat.opcode, ev.body)] G := by
  unfold emitEvent at h
  dsimp only at h
  rw [runs_guard] at h
  refine emitScript_wrote ?_ hprims h.2
  split
  · exact Or.inl rfl
  · exact Or.inr (value_fieldValue _ _)

theorem emitScripts_wrote {t : Sprite} (hprims : t.Writable) {sc : EmitScope} {s s' : EmitState}
    (h : (emitScripts t).Runs sc s () s') :
    ∃ G, s'.blocks = s.blocks ++ G ∧ s.last ≤ s'.last ∧ ScriptsWrote s.last s'.last t.scripts G := by
  unfold emitScripts at h
  obtain ⟨⟨⟩, s₁, h₁, h⟩ := runs_bind.1 h
  obtain ⟨⟨⟩, s₂, h₂, h⟩ := runs_bind.1 h
  obtain ⟨⟨⟩, s₃, h₃, h₄⟩ := runs_bind.1 h
  obtain ⟨-, rfl⟩ := runs_pure.1 h₄
  unfold Sprite.Writable Sprite.scripts at hprims
  simp only [List.mem_append, List.mem_map] at hprims
  obtain ⟨G₁, hG₁, hle₁, hw₁⟩ := forIn_scripts_wrote
    (fun ev hev _ _ hrun => emitEvent_wrote (hprims _ (.inl (.inl ⟨ev, hev, rfl⟩))) hrun) h₁
  obtain ⟨G₂, hG₂, hle₂, hw₂⟩ := forIn_scripts_wrote
    (fun hd hhd _ _ hrun => emitScript_wrote (Or.inr (value_fieldRef _ _))
      (hprims _ (.inl (.inr ⟨hd, hhd, rfl⟩))) hrun) h₂
  obtain ⟨G₃, hG₃, hle₃, hw₃⟩ := forIn_scripts_wrote
    (fun p hp _ _ hrun => emitProcDef_wrote (hprims _ (.inr ⟨p, hp, rfl⟩)) hrun) h₃
  exact ⟨G₁ ++ G₂ ++ G₃, by rw [hG₃, hG₂, hG₁]; simp, by omega,
    (hw₁.append hw₂ hle₁ hle₂).append hw₃ (by omega) hle₃⟩

theorem TargetRun.emit_ok {project : Project} {messages : List String} {sprite : Sprite}
    {last : Nat} {comma : Bool}
    (h : (TargetRun.emit project messages sprite last comma).1.failure = none) :
    ∃ sc st, (emitScripts sprite).Runs sc { last } () st ∧
      (TargetRun.emit project messages sprite last comma).1.emitted = st.out.reverse ∧
      (TargetRun.emit project messages sprite last comma).2.1 = st.last := by
  unfold TargetRun.emit at h ⊢
  generalize (if sprite.isStage then none else some project.stage) = stage at h ⊢
  dsimp only at h ⊢
  rcases hrun : StateT.run (ReaderT.run (emitScripts sprite) { sprite, stage }).run { last } with
    ⟨result, st⟩
  rw [hrun] at h
  cases result with
  | error e => simp at h
  | ok u => exact ⟨_, st, hrun, rfl, rfl⟩

/-- The blocks a target run wrote, in order. -/
def TargetRun.blocks (r : TargetRun) : List Block := r.emitted.filterMap Emitted.block?

/-- Runs of the targets `ts`, one after another from id `lo` up to `hi`: each wrote whole
scripts, those of its target. -/
def TargetsWrote : List TargetRun → List Sprite → Nat → Nat → Prop
  | [], [], lo, hi => lo = hi
  | r :: rs, t :: ts, lo, hi =>
    ∃ m, lo ≤ m ∧ ScriptsWrote lo m t.scripts r.blocks ∧ TargetsWrote rs ts m hi
  | _, _, _, _ => False

theorem TargetRun.emit_wrote {project : Project} {messages : List String} {t : Sprite}
    {last : Nat} {comma : Bool} (hm : t.Writable)
    (h : (TargetRun.emit project messages t last comma).1.failure = none) :
    last ≤ (TargetRun.emit project messages t last comma).2.1 ∧
      ScriptsWrote last (TargetRun.emit project messages t last comma).2.1 t.scripts
        (TargetRun.emit project messages t last comma).1.blocks := by
  obtain ⟨sc, st, hrun, hemitted, hlast⟩ := TargetRun.emit_ok h
  obtain ⟨G, hG, hle, hw⟩ := emitScripts_wrote hm hrun
  have hblocks : (TargetRun.emit project messages t last comma).1.blocks = G := by
    rw [TargetRun.blocks, hemitted]
    exact hG
  rw [hblocks, hlast]
  exact ⟨hle, hw⟩

theorem emitTargets_wrote {project : Project} {messages : List String} :
    ∀ {ts : List Sprite} {last : Nat} {comma : Bool}, (∀ t ∈ ts, t.Writable) →
      (emitTargets project messages ts last comma).1.all (·.failure.isNone) = true →
      TargetsWrote (emitTargets project messages ts last comma).1 ts last
        (emitTargets project messages ts last comma).2.1
  | [], last, comma, _, _ => rfl
  | t :: ts, last, comma, hm, hall => by
    unfold emitTargets at hall ⊢
    rcases hrun : TargetRun.emit project messages t last comma with ⟨run, last', comma'⟩
    rw [hrun] at hall
    dsimp only at hall ⊢
    -- a failed target ends the runs, so this one did not fail
    by_cases hf : run.failure.isSome = true
    · rw [if_pos hf] at hall
      simp only [List.all_cons, List.all_nil, Bool.and_true] at hall
      rw [Option.isNone_iff_eq_none] at hall
      simp [hall] at hf
    · rw [if_neg hf] at hall ⊢
      simp only [List.all_cons, Bool.and_eq_true] at hall
      have hw := TargetRun.emit_wrote (hm t List.mem_cons_self)
        (by rw [hrun]; exact Option.isNone_iff_eq_none.1 hall.1)
      rw [hrun] at hw
      exact ⟨last', hw.1, hw.2,
        emitTargets_wrote (fun t' ht' => hm t' (List.mem_cons_of_mem t ht')) hall.2⟩

namespace TargetsWrote

theorem le : ∀ {rs : List TargetRun} {ts : List Sprite} {lo hi : Nat}, TargetsWrote rs ts lo hi →
    lo ≤ hi
  | [], [], _, _, h => Nat.le_of_eq h
  | _ :: _, _ :: _, _, _, ⟨_, hm, _, h⟩ => Nat.le_trans hm h.le

theorem ids : ∀ {rs : List TargetRun} {ts : List Sprite} {lo hi : Nat}, TargetsWrote rs ts lo hi →
    ∀ r ∈ rs, ∀ b ∈ r.blocks, lo < b.id ∧ b.id ≤ hi
  | [], [], _, _, _, _, hr, _, _ => absurd hr List.not_mem_nil
  | r :: _, _ :: _, _, _, ⟨_, hm, hw, h⟩, r', hr', b, hb => by
    rcases List.mem_cons.1 hr' with rfl | hr'
    · have := hw.1.ids b hb
      have := h.le
      omega
    · have := h.ids r' hr' b hb
      omega

theorem nodup : ∀ {rs : List TargetRun} {ts : List Sprite} {lo hi : Nat},
    TargetsWrote rs ts lo hi → ((rs.flatMap TargetRun.blocks).map Block.id).Nodup
  | [], [], _, _, _ => List.nodup_nil
  | r :: rs, _ :: _, _, _, ⟨m, _, hw, h⟩ => by
    rw [List.flatMap_cons, List.map_append, List.nodup_append]
    refine ⟨hw.1.nodup, h.nodup, ?_⟩
    simp only [List.mem_map, List.mem_flatMap]
    rintro _ ⟨b, hb, rfl⟩ _ ⟨c, ⟨r', hr', hc⟩, rfl⟩
    have := hw.1.ids b hb
    have := h.ids r' hr' c hc
    omega

theorem scripts : ∀ {rs : List TargetRun} {ts : List Sprite} {lo hi : Nat},
    TargetsWrote rs ts lo hi → List.Forall₂ (fun r t => ScriptsIn r.blocks (Sprite.scripts t)) rs ts
  | [], [], _, _, _ => List.Forall₂.nil
  | _ :: _, _ :: _, _, _, ⟨_, _, hw, h⟩ => List.Forall₂.cons hw.2 h.scripts

theorem scriptBlocks : ∀ {rs : List TargetRun} {ts : List Sprite} {lo hi : Nat},
    TargetsWrote rs ts lo hi → ∀ r ∈ rs, ∃ lo' hi', ScriptBlocks lo' hi' r.blocks
  | [], [], _, _, _, _, hr => absurd hr List.not_mem_nil
  | r :: _, _ :: _, _, _, ⟨_, _, hw, h⟩, r', hr' => by
    rcases List.mem_cons.1 hr' with rfl | hr'
    · exact ⟨_, _, hw.1⟩
    · exact h.scriptBlocks r' hr'

end TargetsWrote

theorem generate_wrote {p : Project} (hm : ∀ t ∈ p.targets, t.Writable)
    (hfin : (generate p).finished = true) :
    TargetsWrote (generate p).runs p.targets 0 (generate p).lastId :=
  emitTargets_wrote hm hfin

end Graph

end BlockGraph
