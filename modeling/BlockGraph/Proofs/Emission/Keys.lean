import BlockGraph.Proofs.Program.Declarations
import BlockGraph.Proofs.Emission.Errors
import BlockGraph.Proofs.Emission.Text

namespace BlockGraph

/-- The scope a target of the project is emitted in: the target, and the stage for a sprite. -/
def Project.scope (p : Project) (t : Sprite) : Graph.EmitScope :=
  { sprite := t, stage := if t.isStage then none else some p.stage }

end BlockGraph

namespace BlockGraph.Graph

namespace EmitScope

/-- The fields a variable is declared by: its struct's fields, or the empty field alone for a
variable of no struct type (or of an unknown struct, or of one without fields). -/
def fieldNames (s : EmitScope) (v : Var) : List String :=
  match s.structFields v with
  | [] => [""]
  | fields => fields.map (·.name)

/-- The keys that declare variable `v` of procedure `proc`, the empty name standing for none. -/
def varKeys (s : EmitScope) (proc : String) (v : Var) : List String :=
  (s.fieldNames v).map (Names.qualify proc v.name)

/-- The keys of a target's variables object, in order: the sprite's variables by name, then the
locals of each procedure by name, procedures by name. -/
def variableKeys (s : EmitScope) : List String :=
  (s.sprite.vars.mergeSort (fun a b => Utf8.keptLE a.name b.name)).flatMap (s.varKeys "") ++
    s.sprite.sortedProcs.flatMap fun p =>
      (p.locals.mergeSort (fun a b => Utf8.keptLE a.name b.name)).flatMap (s.varKeys p.name)

/-- The structs a scope sees, its sprite's and the stage's, declare their fields apart. -/
def FieldsApart (s : EmitScope) : Prop := s.sprite.FieldsApart ∧ ∀ st ∈ s.stage, st.FieldsApart

theorem struct?_mem {s : EmitScope} {n : String} {d : StructDecl} (h : s.struct? n = some d) :
    d ∈ s.sprite.structs ∨ ∃ st ∈ s.stage, d ∈ st.structs := by
  unfold struct? at h
  cases hs : s.sprite.struct? n with
  | some d' =>
    rw [hs, Option.orElse_some] at h
    cases h
    exact Or.inl (List.mem_of_find?_eq_some hs)
  | none =>
    rw [hs, Option.orElse_none] at h
    obtain ⟨st, hst, hd⟩ := Option.bind_eq_some_iff.1 h
    exact Or.inr ⟨st, hst, List.mem_of_find?_eq_some hd⟩

variable {s : EmitScope}

theorem FieldsApart.struct? (hs : s.FieldsApart) {n : String} {d : StructDecl}
    (hd : s.struct? n = some d) :
    (d.fields.map Field.name).Nodup ∧ ∀ f ∈ d.fields, Names.isValid f.name = true := by
  rcases struct?_mem hd with hd | ⟨st, hst, hd⟩
  · exact hs.1 d hd
  · exact hs.2 st hst d hd

theorem structFields_apart (hs : s.FieldsApart) (v : Var) :
    ((s.structFields v).map Field.name).Nodup ∧
      ∀ f ∈ s.structFields v, Names.isValid f.name = true := by
  unfold structFields
  split
  · rename_i n _
    cases hd : s.struct? n with
    | none => simp
    | some d =>
      simp only [Option.map_some, Option.getD_some]
      exact hs.struct? hd
  · simp

theorem fieldNames_apart (hs : s.FieldsApart) (v : Var) :
    (s.fieldNames v).Nodup ∧ ∀ f ∈ s.fieldNames v, Names.isValid f = true := by
  unfold fieldNames
  split
  · exact ⟨List.nodup_singleton _, by simp [Names.isValid]⟩
  · rename_i fields _
    simpa using structFields_apart hs v

theorem mem_varKeys {proc : String} {v : Var} {k : String} :
    k ∈ s.varKeys proc v ↔ ∃ f ∈ s.fieldNames v, k = Names.qualify proc v.name f := by
  simp [varKeys, eq_comm]

section Keys

variable (hs : s.FieldsApart)
include hs

theorem varKeys_nodup {proc : String} {v : Var} (hp : Names.isValid proc = true)
    (hv : Names.isValid v.name = true) : (s.varKeys proc v).Nodup := by
  obtain ⟨hnodup, hvalid⟩ := fieldNames_apart hs v
  exact hnodup.map_on fun f hf f' hf' h =>
    (Names.qualify_inj hp hv (hvalid f hf) hp hv (hvalid f' hf') h).2.2

theorem varKeys_inj {proc proc' : String} {v v' : Var} {k : String}
    (hp : Names.isValid proc = true) (hv : Names.isValid v.name = true)
    (hp' : Names.isValid proc' = true) (hv' : Names.isValid v'.name = true)
    (hk : k ∈ s.varKeys proc v) (hk' : k ∈ s.varKeys proc' v') : proc = proc' ∧ v.name = v'.name := by
  obtain ⟨f, hf, rfl⟩ := mem_varKeys.1 hk
  obtain ⟨f', hf', h⟩ := mem_varKeys.1 hk'
  obtain ⟨hproc, hname, -⟩ := Names.qualify_inj hp hv ((fieldNames_apart hs v).2 f hf) hp' hv'
    ((fieldNames_apart hs v').2 f' hf') h
  exact ⟨hproc, hname⟩

theorem flatMap_varKeys_nodup {proc : String} {vs : List Var} (hp : Names.isValid proc = true)
    (hvs : VarsApart vs) : (vs.flatMap (s.varKeys proc)).Nodup :=
  nodup_flatMap_of_key Var.name hvs.1 (fun v hv => varKeys_nodup hs hp (hvs.2 v hv))
    fun v hv v' hv' _ hk hk' => (varKeys_inj hs hp (hvs.2 v hv) hp (hvs.2 v' hv') hk hk').2

/-- The keys of a target's variables object are apart, when no procedure is named by the empty
text: a local of such a procedure would take the key of the sprite's variable of its name. -/
theorem variableKeys_nodup (hd : s.sprite.Declared) (hnamed : ∀ q ∈ s.sprite.procs, q.name ≠ "") :
    s.variableKeys.Nodup := by
  unfold variableKeys
  have hsorted : ∀ q ∈ s.sprite.sortedProcs, q ∈ s.sprite.procs := fun q hq => List.mem_mergeSort.1 hq
  have hempty : Names.isValid "" = true := rfl
  have hlocal : ∀ q ∈ s.sprite.sortedProcs, ∀ k ∈ (q.locals.mergeSort (fun a b => Utf8.keptLE a.name b.name)).flatMap (s.varKeys q.name),
      ∃ v ∈ q.locals, Names.isValid v.name = true ∧ k ∈ s.varKeys q.name v := by
    intro q hq k hk
    obtain ⟨v, hv, hk⟩ := List.mem_flatMap.1 hk
    exact ⟨v, List.mem_mergeSort.1 hv, (hd.locals q (hsorted q hq)).2 v (List.mem_mergeSort.1 hv), hk⟩
  refine List.nodup_append.2 ⟨flatMap_varKeys_nodup hs hempty (hd.vars.mergeSort _), ?_, ?_⟩
  · -- the locals, procedure by procedure
    refine nodup_flatMap_of_key Proc.name ((Sprite.procNames_sorted _).nodup_iff.2 hd.procs)
      (fun q hq => flatMap_varKeys_nodup hs (hd.procsValid q (hsorted q hq))
        ((hd.locals q (hsorted q hq)).mergeSort _)) fun q hq q' hq' k hk hk' => ?_
    obtain ⟨v, -, hv, hk⟩ := hlocal q hq k hk
    obtain ⟨v', -, hv', hk'⟩ := hlocal q' hq' k hk'
    exact (varKeys_inj hs (hd.procsValid q (hsorted q hq)) hv (hd.procsValid q' (hsorted q' hq')) hv' hk hk').1
  · -- a variable of the sprite is keyed under no procedure, a local under its own
    intro k hk k' hk' hkk
    subst hkk
    obtain ⟨v, hv, hk⟩ := List.mem_flatMap.1 hk
    obtain ⟨q, hq, hk'⟩ := List.mem_flatMap.1 hk'
    obtain ⟨v', -, hv', hk'⟩ := hlocal q hq k hk'
    exact hnamed q (hsorted q hq) (varKeys_inj hs hempty (hd.vars.2 v (List.mem_mergeSort.1 hv))
      (hd.procsValid q (hsorted q hq)) hv' hk hk').1.symm

end Keys

/-! ## Parameters -/

/-- The names of the parameters an argument gives: its own, or `arg.field` for each field of its
struct. -/
def argNames (s : EmitScope) (a : Arg) : List String :=
  match a.type.structName? with
  | some sn =>
    match s.struct? sn with
    | some d => if d.fields.isEmpty then [a.name] else d.fields.map (Names.structVar a.name ·.name)
    | none => [a.name]
  | none => [a.name]

theorem params_ids (s : EmitScope) (p : Proc) :
    (params s p).map Param.id = (p.args.flatMap s.argNames).map (Names.localName p.name) := by
  unfold params
  rw [List.map_flatMap, List.map_flatMap]
  conv_rhs => rw [← List.zipIdx_map_fst 0 p.args]
  rw [List.flatMap_map]
  congr 1
  funext x
  obtain ⟨a, i⟩ := x
  unfold argNames
  dsimp only
  cases a.type.structName? with
  | none => simp
  | some sn =>
    cases hd : s.struct? sn with
    | none => simp [hd]
    | some d => by_cases he : d.fields.isEmpty <;> simp [hd, he, Function.comp_def]

theorem mem_argNames {a : Arg} {n : String} (h : n ∈ s.argNames a) :
    n = a.name ∨ ∃ f, n = Names.structVar a.name f := by
  unfold argNames at h
  split at h
  · split at h
    · split at h
      · exact Or.inl (List.mem_singleton.1 h)
      · obtain ⟨f, -, rfl⟩ := List.mem_map.1 h
        exact Or.inr ⟨f.name, rfl⟩
    · exact Or.inl (List.mem_singleton.1 h)
  · exact Or.inl (List.mem_singleton.1 h)

theorem argNames_nodup (hs : s.FieldsApart) {a : Arg} (ha : Names.isValid a.name = true) :
    (s.argNames a).Nodup := by
  unfold argNames
  split
  · split
    · rename_i d hd
      split
      · exact List.nodup_singleton _
      · have hfields := hs.struct? hd
        rw [show d.fields.map (fun f => Names.structVar a.name f.name) =
          (d.fields.map Field.name).map (Names.structVar a.name) by rw [List.map_map]; rfl]
        exact hfields.1.map fun f f' h => (Names.structVar_inj (Names.isValid_iff.1 ha).1
          (Names.isValid_iff.1 ha).1 h).2
    · exact List.nodup_singleton _
  · exact List.nodup_singleton _

theorem params_ids_nodup (hs : s.FieldsApart) {p : Proc} (hargs : (p.args.map Arg.name).Nodup)
    (hvalid : ∀ a ∈ p.args, Names.isValid a.name = true) : ((params s p).map Param.id).Nodup := by
  rw [params_ids]
  refine List.Nodup.map (fun n n' h => ?_) ?_
  · have h' := congrArg String.toList h
    rw [Names.toList_localName, Names.toList_localName] at h'
    exact String.toList_inj.1 (List.cons.inj (List.append_cancel_left h')).2
  refine nodup_flatMap_of_key Arg.name hargs (fun a ha => argNames_nodup hs (hvalid a ha))
    fun a ha b hb n hna hnb => ?_
  -- a name is an argument's own, or holds its `.` right after the argument's name
  have hda := (Names.isValid_iff.1 (hvalid a ha)).1
  have hdb := (Names.isValid_iff.1 (hvalid b hb)).1
  rcases mem_argNames hna with rfl | ⟨f, rfl⟩ <;> rcases mem_argNames hnb with h | ⟨f', h⟩
  · exact h
  · exact absurd h.symm (Names.structVar_ne hda)
  · exact absurd h (Names.structVar_ne hdb)
  · exact (Names.structVar_inj hda hdb h).1

end EmitScope

/-! ## The variables object -/

open Json.Grammar

def varDecl (q : String) : List Char × List Char :=
  ((Json.quoteKept q).toList, arrayText [(Json.quoteKept q).toList, ['0']])

theorem commaJoin_map {α : Type} (xs : List α) (g : α → List Char) :
    commaJoin (xs.map g) = xs.flatMap fun x => g x ++ [','] := by
  simp [commaJoin, List.flatMap, Function.comp_def]

namespace Writer.Appends

theorem varDeclaration (w : Writer) (q : String) :
    Appends w (w.str (Json.quoteKept q ++ ":[" ++ Json.quoteKept q ++ ",0],"))
      (memberText (Graph.varDecl q) ++ [',']) :=
  str_of_toList w (by simp [Graph.varDecl, memberText, arrayText, commaSep, String.toList_append])

theorem declareVar (s : EmitScope) (proc : String) (w : Writer) (v : Var) :
    Appends w (w.declareVar s proc v)
      ((s.varKeys proc v).flatMap fun q => memberText (Graph.varDecl q) ++ [',']) := by
  unfold Writer.declareVar EmitScope.varKeys EmitScope.fieldNames
  cases hf : s.structFields v with
  | nil => simpa using varDeclaration w _
  | cons f fs =>
    dsimp only
    rw [List.map_map, List.flatMap_map]
    refine Appends.foldl (f :: fs) (fun w f _ => ?_) w
    exact varDeclaration w _

theorem variableSection (s : EmitScope) (w : Writer) :
    Appends w ((s.sprite.sortedProcs.foldl (fun w p =>
      (p.locals.mergeSort (fun a b => Utf8.keptLE a.name b.name)).foldl (Writer.declareVar s p.name) w)
      ((s.sprite.vars.mergeSort (fun a b => Utf8.keptLE a.name b.name)).foldl (Writer.declareVar s "")
        (w.str "\"variables\":\x7b"))).close "\x7d")
      (memberText (key "variables", objectText (s.variableKeys.map Graph.varDecl)) ++ [',']) := by
  have hvars := Appends.foldl (s.sprite.vars.mergeSort (fun a b => Utf8.keptLE a.name b.name))
    (fun w v _ => declareVar s "" w v) (w.str "\"variables\":\x7b")
  have h := ((Appends.str w _).trans hvars).trans (Appends.foldl s.sprite.sortedProcs
    (fun w p _ => Appends.foldl (p.locals.mergeSort (fun a b => Utf8.keptLE a.name b.name))
      (fun w v _ => declareVar s p.name w v) w) _)
  rw [show memberText (key "variables", objectText (s.variableKeys.map Graph.varDecl)) ++ [','] =
    (key "variables" ++ [':']) ++ objectText (s.variableKeys.map Graph.varDecl) ++ [','] by
      simp [memberText]]
  refine Appends.object ?_
  rw [List.map_map, commaJoin_map, EmitScope.variableKeys, List.flatMap_append, List.flatMap_assoc,
    List.flatMap_assoc]
  simpa [key, List.flatMap_assoc] using h

end Writer.Appends

/-! ## What a target writes first -/

def Writer.Extends (w w' : Writer) : Prop := ∃ ps, w'.pieces = ps ++ w.pieces

namespace Writer.Extends

theorem refl (w : Writer) : Extends w w := ⟨[], rfl⟩

theorem trans {w₀ w₁ w₂ : Writer} (h₁ : Extends w₀ w₁) (h₂ : Extends w₁ w₂) : Extends w₀ w₂ := by
  obtain ⟨ps₁, h₁⟩ := h₁
  obtain ⟨ps₂, h₂⟩ := h₂
  exact ⟨ps₂ ++ ps₁, by rw [h₂, h₁, List.append_assoc]⟩

theorem of_appends {w w' : Writer} {s : List Char} (h : Appends w w' s) : Extends w w' := by
  obtain ⟨⟨ps, hp, -⟩, -⟩ := h
  exact ⟨ps.reverse, hp⟩

theorem str (w : Writer) (s : String) : Extends w (w.str s) := of_appends (Appends.str w s)

theorem close (w : Writer) (c : String) : Extends w (w.close c) := by
  unfold Writer.close
  dsimp only
  refine Extends.trans ?_ (str _ _)
  split
  · exact ⟨[.stepBack], rfl⟩
  · exact refl w

theorem foldl {α : Type} {f : Writer → α → Writer} (hf : ∀ w a, Extends w (f w a))
    (xs : List α) : ∀ w : Writer, Extends w (xs.foldl f w) := by
  induction xs with
  | nil => exact refl
  | cons x xs ih => exact fun w => (hf w x).trans (ih (f w x))

theorem ite {w w₁ w₂ : Writer} {c : Prop} [Decidable c] (h₁ : Extends w w₁) (h₂ : Extends w w₂) :
    Extends w (if c then w₁ else w₂) := by
  split
  · exact h₁
  · exact h₂

theorem block (w : Writer) (b : Block) : Extends w (w.block b) := by
  unfold Writer.block
  dsimp only
  -- the closing brace, the mutation, the fields, the inputs, the place, then the header
  refine Extends.trans ?_ (close _ _)
  refine Extends.trans ?_ (ite (refl _) (str _ _))
  refine Extends.trans ?_ (str _ _)
  refine Extends.trans ?_ (ite (str _ _)
    ((str _ _).trans ((foldl (fun w (i : Input) => str w i.render) _ _).trans (close _ _))))
  refine Extends.trans ?_ (ite (str _ _) (refl _))
  exact str _ _

theorem written_first {w w' : Writer} (h : Extends w w') : w.written <+: w'.written := by
  obtain ⟨ps, hp⟩ := h
  exact ⟨ps.reverse, by simp [Writer.written, hp]⟩

end Writer.Extends

theorem Writer.AddsMembers.extends {w w' : Writer} (h : AddsMembers w w') : Writer.Extends w w' := by
  obtain ⟨_, _, h⟩ := h
  exact Writer.Extends.of_appends h

/-- The members a target's object opens with: whether it is the stage, its name, and its
variables object, which declares its keys. -/
def openingMembers (s : EmitScope) : List (List Char × List Char) :=
  targetHead s.sprite ++ [(key "variables", objectText (s.variableKeys.map varDecl))]

theorem Writer.targetHeader_opens (w : Writer) (s : EmitScope) (messages : List String) :
    ∃ w', Appends w w' ('\x7b' :: commaJoin ((openingMembers s).map memberText)) ∧
      Extends w' (w.targetHeader s messages) := by
  unfold Writer.targetHeader
  dsimp only
  have h := (Appends.str w ("\x7b\"isStage\":" ++ flagText s.sprite.isStage ++ ",\"name\":" ++
    Json.quoteKept s.sprite.name ++ ",")).trans (Appends.variableSection s _)
  have htext : ("\x7b\"isStage\":" ++ flagText s.sprite.isStage ++ ",\"name\":" ++
      Json.quoteKept s.sprite.name ++ ",").toList ++
      (memberText (key "variables", objectText (s.variableKeys.map varDecl)) ++ [',']) =
      '\x7b' :: commaJoin ((openingMembers s).map memberText) := by
    simp [openingMembers, targetHead, commaJoin, memberText, key, String.toList_append]
  refine ⟨_, htext ▸ h, ?_⟩
  -- the lists, the broadcasts and the opening of the blocks follow
  refine Writer.Extends.trans ?_ (Writer.Extends.str _ _)
  refine Writer.Extends.trans ?_ (Writer.AddsMembers.broadcastSection s messages _).extends
  exact (Writer.AddsMembers.listSection s _).extends

theorem TargetRun.emit_opens (project : Project) (messages : List String) (t : Sprite)
    (last : Nat) (comma : Bool) :
    ∃ ps, ps <+: (TargetRun.emit project messages t last comma).1.pieces ∧ CleanAfter [] ps ∧
      ps.foldl Piece.apply [] = '\x7b' :: commaJoin ((openingMembers (project.scope t)).map memberText) := by
  unfold TargetRun.emit Project.scope
  generalize (if t.isStage then none else some project.stage) = stage
  dsimp only
  obtain ⟨w', hopen, hext⟩ := Writer.targetHeader_opens ({ comma } : Writer) { sprite := t, stage } messages
  obtain ⟨hclean, htext⟩ := hopen.written
  refine ⟨w'.written, ?_, hclean, htext⟩
  rcases StateT.run (ReaderT.run (emitScripts t) { sprite := t, stage }).run { last } with ⟨result, st⟩
  dsimp only
  -- the blocks, then the closing of the blocks and of the object when no error stopped it
  generalize hW : List.foldl _ (({ comma } : Writer).targetHeader { sprite := t, stage } messages)
    st.out.reverse = W
  have hblocks : Writer.Extends w' W := by
    rw [← hW]
    refine hext.trans (Writer.Extends.foldl (fun w e => ?_) _ _)
    cases e with
    | block b => exact Writer.Extends.block w b
    | scriptStart _ _ => exact Writer.Extends.refl w
    | report _ => exact Writer.Extends.refl w
  refine (hblocks.trans ?_).written_first
  split
  · exact (Writer.Extends.close _ _).trans (Writer.Extends.close _ _)
  · exact Writer.Extends.refl _

end BlockGraph.Graph

namespace BlockGraph

open Graph Json.Grammar

theorem Project.scope_fieldsApart {p : Project} (h : ∀ t ∈ p.targets, t.FieldsApart) {t : Sprite}
    (ht : t ∈ p.targets) : (p.scope t).FieldsApart := by
  refine ⟨h t ht, fun st hst => ?_⟩
  unfold Project.scope at hst
  split at hst
  · cases hst
  · cases hst
    exact h p.stage List.mem_cons_self

/-- In a project built from a dump and analysed, where every struct declares each field once
and no procedure is named by the empty text, the keys of each target's variables object are
pairwise distinct, and so are the parameter ids of each procedure's prototype; and each
target's run opens the target's object with that variables object. -/
theorem compiled_declaration_keys_apart {doc : Dump.Document} {origin : String} {p : Project}
    {fs : FileSet} (hbuild : Project.build doc origin = .ok (p, fs)) (limit : Int)
    (hfields : ∀ t ∈ p.targets, ∀ d ∈ t.structs, (d.fields.map Field.name).Nodup)
    (hnamed : ∀ t ∈ p.targets, ∀ q ∈ t.procs, q.name ≠ "") :
    (∀ t ∈ (Compilation.run p fs limit).project.targets,
      ((Compilation.run p fs limit).project.scope t).variableKeys.Nodup ∧
      ∀ q ∈ t.procs, ((params { (Compilation.run p fs limit).project.scope t with proc := some q }
        q).map Param.id).Nodup) ∧
    ∀ r ∈ (Compilation.run p fs limit).generation.runs,
      ∃ t ∈ (Compilation.run p fs limit).project.targets, r.name = t.name ∧
        ∃ ps, ps <+: r.pieces ∧ CleanAfter [] ps ∧ ps.foldl Piece.apply [] =
          '\x7b' :: commaJoin ((openingMembers ((Compilation.run p fs limit).project.scope t)).map
            memberText) := by
  rw [Compilation.project_run, Compilation.generation_run]
  have hdecl := analysed_targets_declared hbuild
  have hscope := fun t (ht : t ∈ p.declareAssigned.resolve.1.targets) =>
    Project.scope_fieldsApart (analysed_targets_fieldsApart hbuild hfields) ht
  refine ⟨fun t ht => ⟨?_, fun q hq => ?_⟩, fun r hr => ?_⟩
  · exact EmitScope.variableKeys_nodup (hscope t ht) (hdecl t ht) (analysed_procs_named hnamed t ht)
  · exact EmitScope.params_ids_nodup (hscope t ht) ((hdecl t ht).args q hq) ((hdecl t ht).argsValid q hq)
  · -- the runs are those of the targets in order, each from where the one before stopped
    have hr' : r ∈ (emitTargets p.declareAssigned.resolve.1 p.declareAssigned.resolve.1.messages
      p.declareAssigned.resolve.1.targets 0 false).1 := hr
    obtain ⟨t, ht, last, comma, rfl⟩ := emitTargets_mem hr'
    exact ⟨t, ht, rfl, TargetRun.emit_opens _ _ t last comma⟩

theorem compiled_declaration_keys_apart_struct : ∃ doc p fs,
    Project.build doc "game.json" = .ok (p, fs) ∧
    (∀ t ∈ p.targets, ∀ d ∈ t.structs, (d.fields.map Field.name).Nodup) ∧
    (∀ t ∈ p.targets, ∀ q ∈ t.procs, q.name ≠ "") ∧
    ((∀ t ∈ (Compilation.run p fs 0).project.targets,
      ((Compilation.run p fs 0).project.scope t).variableKeys.Nodup ∧
      ∀ q ∈ t.procs, ((params { (Compilation.run p fs 0).project.scope t with proc := some q }
        q).map Param.id).Nodup) ∧
    ∀ r ∈ (Compilation.run p fs 0).generation.runs,
      ∃ t ∈ (Compilation.run p fs 0).project.targets, r.name = t.name ∧
        ∃ ps, ps <+: r.pieces ∧ CleanAfter [] ps ∧ ps.foldl Piece.apply [] =
          '\x7b' :: commaJoin ((openingMembers ((Compilation.run p fs 0).project.scope t)).map
            memberText)) := by
  -- a stage with a struct of two fields, a variable of it, and a procedure taking one
  have hrun : (match Project.build
      { stage := { structs := [{ name := "P", fields := [{ name := "x" }, { name := "y" }] }]
                   vars := [{ name := "p", type := "P" }]
                   procs := [{ name := "move", args := [{ name := "a", type := "P" }] }] } }
      "game.json" with
      | .ok (p, _) => decide ((∀ t ∈ p.targets, ∀ d ∈ t.structs, (d.fields.map Field.name).Nodup) ∧
          ∀ t ∈ p.targets, ∀ q ∈ t.procs, q.name ≠ "")
      | .error _ => false) = true := by decide +kernel
  split at hrun
  · rename_i p fs hb
    rw [decide_eq_true_eq] at hrun
    exact ⟨_, p, fs, hb, hrun.1, hrun.2, compiled_declaration_keys_apart hb 0 hrun.1 hrun.2⟩
  · cases hrun

end BlockGraph
