import BlockGraph.Proofs.Program.Primitives
/-!
# The graph of a compiled project

When generation finishes, the block lists of a compiled project form a block graph
(`Graph.WellFormed`) whose top-level blocks are each target's scripts, in order.
-/

namespace BlockGraph

theorem Compilation.generation_run (p : Project) (fs : FileSet) (limit : Int) :
    (Compilation.run p fs limit).generation = Graph.generate p.declareAssigned.resolve.1 := rfl

theorem Compilation.project_run (p : Project) (fs : FileSet) (limit : Int) :
    (Compilation.run p fs limit).project = p.declareAssigned.resolve.1 := rfl

theorem Compilation.nodes_of_finished {c : Compilation} (h : c.generation.finished = true) :
    c.nodes = Graph.nodeId c.generation.lastId :=
  if_pos h

namespace Graph

/-- Block lists, one per target, that form a block graph whose ids run from 1 to the 32-bit
count `nodes`. -/
structure WellFormed (targets : List (List Block)) (nodes : UInt32) : Prop where
  nodup : (targets.flatten.map Block.id).Nodup
  ids : ∀ bs ∈ targets, ∀ b ∈ bs, 1 ≤ b.id ∧ b.id ≤ nodes.toNat
  adopted : ∀ bs ∈ targets, ∀ b ∈ bs, ∀ i ∈ b.refs, Adopts bs b.id i
  parentFirst : ∀ bs ∈ targets, ∀ pre post b, bs = pre ++ b :: post → b.parent ≠ 0 →
    ∃ c ∈ pre, c.id = b.parent
  rootsTopLevel : ∀ bs ∈ targets, ∀ b ∈ bs, b.parent = 0 → b.topLevel = true
  shaped : ∀ bs ∈ targets, ∀ b ∈ bs, ∀ i ∈ b.inputs, i.Shaped

theorem WellFormed.of_scriptBlocks {targets : List (List Block)} {nodes : UInt32}
    (hnodup : (targets.flatten.map Block.id).Nodup)
    (hids : ∀ bs ∈ targets, ∀ b ∈ bs, 1 ≤ b.id ∧ b.id ≤ nodes.toNat)
    (hscripts : ∀ bs ∈ targets, ∃ lo hi, ScriptBlocks lo hi bs) : WellFormed targets nodes where
  nodup := hnodup
  ids := hids
  adopted bs hbs := by
    obtain ⟨lo, hi, h⟩ := hscripts bs hbs
    exact h.adopted
  parentFirst bs hbs _ _ _ := by
    obtain ⟨lo, hi, h⟩ := hscripts bs hbs
    exact h.parent_first
  rootsTopLevel bs hbs _ := by
    obtain ⟨lo, hi, h⟩ := hscripts bs hbs
    exact h.topLevel_of_parent_eq_zero
  shaped bs hbs b hb i hin := by
    obtain ⟨lo, hi, h⟩ := hscripts bs hbs
    exact ((h.shaped b hb).inputs i hin).shaped

theorem TargetsWrote.wellFormed {rs : List TargetRun} {ts : List Sprite} {hi : Nat}
    (h : TargetsWrote rs ts 0 hi) (hfits : hi < Nat.pow 2 32) :
    WellFormed (rs.map TargetRun.blocks) (nodeId hi) := by
  refine WellFormed.of_scriptBlocks ?_ ?_ ?_
  · rw [← List.flatMap_def]
    exact h.nodup
  · intro bs hbs b hb
    obtain ⟨r, hr, rfl⟩ := List.mem_map.1 hbs
    have := h.ids r hr b hb
    rw [toNat_nodeId hfits]
    omega
  · intro bs hbs
    obtain ⟨r, hr, rfl⟩ := List.mem_map.1 hbs
    exact h.scriptBlocks r hr

def nestedScripts : Dump.Document where
  stage := { vars := [{ name := "score" }] }
  sprites := [("cat",
    { lists := [{ name := "items" }]
      events := [
        { hat := "flag"
          body := [
            { kind := "repeat"
              times := some { kind := "int", int := 3 }
              body := [
                { kind := "change_var", name := "score", value := some { kind := "int", int := 1 } },
                { kind := "branch"
                  cond := some
                    { kind := "binop", op := "<", lhs := some { kind := "name", name := "score" },
                      rhs := some { kind := "int", int := 10 } }
                  body := [{ kind := "list_add", name := "items",
                             value := some { kind := "name", name := "score" } }]
                  orElse := [{ kind := "block", block := "say",
                               args := [{ kind := "str", str := "hi" }] }] }] }] }] })]

theorem nestedScripts_compile : ∃ p fs, Project.build nestedScripts "game.json" = .ok (p, fs) ∧
    (Compilation.run p fs 0).generation.finished = true ∧
    (Compilation.run p fs 0).generation.runs.map (·.blocks.length) = [0, 7] ∧
    (Compilation.run p fs 0).generation.lastId < Nat.pow 2 32 ∧
    (Compilation.run p fs 0).generation.text.utf8ByteSize < Nat.pow 2 63 := by
  -- emission is structural, so the whole run evaluates in the kernel
  have hrun : (match Project.build nestedScripts "game.json" with
      | .ok (p, fs) => (Compilation.run p fs 0).generation.finished &&
          decide ((Compilation.run p fs 0).generation.runs.map (·.blocks.length) = [0, 7]) &&
          decide ((Compilation.run p fs 0).generation.lastId < Nat.pow 2 32) &&
          decide ((Compilation.run p fs 0).generation.text.utf8ByteSize < Nat.pow 2 63)
      | .error _ => false) = true := by decide +kernel
  split at hrun
  · rename_i p fs hb
    simp only [Bool.and_eq_true, decide_eq_true_eq] at hrun
    exact ⟨p, fs, hb, hrun.1.1.1, hrun.1.1.2, hrun.1.2, hrun.2⟩
  · cases hrun

theorem WellFormed.idText_eq {targets : List (List Block)} {nodes : UInt32}
    (h : WellFormed targets nodes) {bs : List Block} (hbs : bs ∈ targets) {b : Block} (hb : b ∈ bs) :
    idText b.id = "\"" ++ toString b.id ++ "\"" := by
  have hid := h.ids bs hbs b hb
  have hlt : b.id < Nat.pow 2 32 := by
    have hn : Nat.pow 2 32 = 4294967296 := by decide
    have := nodes.toNat_lt
    omega
  rw [idText, idJson, if_neg (nodeId_ne_zero (by omega) hlt), toNat_nodeId hlt]

theorem WellFormed.idText_ref {targets : List (List Block)} {nodes : UInt32}
    (h : WellFormed targets nodes) {bs : List Block} (hbs : bs ∈ targets) {b : Block} (hb : b ∈ bs)
    {i : Nat} (hi : i ∈ b.refs) : idText i = "\"" ++ toString i ++ "\"" := by
  obtain ⟨c, hc, rfl, -⟩ := h.adopted bs hbs b hb i hi
  exact h.idText_eq hbs hc

end Graph

end BlockGraph
