import BlockGraph.Proofs.Emission.Text
import BlockGraph.Proofs.Program.Compiled

namespace BlockGraph.Graph

open Json.Grammar

/-- What a completed target run wrote: its target's object and a comma, as a clean stream that
ends with the closing of the object. -/
def RunText (r : TargetRun) (t : Sprite) : Prop :=
  ∃ ms, Members ms ∧ CleanAfter [] r.pieces ∧
    r.pieces.foldl Piece.apply [] = objectText (targetHead t ++ ms) ++ [','] ∧
    r.pieces.getLast? = some (.text "\x7d,")

theorem TargetRun.emit_text {project : Project} {messages : List String} {t : Sprite}
    {last : Nat} {comma : Bool} (hm : t.Writable)
    (h : (TargetRun.emit project messages t last comma).1.failure = none)
    (hfits : ∀ b ∈ (TargetRun.emit project messages t last comma).1.blocks, b.id < Nat.pow 2 32) :
    RunText (TargetRun.emit project messages t last comma).1 t := by
  -- the blocks the run wrote have ids after `last`, below 2^32, and are shaped
  obtain ⟨-, hw⟩ := TargetRun.emit_wrote hm h
  have hblocks : ∀ b ∈ (TargetRun.emit project messages t last comma).1.blocks,
      nodeId b.id ≠ 0 ∧ b.Shaped := fun b hb =>
    ⟨nodeId_ne_zero (by have := (hw.1.ids b hb).1; omega) (hfits b hb), hw.1.shaped b hb⟩
  unfold TargetRun.blocks TargetRun.emit at hblocks
  unfold TargetRun.emit at h ⊢
  generalize (if t.isStage then none else some project.stage) = stage at h hblocks ⊢
  dsimp only at h hblocks ⊢
  rcases hrun : StateT.run (ReaderT.run (emitScripts t) { sprite := t, stage }).run { last } with
    ⟨result, st⟩
  rw [hrun] at h hblocks
  cases result with
  | error e => simp at h
  | ok u =>
    dsimp only at hblocks ⊢
    obtain ⟨ms, hms, hhead⟩ :=
      Writer.Appends.targetHeader ({ comma } : Writer) { sprite := t, stage } messages
    obtain ⟨bms, hbms, hbl⟩ := Writer.AddsMembers.blocks st.out.reverse hblocks _
    -- closing the blocks object, then the target's
    let pre := ['\x7b'] ++ commaJoin ((targetHead t ++ ms).map memberText) ++ key "blocks" ++ [':']
    have hopen : ['\x7b'] ++ commaJoin ((targetHead t ++ ms).map memberText) ++
        "\"blocks\":\x7b".toList ++ commaJoin (bms.map memberText) =
        pre ++ '\x7b' :: commaJoin (bms.map memberText) := by
      simp [pre, key]
    have hinner := Writer.Appends.object (hopen ▸ hhead.trans hbl)
    let all := targetHead t ++ ms ++ [(key "blocks", objectText bms)]
    have hclose : pre ++ objectText bms ++ [','] = [] ++ '\x7b' :: commaJoin (all.map memberText) := by
      simp [pre, all, commaJoin_append, memberText]
    have houter := Writer.Appends.object (hclose ▸ hinner)
    obtain ⟨hclean, htext⟩ := houter.written
    refine ⟨ms ++ [(key "blocks", objectText bms)],
      hms.append (.cons (str_key (by simp [Unescaped])) (value_objectText hbms) trivial), hclean,
      htext.trans ?_, Writer.close_written_getLast? _ _⟩
    simp [all]

theorem emitTargets_runs {project : Project} {messages : List String} :
    ∀ {ts : List Sprite} {last : Nat} {comma : Bool},
      (emitTargets project messages ts last comma).1.all (·.failure.isNone) = true →
      List.Forall₂ (fun r t => ∃ last comma, (TargetRun.emit project messages t last comma).1 = r ∧
        r.failure = none) (emitTargets project messages ts last comma).1 ts
  | [], _, _, _ => List.Forall₂.nil
  | t :: ts, last, comma, hall => by
    unfold emitTargets at hall ⊢
    rcases hrun : TargetRun.emit project messages t last comma with ⟨run, last', comma'⟩
    rw [hrun] at hall
    dsimp only at hall ⊢
    -- a failed target ends the runs, so this one did not fail
    by_cases hf : run.failure.isSome = true
    · rw [if_pos hf] at hall
      simp only [List.all_cons, List.all_nil, Bool.and_true] at hall
      rw [Option.isNone_iff_eq_none] at hall
      simp [hall] at hf
    · rw [if_neg hf] at hall ⊢
      simp only [List.all_cons, Bool.and_eq_true] at hall
      exact List.Forall₂.cons ⟨last, comma, by rw [hrun], Option.isNone_iff_eq_none.1 hall.1⟩
        (emitTargets_runs hall.2)

theorem generate_runText {p : Project} (hm : ∀ t ∈ p.targets, t.Writable)
    (hfin : (generate p).finished = true) (hfits : (generate p).lastId < Nat.pow 2 32) :
    List.Forall₂ RunText (generate p).runs p.targets := by
  have hruns : List.Forall₂ (fun r t => ∃ last comma,
      (TargetRun.emit p p.messages t last comma).1 = r ∧ r.failure = none)
      (generate p).runs p.targets := @emitTargets_runs p p.messages p.targets 0 false hfin
  have hw := generate_wrote hm hfin
  rw [List.forall₂_iff_zip] at hruns ⊢
  refine ⟨hruns.1, fun {r t} hrt => ?_⟩
  -- every id handed out is at most the last one, so below 2^32
  have hids : ∀ b ∈ r.blocks, b.id < Nat.pow 2 32 := fun b hb => by
    have := hw.ids r (List.of_mem_zip hrt).1 b hb
    omega
  obtain ⟨last, comma, hr, hf⟩ := hruns.2 hrt
  rw [← hr] at hf hids ⊢
  exact TargetRun.emit_text (hm t (List.of_mem_zip hrt).2) hf hids

/-- A target's object: whether it is the stage and its name, then further members. -/
def TargetObject (o : List Char) (t : Sprite) : Prop :=
  ∃ ms, Members ms ∧ o = objectText (targetHead t ++ ms)

theorem TargetObject.value {o : List Char} {t : Sprite} (h : TargetObject o t) : Value o := by
  obtain ⟨ms, hms, rfl⟩ := h
  exact value_objectText ((targetHead_wf t).append hms)

theorem TargetObject.values : ∀ {objs : List (List Char)} {ts : List Sprite},
    List.Forall₂ TargetObject objs ts → Values objs
  | [], [], .nil => trivial
  | _ :: _, _ :: _, .cons h hs => ⟨h.value, values hs⟩

theorem RunText.flatMap : ∀ {rs : List TargetRun} {ts : List Sprite}, List.Forall₂ RunText rs ts →
    ∃ objs, List.Forall₂ TargetObject objs ts ∧ ∀ u, CleanAfter u (rs.flatMap (·.pieces)) ∧
      (rs.flatMap (·.pieces)).foldl Piece.apply u = u ++ commaJoin objs
  | [], [], .nil => ⟨[], .nil, fun _ => ⟨trivial, by simp⟩⟩
  | r :: rs, t :: ts, .cons ⟨ms, hms, hclean, htext, _⟩ hrest => by
    obtain ⟨objs, hobjs, hflat⟩ := RunText.flatMap hrest
    refine ⟨objectText (targetHead t ++ ms) :: objs, .cons ⟨ms, hms, rfl⟩ hobjs, fun u => ?_⟩
    have hrun : r.pieces.foldl Piece.apply u = u ++ (objectText (targetHead t ++ ms) ++ [',']) := by
      have := hclean.foldl_append u
      rwa [List.append_nil, htext] at this
    have hshift := hclean.shift u
    rw [List.append_nil] at hshift
    rw [List.flatMap_cons]
    refine ⟨hshift.append ?_, ?_⟩
    · rw [hrun]
      exact (hflat _).1
    · rw [List.foldl_append, hrun, (hflat _).2]
      simp

theorem RunText.getLast? {rs : List TargetRun} {ts : List Sprite} (h : List.Forall₂ RunText rs ts) :
    ∀ r ∈ rs, r.pieces.getLast? = some (.text "\x7d,") := by
  induction h with
  | nil => simp
  | cons hr _ ih =>
    intro r' hr'
    rcases List.mem_cons.1 hr' with rfl | hr'
    · obtain ⟨-, -, -, -, hlast⟩ := hr
      exact hlast
    · exact ih r' hr'

/-! ## The frame of the document -/

theorem Generation.pieces_map_snd (g : Generation) :
    g.pieces.map (·.2) = Generation.opening ++ g.runs.flatMap (·.pieces) ++
      (if g.finished then g.closing else []) := by
  -- the indices the runs are tagged with are dropped again
  have hruns : g.runs.flatMap (·.pieces) = g.runs.zipIdx.flatMap (·.1.pieces) := by
    conv_lhs => rw [← List.zipIdx_map_fst 0 g.runs]
    rw [List.flatMap_map]
  unfold Generation.pieces
  split <;> simp [hruns, List.map_flatMap, Function.comp_def]

/-- The pieces that end the document after the last target: the last comma is taken back, and
the target array and the document are closed. -/
def closingPieces (c : Bool) : List Piece :=
  (if c then [.stepBack] else []) ++ [.text "],", .stepBack, .text "\x7d"]

theorem closing_eq {g : Generation} {ts : List Sprite} (h : List.Forall₂ RunText g.runs ts) :
    g.closing = closingPieces (!g.runs.isEmpty) := by
  unfold Generation.closing
  rcases List.eq_nil_or_concat g.runs with hnil | ⟨rs, r, hr⟩
  · rw [hnil]
    simp [Generation.opening, closingPieces, Writer.close, Writer.closeLast, Writer.str,
      Writer.written, String.back?_eq]
  · have hlast := RunText.getLast? h r (by simp [hr])
    rw [hr]
    simp [hlast, closingPieces, Writer.close, Writer.closeLast, Writer.str, Writer.written,
      String.back?_eq]

theorem closingPieces_text (u : List Char) :
    CleanAfter u (closingPieces (u.getLast? == some ',')) ∧
      (closingPieces (u.getLast? == some ',')).foldl Piece.apply u =
        trimComma u ++ "]\x7d".toList := by
  by_cases hc : u.getLast? = some ','
  · simp [hc, closingPieces, CleanAfter, Piece.apply, trimComma]
  · simp [hc, closingPieces, CleanAfter, Piece.apply, trimComma]

theorem generate_document {p : Project} (hm : ∀ t ∈ p.targets, t.Writable)
    (hfin : (generate p).finished = true) (hfits : (generate p).lastId < Nat.pow 2 32) :
    ∃ objs, List.Forall₂ TargetObject objs p.targets ∧
      CleanAfter [] ((generate p).pieces.map (·.2)) ∧
      ((generate p).pieces.map (·.2)).foldl Piece.apply [] =
        objectText [(key "targets", arrayText objs)] := by
  have hruns := generate_runText hm hfin hfits
  obtain ⟨objs, hobjs, hflat⟩ := RunText.flatMap hruns
  let u := "\x7b\"targets\":[".toList ++ commaJoin objs
  have hcomma : (!(generate p).runs.isEmpty) = (u.getLast? == some ',') := by
    have hlen := hruns.length_eq.trans hobjs.length_eq.symm
    by_cases hnil : objs = []
    · subst hnil
      simp [u, List.length_eq_zero_iff.1 hlen]
    · have hne : (generate p).runs ≠ [] := fun h =>
        hnil (List.length_eq_zero_iff.1 (by simp [← hlen, h]))
      have hlast : u.getLast? = some ',' := by
        rw [List.getLast?_append, getLast?_commaJoin hnil]
        rfl
      rw [hlast]
      simp [hne]
  obtain ⟨hclose, hclosed⟩ := closingPieces_text u
  have hframe : Generation.opening.foldl Piece.apply [] = "\x7b\"targets\":[".toList := rfl
  rw [Generation.pieces_map_snd, if_pos hfin, closing_eq hruns, hcomma]
  refine ⟨objs, hobjs, CleanAfter.append (CleanAfter.append trivial ?_) ?_, ?_⟩
  · rw [hframe]
    exact (hflat _).1
  · rw [List.foldl_append, hframe, (hflat _).2]
    exact hclose
  · rw [List.foldl_append, List.foldl_append, hframe, (hflat _).2, hclosed,
      trimComma_commaJoin (by simp)]
    simp [objectText, memberText, key, arrayText, commaSep]

end BlockGraph.Graph
