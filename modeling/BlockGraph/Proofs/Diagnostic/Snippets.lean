import BlockGraph.Diagnostic.Render
import BlockGraph.Proofs.Source.Positions
import Mathlib.Data.List.TakeWhile
/-!
# Source snippets stay inside their lines

The caret of a snippet is cut between two columns clamped into the line; the pretty form fails
only for a span at column 0 of a non-empty file, which a 32-bit column reaches by wrapping.
-/

namespace BlockGraph

theorem FileSet.one_le_resolve_line (fs : FileSet) (s : Span) : 1 ≤ (fs.resolve s).1.line := by
  unfold FileSet.resolve
  split
  · exact Nat.le_refl 1
  · exact Nat.le_add_left 1 _

theorem firstShownLine_eq {line : Nat} (hline : 1 ≤ line) {context : Int} (hc : 0 ≤ context) :
    firstShownLine line context = max 1 (line - context.toNat) := by
  unfold firstShownLine
  split
  · rename_i h
    have hzero : context.toNat = 0 := by omega
    rw [hzero]
    omega
  · omega

theorem caretRange_le (line : List UInt8) (start stop : LineCol) :
    (caretRange line start stop).1 ≤ (caretRange line start stop).2 ∧
      (caretRange line start stop).2 ≤ line.length := by
  unfold caretRange
  dsimp only
  split <;> omega

theorem snippet_of_content_eq_nil {fs : FileSet} {f : SourceFile} (s : Span) (context : Int)
    (color : Bool) (hf : f.content = []) : snippet fs f s context color = .ok "" := by
  unfold snippet
  rw [hf]
  rfl

theorem snippet_of_col_eq_zero {fs : FileSet} {f : SourceFile} (s : Span) (context : Int)
    (color : Bool) (hne : f.content ≠ []) (hcol : (fs.resolve s).1.col = 0) :
    snippet fs f s context color = .error .columnBeforeLine := by
  unfold snippet
  rw [if_neg (by simpa using hne)]
  generalize fs.resolve s = r at hcol
  obtain ⟨start, stop⟩ := r
  dsimp only at hcol ⊢
  rw [if_pos hcol]
  rfl

/-- The snippet of a span that starts on a column of a non-empty file: the lines from the first
shown down to the start line, each with its number in the gutter, then the caret line, padded
by the display width of the line before the caret and marking the bytes under it. -/
theorem snippet_eq {fs : FileSet} {f : SourceFile} (s : Span) (context : Int) (color : Bool)
    (hne : f.content ≠ []) (hcol : (fs.resolve s).1.col ≠ 0) :
    let start := (fs.resolve s).1
    let line := f.lineBytes start.line
    let range := caretRange line start (fs.resolve s).2
    let first := firstShownLine start.line context
    snippet fs f s context color = .ok
      (String.join ((List.range' first (start.line + 1 - first)).map fun ln =>
          gutterLine color (toString start.line).length ln (f.lineBytes ln)) ++
        caretLine color (toString start.line).length
          (Unicode.displayWidth (expandTabs (line.take range.1)))
          (max (Unicode.displayWidth (expandTabs ((line.take range.2).drop range.1))) 1)) := by
  unfold snippet
  rw [if_neg (by simpa using hne)]
  generalize fs.resolve s = r at hcol ⊢
  obtain ⟨start, stop⟩ := r
  dsimp only at hcol ⊢
  rw [if_neg hcol]
  rfl

theorem snippet_ok_iff (fs : FileSet) (f : SourceFile) (s : Span) (context : Int) (color : Bool) :
    (∃ text, snippet fs f s context color = .ok text) ↔
      f.content = [] ∨ (fs.resolve s).1.col ≠ 0 := by
  by_cases hne : f.content = []
  · exact ⟨fun _ => Or.inl hne, fun _ => ⟨"", snippet_of_content_eq_nil s context color hne⟩⟩
  by_cases hcol : (fs.resolve s).1.col = 0
  · rw [snippet_of_col_eq_zero s context color hne hcol]
    simp [hne, hcol]
  · exact ⟨fun _ => Or.inr hcol, fun _ => ⟨_, snippet_eq s context color hne hcol⟩⟩

theorem Diagnostic.pretty_ok_iff_snippet (d : Diagnostic) (fs : FileSet) (o : PrettyOptions) :
    (∃ text, d.pretty fs o = .ok text) ↔
      ∀ f, fs.locates d.primary = true → fs.get? d.primary.file = some f →
        ∃ text, snippet fs f d.primary o.context o.color = .ok text := by
  unfold Diagnostic.pretty
  generalize fs.locates d.primary = located
  generalize hget : fs.get? d.primary.file = file?
  cases located <;> cases file? with
  | none => simp [bind, Except.bind, pure, Except.pure]
  | some f =>
    cases hs : snippet fs f d.primary o.context o.color <;>
      simp [bind, Except.bind, pure, Except.pure, hs]

theorem Bag.pretty_ok_iff (b : Bag) (fs : FileSet) (o : PrettyOptions) :
    (∃ text, b.pretty fs o = .ok text) ↔ ∀ d ∈ b.items, ∃ text, d.pretty fs o = .ok text := by
  unfold Bag.pretty
  generalize b.items = ds
  induction ds with
  | nil => simp [Functor.map, Except.map, pure, Except.pure]
  | cons d ds ih =>
    rw [List.mapM_cons]
    cases hd : d.pretty fs o with
    | error e => simp [bind, Except.bind, Functor.map, Except.map, hd]
    | ok t =>
      rw [List.forall_mem_cons, ← ih]
      cases hds : ds.mapM (·.pretty fs o) <;>
        simp [bind, Except.bind, Functor.map, Except.map, pure, Except.pure, hd]

/-- In a file a set adds, the start of a span (a 32-bit offset) is at column 0 exactly when it
is the last offset `2^32 - 1` and no line feed comes before it. -/
theorem FileSet.added_resolve_col_eq_zero_iff (fs : FileSet) (path : String)
    (content : List UInt8) (isVirtual : Bool) {start : Nat} (stop : Nat)
    (hstart : start < Nat.pow 2 32) :
    ((fs.add path content isVirtual).1.resolve
        { file := (fs.add path content isVirtual).2, start, stop }).1.col = 0 ↔
      start + 1 = Nat.pow 2 32 ∧ (0x0A : UInt8) ∉ (dropCrBeforeLf content).take start := by
  obtain ⟨f, -, hcontent, hresolve, -⟩ := FileSet.added_file_positions fs path content isVirtual
  have hnone : lineStartBefore f.content start = 0 ↔ (0x0A : UInt8) ∉ f.content.take start := by
    unfold lineStartBefore
    rw [List.length_eq_zero_iff, List.dropWhile_eq_nil_iff]
    simp only [List.mem_reverse, bne_iff_ne, ne_eq]
    exact ⟨fun h hm => h _ hm rfl, fun h x hx hx10 => h (hx10 ▸ hx)⟩
  rw [hresolve, plainLineCol_col f.content hstart, ← hcontent, ← hnone]
  split
  · rename_i h
    exact ⟨fun _ => h, fun _ => rfl⟩
  · rename_i h
    constructor
    · intro hzero
      have hle := lineStartBefore_le f.content start
      omega
    · intro h'
      exact absurd h' h

/-- The pretty form of a finding never cuts a source line out of range. It fails exactly when
the primary span is located in a non-empty file and starts at column 0. Otherwise, with a
context of at least 0, the snippet of the span's non-empty file cuts the caret's bytes of the
start line `L` between two columns inside it, shows the lines from `max 1 (L - context)` down to
`L`, and draws a caret of at least one column, padded by the display width of the bytes of the
line before it with tabs made spaces. -/
theorem Diagnostic.pretty_snippet_within_line (d : Diagnostic) (fs : FileSet) (o : PrettyOptions) :
    ((∃ text, d.pretty fs o = .ok text) ↔
        ∀ f, fs.locates d.primary = true → fs.get? d.primary.file = some f →
          f.content = [] ∨ (fs.resolve d.primary).1.col ≠ 0) ∧
      ∀ f, fs.get? d.primary.file = some f → f.content ≠ [] →
        (fs.resolve d.primary).1.col ≠ 0 → 0 ≤ o.context →
        let start := (fs.resolve d.primary).1
        let line := f.lineBytes start.line
        let range := caretRange line start (fs.resolve d.primary).2
        let first := max 1 (start.line - o.context.toNat)
        range.1 ≤ range.2 ∧ range.2 ≤ line.length ∧
          snippet fs f d.primary o.context o.color = .ok
            (String.join ((List.range' first (start.line + 1 - first)).map fun ln =>
                gutterLine o.color (toString start.line).length ln (f.lineBytes ln)) ++
              caretLine o.color (toString start.line).length
                (Unicode.displayWidth (expandTabs (line.take range.1)))
                (max (Unicode.displayWidth (expandTabs ((line.take range.2).drop range.1))) 1)) := by
  refine ⟨?_, fun f _ hne hcol hc => ?_⟩
  · rw [Diagnostic.pretty_ok_iff_snippet]
    exact forall_congr' fun f => imp_congr_right fun _ => imp_congr_right fun _ =>
      snippet_ok_iff fs f d.primary o.context o.color
  · have hfirst := firstShownLine_eq (FileSet.one_le_resolve_line fs d.primary) hc
    obtain ⟨hcol_le, hlast_le⟩ := caretRange_le (f.lineBytes (fs.resolve d.primary).1.line)
      (fs.resolve d.primary).1 (fs.resolve d.primary).2
    refine ⟨hcol_le, hlast_le, ?_⟩
    rw [snippet_eq d.primary o.context o.color hne hcol, hfirst]

end BlockGraph
