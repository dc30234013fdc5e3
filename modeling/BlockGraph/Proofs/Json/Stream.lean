import BlockGraph.Graph.Writer
import BlockGraph.Proofs.Json.Grammar
import BlockGraph.Proofs.Emission.Buffer
/-!
# Streams of JSON text

A buffer after a stream of pieces is a left fold over them; a clean stream, whose steps back drop
only commas it wrote, leaves exactly the bytes of its text.
-/

namespace BlockGraph.Graph

open Json.Grammar

/-- What one piece does to the text written before it. -/
def Piece.apply (t : List Char) : Piece → List Char
  | .text s => t ++ s.toList
  | .stepBack => t.dropLast

theorem applyPieces_toList (done last : String) (ps : List Piece) :
    (applyPieces done last ps).toList = ps.foldl Piece.apply (done ++ last).toList := by
  induction ps generalizing done last with
  | nil => rfl
  | cons p ps ih =>
    cases p with
    | text s => rw [applyPieces, ih, List.foldl_cons, Piece.apply, String.toList_append]
    | stepBack =>
      rw [applyPieces, List.foldl_cons, Piece.apply]
      split
      · rename_i hlast
        rw [ih, hlast, String.append_empty, String.append_empty, String.Slice.toString_eq,
          String.toList_copy_dropEnd, List.dropLast_eq_take]
      · rename_i hlast
        have hne : last.toList ≠ [] := fun h => hlast (String.toList_eq_nil_iff.1 h)
        rw [ih, String.toList_append, String.toList_append, String.Slice.toString_eq,
          String.toList_copy_dropEnd, ← List.dropLast_eq_take, List.dropLast_append_of_ne_nil hne]

theorem textOf_toList (ps : List Piece) : (textOf ps).toList = ps.foldl Piece.apply [] :=
  applyPieces_toList "" "" ps

/-- Items each followed by a comma. -/
def commaJoin (items : List (List Char)) : List Char := (items.map (· ++ [','])).flatten

/-- A text without the comma it ends with, if it ends with one. -/
def trimComma (s : List Char) : List Char := if s.getLast? = some ',' then s.dropLast else s

@[simp] theorem commaJoin_nil : commaJoin [] = [] := rfl

@[simp] theorem commaJoin_cons (x : List Char) (xs : List (List Char)) :
    commaJoin (x :: xs) = x ++ ',' :: commaJoin xs := by
  simp [commaJoin]

theorem commaJoin_append (xs ys : List (List Char)) :
    commaJoin (xs ++ ys) = commaJoin xs ++ commaJoin ys := by
  simp [commaJoin]

theorem commaJoin_dropLast : ∀ {items : List (List Char)}, items ≠ [] →
    (commaJoin items).dropLast = commaSep items
  | [x], _ => by simp [commaSep]
  | x :: y :: rest, _ => by
    have hrest : commaJoin (y :: rest) ≠ [] := by simp
    rw [commaJoin_cons, List.dropLast_append_of_ne_nil (List.cons_ne_nil _ _),
      List.dropLast_cons_of_ne_nil hrest, commaJoin_dropLast (List.cons_ne_nil y rest), commaSep,
      commaSep, List.intercalate_cons_cons]
    simp

theorem getLast?_commaJoin : ∀ {items : List (List Char)}, items ≠ [] →
    (commaJoin items).getLast? = some ','
  | [x], _ => by simp
  | x :: y :: rest, _ => by
    rw [commaJoin_cons, List.getLast?_append, List.getLast?_cons,
      getLast?_commaJoin (List.cons_ne_nil y rest)]
    rfl

/-- An opener, items each followed by a comma, and the last comma taken back: the items
separated by commas after the opener. -/
theorem trimComma_commaJoin {opener : List Char} (hopen : opener.getLast? ≠ some ',')
    (items : List (List Char)) :
    trimComma (opener ++ commaJoin items) = opener ++ commaSep items := by
  unfold trimComma
  by_cases hnil : items = []
  · subst hnil
    simp [hopen, commaSep]
  · have hne : items ≠ [] := hnil
    have hjoin : commaJoin items ≠ [] := fun h => by simpa [h] using getLast?_commaJoin hne
    rw [List.getLast?_append, getLast?_commaJoin hne, Option.some_or, if_pos rfl,
      List.dropLast_append_of_ne_nil hjoin, commaJoin_dropLast hne]

/-- The stream, after the text `u` it wrote so far, takes back only commas it wrote itself,
each right before a write of some text. -/
def CleanAfter : List Char → List Piece → Prop
  | _, [] => True
  | u, .text s :: ps => CleanAfter (u ++ s.toList) ps
  | u, .stepBack :: .text s :: ps =>
    u.getLast? = some ',' ∧ s ≠ "" ∧ CleanAfter (u.dropLast ++ s.toList) ps
  | _, .stepBack :: _ => False

namespace CleanAfter

theorem ne_nil_of_getLast? {u : List Char} {c : Char} (h : u.getLast? = some c) : u ≠ [] := by
  rintro rfl
  cases h

theorem foldl_append : ∀ {u : List Char} {ps : List Piece}, CleanAfter u ps → ∀ t,
    ps.foldl Piece.apply (t ++ u) = t ++ ps.foldl Piece.apply u
  | _, [], _, _ => rfl
  | u, .text s :: ps, h, t => by
    rw [List.foldl_cons, List.foldl_cons, Piece.apply, Piece.apply, List.append_assoc]
    exact foldl_append (show CleanAfter (u ++ s.toList) ps from h) t
  | u, .stepBack :: .text s :: ps, ⟨hu, _, h⟩, t => by
    simp only [List.foldl_cons, Piece.apply]
    rw [List.dropLast_append_of_ne_nil (ne_nil_of_getLast? hu), List.append_assoc]
    exact foldl_append h t
  | _, .stepBack :: .stepBack :: _, h, _ => (h : False).elim
  | _, [.stepBack], h, _ => (h : False).elim

theorem shift : ∀ {u : List Char} {ps : List Piece}, CleanAfter u ps → ∀ v, CleanAfter (v ++ u) ps
  | _, [], _, _ => trivial
  | u, .text s :: ps, h, v => by
    show CleanAfter (v ++ u ++ s.toList) ps
    rw [List.append_assoc]
    exact shift (show CleanAfter (u ++ s.toList) ps from h) v
  | u, .stepBack :: .text s :: ps, ⟨hu, hs, h⟩, v => by
    have hne := ne_nil_of_getLast? hu
    refine ⟨by rw [List.getLast?_append, hu]; rfl, hs, ?_⟩
    rw [List.dropLast_append_of_ne_nil hne, List.append_assoc]
    exact shift h v
  | _, .stepBack :: .stepBack :: _, h, _ => (h : False).elim
  | _, [.stepBack], h, _ => (h : False).elim

theorem append : ∀ {u : List Char} {ps₁ ps₂ : List Piece}, CleanAfter u ps₁ →
    CleanAfter (ps₁.foldl Piece.apply u) ps₂ → CleanAfter u (ps₁ ++ ps₂)
  | _, [], _, _, h₂ => h₂
  | u, .text s :: ps, ps₂, h₁, h₂ => @append (u ++ s.toList) ps ps₂ h₁ h₂
  | u, .stepBack :: .text s :: ps, ps₂, ⟨hu, hs, h₁⟩, h₂ =>
    ⟨hu, hs, @append (u.dropLast ++ s.toList) ps ps₂ h₁ h₂⟩
  | _, .stepBack :: .stepBack :: _, _, h, _ => (h : False).elim
  | _, [.stepBack], _, h, _ => (h : False).elim

end CleanAfter

/-- The bytes of a text given as characters. -/
def charBytes (u : List Char) : List UInt8 := textBytes (String.ofList u)

theorem charBytes_append (u v : List Char) : charBytes (u ++ v) = charBytes u ++ charBytes v := by
  simp [charBytes, textBytes, String.ofList_append]

theorem charBytes_comma : charBytes [','] = [44] := by rfl

theorem charBytes_toList (s : String) : charBytes s.toList = textBytes s := by
  rw [charBytes, String.ofList_toList]

theorem length_textBytes (s : String) : (textBytes s).length = s.utf8ByteSize := by
  simp [textBytes]

namespace Buffer

variable {b : Buffer}

theorem write_end (h : b.Valid) (hend : b.pos = b.len) (p : List UInt8) :
    (b.write p).bytes = b.bytes ++ p ∧ (b.write p).pos = (b.write p).len := by
  have hlen := length_bytes h.len_le
  refine ⟨?_, by rw [write_pos, write_len]; omega⟩
  rw [bytes_write h, List.take_of_length_le (by omega), List.drop_eq_nil_of_le (by omega),
    List.append_nil]

theorem seek_back (h : b.Valid) (hend : b.pos = b.len) (hfits : b.len < Nat.pow 2 63)
    {d : List UInt8} {x : UInt8} (hbytes : b.bytes = d ++ [x]) :
    ∃ b' n, b.seek (-1) 1 = .ok (b', n) ∧ b'.Valid ∧ b'.bytes = b.bytes ∧ b'.pos = d.length := by
  have hlen : b.len = d.length + 1 := by
    rw [← length_bytes h.len_le, hbytes, List.length_append, List.length_singleton]
  have hbase : seekBase? b 1 = some b.pos := rfl
  have hoff : (-1 : Int64).toInt = -1 := by decide
  have hmax : Int64.maxValue.toInt = 9223372036854775807 := by decide
  have hlt : b.len < 9223372036854775808 := hfits
  have hblen := length_bytes h.len_le
  obtain ⟨b', hseek, hpos, hget⟩ :=
    ((seek_follows_reference h hfits (-1) 1).2 b.pos hbase).2 (by rw [hoff, hmax]; omega)
  refine ⟨b', _, hseek, seek_valid h hseek, List.ext_getElem? fun i => ?_, by rw [hpos, hoff]; omega⟩
  rw [hget i]
  split
  · rfl
  · rw [if_neg (by rw [hoff]; omega), List.getElem?_eq_none (by omega)]

theorem write_over_last (h : b.Valid) {d p : List UInt8} {x : UInt8} (hbytes : b.bytes = d ++ [x])
    (hpos : b.pos = d.length) (hp : p ≠ []) :
    (b.write p).bytes = d ++ p ∧ (b.write p).pos = (b.write p).len := by
  have hlen : b.len = d.length + 1 := by
    rw [← length_bytes h.len_le, hbytes, List.length_append, List.length_singleton]
  have : 0 < p.length := List.length_pos_iff.2 hp
  refine ⟨?_, by rw [write_pos, write_len]; omega⟩
  rw [bytes_write h, hbytes, hpos, List.take_left,
    List.drop_eq_nil_of_le (by rw [List.length_append, List.length_singleton]; omega),
    List.append_nil]

end Buffer

namespace CleanAfter

theorem eq_dropLast_comma {u : List Char} (hu : u.getLast? = some ',') :
    u = u.dropLast ++ [','] := by
  obtain ⟨u', c, rfl⟩ := (List.eq_nil_or_concat u).resolve_left (ne_nil_of_getLast? hu)
  simp at hu
  rw [hu, List.concat_eq_append, List.dropLast_concat]

theorem length_le : ∀ {u : List Char} {ps : List Piece}, CleanAfter u ps → ∀ t,
    (charBytes (t ++ u)).length ≤ (charBytes (t ++ ps.foldl Piece.apply u)).length
  | _, [], _, _ => Nat.le_refl _
  | u, .text s :: ps, h, t => by
    have hrest := length_le (show CleanAfter (u ++ s.toList) ps from h) t
    rw [← List.append_assoc, charBytes_append (t ++ u)] at hrest
    rw [List.foldl_cons, Piece.apply]
    simp only [List.length_append] at hrest
    omega
  | u, .stepBack :: .text s :: ps, ⟨hu, hs, h⟩, t => by
    have hrest := length_le h t
    have hcomma : u = u.dropLast ++ [','] := eq_dropLast_comma hu
    have hne : 0 < (textBytes s).length := by
      rw [length_textBytes]
      exact Nat.pos_of_ne_zero fun h0 => hs (String.utf8ByteSize_eq_zero_iff.1 h0)
    rw [List.foldl_cons, List.foldl_cons, Piece.apply, Piece.apply]
    rw [← List.append_assoc, charBytes_append (t ++ u.dropLast), charBytes_toList] at hrest
    rw [hcomma, List.dropLast_concat, ← List.append_assoc, charBytes_append, charBytes_comma]
    simp only [List.length_append, List.length_singleton] at hrest ⊢
    omega
  | _, .stepBack :: .stepBack :: _, h, _ => (h : False).elim
  | _, [.stepBack], h, _ => (h : False).elim

/-- A clean stream replayed on a slice that holds `t ++ u`, its position at the end: every seek
succeeds, and the slice ends holding the bytes of the text, its position again at the end, as
long as that text fits in 2^63 bytes. -/
theorem play : ∀ {u : List Char} {ps : List Piece}, CleanAfter u ps → ∀ t (b : Buffer),
    b.Valid → b.pos = b.len → b.bytes = charBytes (t ++ u) →
    (charBytes (t ++ ps.foldl Piece.apply u)).length < Nat.pow 2 63 →
    ∃ b', Buffer.play b ps = .ok b' ∧ b'.Valid ∧ b'.pos = b'.len ∧
      b'.bytes = charBytes (t ++ ps.foldl Piece.apply u)
  | _, [], _, _, b, hv, hend, hbytes, _ => ⟨b, rfl, hv, hend, hbytes⟩
  | u, .text s :: ps, h, t, b, hv, hend, hbytes, hfits => by
    obtain ⟨hwrite, hwend⟩ := Buffer.write_end hv hend (textBytes s)
    have hnext : (b.write (textBytes s)).bytes = charBytes (t ++ (u ++ s.toList)) := by
      rw [hwrite, hbytes, ← charBytes_toList, ← charBytes_append, List.append_assoc]
    exact play (show CleanAfter (u ++ s.toList) ps from h) t _ (Buffer.write_valid hv _) hwend
      hnext hfits
  | u, .stepBack :: .text s :: ps, ⟨hu, hs, h⟩, t, b, hv, hend, hbytes, hfits => by
    -- the comma taken back is the last byte, and the text written after it covers it
    have hcomma : u = u.dropLast ++ [','] := eq_dropLast_comma hu
    have hne : textBytes s ≠ [] := by
      rw [← List.length_pos_iff, length_textBytes]
      exact Nat.pos_of_ne_zero fun h0 => hs (String.utf8ByteSize_eq_zero_iff.1 h0)
    have hlast : b.bytes = charBytes (t ++ u.dropLast) ++ [44] := by
      rw [hbytes, hcomma, ← List.append_assoc, charBytes_append, charBytes_comma,
        List.dropLast_concat]
    have hshort : b.len < Nat.pow 2 63 := by
      have := length_le (show CleanAfter u (.stepBack :: .text s :: ps) from ⟨hu, hs, h⟩) t
      rw [← Buffer.length_bytes hv.len_le, hbytes]
      omega
    obtain ⟨b₁, n, hseek, hv₁, hbytes₁, hpos₁⟩ := Buffer.seek_back hv hend hshort hlast
    obtain ⟨hwrite, hwend⟩ :=
      Buffer.write_over_last hv₁ (hbytes₁.trans hlast) hpos₁ hne
    have hnext : (b₁.write (textBytes s)).bytes = charBytes (t ++ (u.dropLast ++ s.toList)) := by
      rw [hwrite, ← charBytes_toList, ← charBytes_append, List.append_assoc]
    have hplay : Buffer.play b (.stepBack :: .text s :: ps) =
        Buffer.play (b₁.write (textBytes s)) ps := by
      rw [Buffer.play, hseek]
      rfl
    have hfold : (Piece.stepBack :: Piece.text s :: ps).foldl Piece.apply u =
        ps.foldl Piece.apply (u.dropLast ++ s.toList) := by
      simp only [List.foldl_cons, Piece.apply]
    rw [hplay, hfold]
    rw [hfold] at hfits
    exact play h t _ (Buffer.write_valid hv₁ _) hwend hnext hfits
  | _, .stepBack :: .stepBack :: _, h, _, _, _, _, _, _ => (h : False).elim
  | _, [.stepBack], h, _, _, _, _, _, _ => (h : False).elim

/-- A clean stream whose text fits in 2^63 bytes, replayed from the empty buffer, leaves the
bytes of its text with the position at their end. -/
theorem play_textOf {ps : List Piece} (h : CleanAfter [] ps)
    (hfits : (textOf ps).utf8ByteSize < Nat.pow 2 63) :
    ∃ b, Buffer.play {} ps = .ok b ∧ b.pos = b.len ∧ b.bytes = textBytes (textOf ps) := by
  have hstart : ({} : Buffer).bytes = charBytes ([] ++ []) := rfl
  rw [← length_textBytes, ← charBytes_toList, textOf_toList, ← List.nil_append (ps.foldl _ _)]
    at hfits
  obtain ⟨b, hplay, -, hend, hbytes⟩ := h.play [] {} Buffer.valid_empty rfl hstart hfits
  refine ⟨b, hplay, hend, ?_⟩
  rw [hbytes, List.nil_append, ← textOf_toList, charBytes_toList]

end CleanAfter

/-- The pieces from `w` to `w'` form a clean stream of text `s`, and the comma of `w'` says
whether `s` ends with one (`w'` keeps the comma of `w` when `s` is empty). -/
def Writer.Appends (w w' : Writer) (s : List Char) : Prop :=
  (∃ ps : List Piece, w'.pieces = ps.reverse ++ w.pieces ∧ CleanAfter [] ps ∧
    ps.foldl Piece.apply [] = s) ∧
    w'.comma = (s.getLast?.map (· == ',')).getD w.comma

namespace Writer.Appends

theorem foldl_apply {ps : List Piece} {s : List Char} (hc : CleanAfter [] ps)
    (hf : ps.foldl Piece.apply [] = s) (t : List Char) : ps.foldl Piece.apply t = t ++ s := by
  have := hc.foldl_append t
  rwa [List.append_nil, hf] at this

theorem refl (w : Writer) : Appends w w [] :=
  ⟨⟨[], rfl, trivial, rfl⟩, rfl⟩

theorem trans {w₀ w₁ w₂ : Writer} {s₁ s₂ : List Char} (h₁ : Appends w₀ w₁ s₁)
    (h₂ : Appends w₁ w₂ s₂) : Appends w₀ w₂ (s₁ ++ s₂) := by
  obtain ⟨⟨ps₁, hp₁, hc₁, hf₁⟩, hm₁⟩ := h₁
  obtain ⟨⟨ps₂, hp₂, hc₂, hf₂⟩, hm₂⟩ := h₂
  refine ⟨⟨ps₁ ++ ps₂, by rw [hp₂, hp₁, List.reverse_append, List.append_assoc], ?_, ?_⟩, ?_⟩
  · refine hc₁.append ?_
    rw [hf₁, ← List.append_nil s₁]
    exact hc₂.shift s₁
  · rw [List.foldl_append, hf₁, foldl_apply hc₂ hf₂]
  · rw [hm₂, hm₁, List.getLast?_append]
    cases s₂.getLast? <;> rfl

theorem str (w : Writer) (s : String) : Appends w (w.str s) s.toList := by
  unfold Writer.str
  split
  · rename_i hs
    rw [hs]
    exact refl w
  · rename_i hs
    refine ⟨⟨[.text s], rfl, trivial, rfl⟩, ?_⟩
    show (s.back == ',') = _
    rw [String.back_eq, String.back?_eq]
    cases hlast : s.toList.getLast? with
    | none => exact absurd (String.toList_eq_nil_iff.1 (List.getLast?_eq_none_iff.1 hlast)) hs
    | some c => rfl

@[simp] theorem back?_append_comma (c : String) : (c ++ ",").back? = some ',' := by
  rw [String.back?_eq, String.toList_append]
  simp

theorem takeBack {w₀ w₁ : Writer} {s : List Char} (h : Appends w₀ w₁ s) (hs : s ≠ [])
    (closer : String) (hcloser : closer ≠ "") :
    Appends w₀ ((if w₁.comma then { pieces := .stepBack :: w₁.pieces, comma := false } else w₁).str
      closer) (trimComma s ++ closer.toList) := by
  obtain ⟨⟨ps, hp, hc, hf⟩, hm⟩ := h
  obtain ⟨s', x, rfl⟩ := (List.eq_nil_or_concat s).resolve_left hs
  rw [List.concat_eq_append] at hf hm ⊢
  have hcomma : w₁.comma = (x == ',') := by simpa using hm
  have hlast : (closer.back == ',') = ((trimComma (s' ++ [x]) ++ closer.toList).getLast?.map
      (· == ',')).getD w₀.comma := by
    have hne : closer.toList ≠ [] := fun h => hcloser (String.toList_eq_nil_iff.1 h)
    obtain ⟨k', y, hk⟩ := (List.eq_nil_or_concat closer.toList).resolve_left hne
    rw [String.back_eq, String.back?_eq, hk, List.concat_eq_append, ← List.append_assoc,
      List.getLast?_concat, List.getLast?_concat]
    rfl
  unfold Writer.str
  rw [if_neg hcloser, hcomma]
  cases hx : x == ','
  · -- no comma to take back
    have hx' : x ≠ ',' := by simpa using hx
    rw [if_neg Bool.false_ne_true]
    refine ⟨⟨ps ++ [.text closer], by simp [hp], hc.append (by rw [hf]; trivial), ?_⟩, hlast⟩
    rw [List.foldl_append, hf]
    simp [Piece.apply, trimComma, hx']
  · -- the text ended with the comma its last item left
    have hx' : x = ',' := by simpa using hx
    subst hx'
    rw [if_pos rfl]
    refine ⟨⟨ps ++ [.stepBack, .text closer], by simp [hp], hc.append ?_, ?_⟩, hlast⟩
    · rw [hf]
      exact ⟨by simp, hcloser, trivial⟩
    · rw [List.foldl_append, hf]
      simp [Piece.apply, trimComma]

theorem close {w₀ w₁ : Writer} {s : List Char} (h : Appends w₀ w₁ s) (hs : s ≠ []) (c : String) :
    Appends w₀ (w₁.close c) (trimComma s ++ c.toList ++ [',']) := by
  have hstr : c ++ "," ≠ "" := fun h => by
    simpa [String.toList_append] using congrArg String.toList h
  have := h.takeBack hs (c ++ ",") hstr
  rwa [String.toList_append, ← List.append_assoc] at this

theorem closeLast {w₀ w₁ : Writer} {s : List Char} (h : Appends w₀ w₁ s) (hs : s ≠ []) (c : String)
    (hc : c ≠ "") : Appends w₀ (w₁.closeLast c) (trimComma s ++ c.toList) :=
  h.takeBack hs c hc

theorem foldl {α : Type} {f : Writer → α → Writer} {m : α → List Char} :
    ∀ (xs : List α), (∀ w, ∀ a ∈ xs, Appends w (f w a) (m a)) → ∀ w : Writer,
      Appends w (xs.foldl f w) (xs.flatMap m)
  | [], _, w => refl w
  | x :: xs, hf, w => by
    rw [List.foldl_cons, List.flatMap_cons]
    exact (hf w x List.mem_cons_self).trans
      (foldl xs (fun w a ha => hf w a (List.mem_cons_of_mem x ha)) (f w x))

theorem container {w₀ w₁ : Writer} {opener : List Char} {items : List (List Char)}
    (h : Appends w₀ w₁ (opener ++ commaJoin items)) (hopen : opener ≠ [])
    (hlast : opener.getLast? ≠ some ',') (c : String) :
    Appends w₀ (w₁.close c) (opener ++ commaSep items ++ c.toList ++ [',']) := by
  have := h.close (by simp [hopen]) c
  rwa [trimComma_commaJoin hlast] at this

theorem written {c : Bool} {w : Writer} {s : List Char} (h : Appends { comma := c } w s) :
    CleanAfter [] w.written ∧ w.written.foldl Piece.apply [] = s := by
  obtain ⟨⟨ps, hp, hc, hf⟩, -⟩ := h
  have hw : w.written = ps := by simp [Writer.written, hp]
  rw [hw]
  exact ⟨hc, hf⟩

end Writer.Appends

theorem Writer.close_written_getLast? (w : Writer) (c : String) :
    (w.close c).written.getLast? = some (.text (c ++ ",")) := by
  unfold Writer.close Writer.written Writer.str
  split <;> simp

end BlockGraph.Graph
