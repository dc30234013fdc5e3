import BlockGraph.Dump.Encode
/-!
# The encodings of a dump forget the sign of zero

A dump writes a floating literal only when it is not zero, and a negative zero equals zero, so a
document and its `unsignZeros` are written alike in both encodings.
-/

namespace BlockGraph.Dump

/-- The floating number an encoding keeps of a literal: `+0` for one that equals zero. -/
def unsignZero (x : Float) : Float := if x == 0 then 0 else x

theorem unsignZero_beq_zero (x : Float) : (unsignZero x == 0) = (x == 0) := by
  unfold unsignZero
  split
  · rename_i hx
    rw [hx]
    decide
  · rfl

theorem unsignZero_of_ne {x : Float} (hx : (x == 0) = false) : unsignZero x = x := by
  rw [unsignZero, if_neg (by simp [hx])]

mutual

/-- The expression with every floating literal that equals zero made `+0`. -/
def Expr.unsignZeros : Expr → Expr
  | ⟨kind, span, int, float, str, name, field, repr, args, op, operand, lhs, rhs, argsSpare⟩ =>
    ⟨kind, span, int, unsignZero float, str, name, field, repr, Expr.unsignZerosOf args, op,
      Expr.unsignZerosOpt operand, Expr.unsignZerosOpt lhs, Expr.unsignZerosOpt rhs,
      Expr.unsignZerosOf argsSpare⟩

def Expr.unsignZerosOf : List Expr → List Expr
  | [] => []
  | e :: es => e.unsignZeros :: Expr.unsignZerosOf es

def Expr.unsignZerosOpt : Option Expr → Option Expr
  | none => none
  | some e => some e.unsignZeros

end

mutual

/-- The statement with the zeros of all its expressions made `+0`. -/
def Stmt.unsignZeros : Stmt → Stmt
  | ⟨kind, span, name, field, type, isLocal, value, index, times, cond, op, body, orElse, block,
      proc, args, bodySpare, orElseSpare, argsSpare⟩ =>
    ⟨kind, span, name, field, type, isLocal, Expr.unsignZerosOpt value,
      Expr.unsignZerosOpt index, Expr.unsignZerosOpt times, Expr.unsignZerosOpt cond, op,
      Stmt.unsignZerosOf body, Stmt.unsignZerosOf orElse, block, proc, Expr.unsignZerosOf args,
      Stmt.unsignZerosOf bodySpare, Stmt.unsignZerosOf orElseSpare, Expr.unsignZerosOf argsSpare⟩

def Stmt.unsignZerosOf : List Stmt → List Stmt
  | [] => []
  | st :: sts => st.unsignZeros :: Stmt.unsignZerosOf sts

end

def ProcEntry.unsignZeros (p : ProcEntry) : ProcEntry :=
  { p with body := Stmt.unsignZerosOf p.body, bodySpare := Stmt.unsignZerosOf p.bodySpare }

def EventEntry.unsignZeros (ev : EventEntry) : EventEntry :=
  { ev with body := Stmt.unsignZerosOf ev.body, bodySpare := Stmt.unsignZerosOf ev.bodySpare }

def HandlerEntry.unsignZeros (h : HandlerEntry) : HandlerEntry :=
  { h with body := Stmt.unsignZerosOf h.body, bodySpare := Stmt.unsignZerosOf h.bodySpare }

/-- The stage or a sprite with the zeros of all its bodies made `+0`. -/
def SpriteEntry.unsignZeros (s : SpriteEntry) : SpriteEntry :=
  { s with
    procs := s.procs.map ProcEntry.unsignZeros, events := s.events.map EventEntry.unsignZeros,
    handlers := s.handlers.map HandlerEntry.unsignZeros,
    procsSpare := s.procsSpare.map ProcEntry.unsignZeros,
    eventsSpare := s.eventsSpare.map EventEntry.unsignZeros,
    handlersSpare := s.handlersSpare.map HandlerEntry.unsignZeros }

/-- The document with every floating literal that equals zero made `+0`. -/
def Document.unsignZeros (d : Document) : Document :=
  { d with stage := d.stage.unsignZeros, sprites := d.sprites.map fun p => (p.1, p.2.unsignZeros) }

/-! ## JSON -/

mutual

theorem exprJson_unsignZeros : ∀ e : Expr, exprJson e.unsignZeros = exprJson e
  | ⟨kind, span, int, float, str, name, field, repr, args, op, operand, lhs, rhs, spare⟩ => by
    rw [Expr.unsignZeros, exprJson, exprJson, exprsJson_unsignZeros args,
      exprOptionJson_unsignZeros operand, exprOptionJson_unsignZeros lhs,
      exprOptionJson_unsignZeros rhs, unsignZero_beq_zero]
    -- the float member is left out for a zero, and written from the literal otherwise
    cases hx : float == 0
    · rw [unsignZero_of_ne hx]
    · rw [if_pos rfl, if_pos rfl]

theorem exprsJson_unsignZeros : ∀ es : List Expr, exprsJson (Expr.unsignZerosOf es) = exprsJson es
  | [] => rfl
  | e :: es => by
    rw [Expr.unsignZerosOf, exprsJson, exprsJson, exprJson_unsignZeros e, exprsJson_unsignZeros es]

theorem exprOptionJson_unsignZeros :
    ∀ o : Option Expr, exprOptionJson (Expr.unsignZerosOpt o) = exprOptionJson o
  | none => rfl
  | some e => by rw [Expr.unsignZerosOpt, exprOptionJson, exprOptionJson, exprJson_unsignZeros e]

end

mutual

theorem stmtJson_unsignZeros : ∀ st : Stmt, stmtJson st.unsignZeros = stmtJson st
  | ⟨kind, span, name, field, type, isLocal, value, index, times, cond, op, body, orElse, block,
      proc, args, bodySpare, orElseSpare, argsSpare⟩ => by
    rw [Stmt.unsignZeros, stmtJson, stmtJson, exprOptionJson_unsignZeros value,
      exprOptionJson_unsignZeros index, exprOptionJson_unsignZeros times,
      exprOptionJson_unsignZeros cond, stmtsJson_unsignZeros body, stmtsJson_unsignZeros orElse,
      exprsJson_unsignZeros args]

theorem stmtsJson_unsignZeros :
    ∀ sts : List Stmt, stmtsJson (Stmt.unsignZerosOf sts) = stmtsJson sts
  | [] => rfl
  | st :: sts => by
    rw [Stmt.unsignZerosOf, stmtsJson, stmtsJson, stmtJson_unsignZeros st,
      stmtsJson_unsignZeros sts]

end

theorem SpriteEntry.toJson_unsignZeros (s : SpriteEntry) : s.unsignZeros.toJson = s.toJson := by
  simp [SpriteEntry.toJson, SpriteEntry.unsignZeros, ProcEntry.unsignZeros,
    EventEntry.unsignZeros, HandlerEntry.unsignZeros, Function.comp_def, stmtsJson_unsignZeros]

/-! ## MessagePack -/

mutual

theorem exprPack_unsignZeros : ∀ e : Expr, exprPack e.unsignZeros = exprPack e
  | ⟨kind, span, int, float, str, name, field, repr, args, op, operand, lhs, rhs, spare⟩ => by
    rw [Expr.unsignZeros, exprPack, exprPack, exprsPack_unsignZeros args,
      exprOptionPack_unsignZeros "operand" operand, exprOptionPack_unsignZeros "lhs" lhs,
      exprOptionPack_unsignZeros "rhs" rhs, unsignZero_beq_zero]
    cases hx : float == 0
    · rw [unsignZero_of_ne hx]
    · rw [if_pos rfl, if_pos rfl]

theorem exprsPack_unsignZeros : ∀ es : List Expr, exprsPack (Expr.unsignZerosOf es) = exprsPack es
  | [] => rfl
  | e :: es => by
    rw [Expr.unsignZerosOf, exprsPack, exprsPack, exprPack_unsignZeros e, exprsPack_unsignZeros es]

theorem exprOptionPack_unsignZeros (k : String) :
    ∀ o : Option Expr, exprOptionPack k (Expr.unsignZerosOpt o) = exprOptionPack k o
  | none => rfl
  | some e => by rw [Expr.unsignZerosOpt, exprOptionPack, exprOptionPack, exprPack_unsignZeros e]

end

mutual

theorem stmtPack_unsignZeros : ∀ st : Stmt, stmtPack st.unsignZeros = stmtPack st
  | ⟨kind, span, name, field, type, isLocal, value, index, times, cond, op, body, orElse, block,
      proc, args, bodySpare, orElseSpare, argsSpare⟩ => by
    rw [Stmt.unsignZeros, stmtPack, stmtPack, exprOptionPack_unsignZeros "value" value,
      exprOptionPack_unsignZeros "index" index, exprOptionPack_unsignZeros "times" times,
      exprOptionPack_unsignZeros "cond" cond, stmtsPack_unsignZeros body,
      stmtsPack_unsignZeros orElse, exprsPack_unsignZeros args]

theorem stmtsPack_unsignZeros :
    ∀ sts : List Stmt, stmtsPack (Stmt.unsignZerosOf sts) = stmtsPack sts
  | [] => rfl
  | st :: sts => by
    rw [Stmt.unsignZerosOf, stmtsPack, stmtsPack, stmtPack_unsignZeros st,
      stmtsPack_unsignZeros sts]

end

theorem SpriteEntry.toMsgpack_unsignZeros (s : SpriteEntry) :
    s.unsignZeros.toMsgpack = s.toMsgpack := by
  simp [SpriteEntry.toMsgpack, SpriteEntry.unsignZeros, ProcEntry.unsignZeros,
    EventEntry.unsignZeros, HandlerEntry.unsignZeros, Function.comp_def, stmtsPack_unsignZeros]
  rfl

/-! ## Documents -/

@[simp] theorem Document.unsignZeros_files (d : Document) : d.unsignZeros.files = d.files := rfl

@[simp] theorem Document.unsignZeros_stage (d : Document) :
    d.unsignZeros.stage = d.stage.unsignZeros := rfl

@[simp] theorem Document.unsignZeros_sprites (d : Document) :
    d.unsignZeros.sprites = d.sprites.map fun p => (p.1, p.2.unsignZeros) := rfl

theorem Document.sortedSprites_unsignZeros (d : Document) :
    d.unsignZeros.sortedSprites = d.sortedSprites.map fun p => (p.1, p.2.unsignZeros) := by
  unfold Document.sortedSprites
  rw [Document.unsignZeros_sprites, List.map_mergeSort]
  intro a _ b _
  rfl

/-- A document and the same document with every floating literal that equals zero made `+0`
are written alike, as JSON text and as MessagePack: neither encoding keeps the sign of a zero,
so a document read back from either holds `+0` for each negative zero. -/
theorem Document.encodings_forget_zero_sign (d : Document) :
    d.unsignZeros.jsonText = d.jsonText ∧ d.unsignZeros.toMsgpack = d.toMsgpack := by
  constructor
  · simp [Document.jsonText, Document.toJson, Document.sortedSprites_unsignZeros,
      SpriteEntry.toJson_unsignZeros, Function.comp_def]
  · simp [Document.toMsgpack, Document.sortedSprites_unsignZeros, List.flatMap_map,
      SpriteEntry.toMsgpack_unsignZeros]

end BlockGraph.Dump
