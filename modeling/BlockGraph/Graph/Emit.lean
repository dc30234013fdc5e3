import BlockGraph.Graph.Block
import BlockGraph.Program.Syntax
import BlockGraph.Diagnostic.Basic
import BlockGraph.Text.Quoted
import BlockGraph.Decimal.Shortest

namespace BlockGraph.Graph

open BlockGraph

/-- What emission produces, in order: blocks, places where a script starts (its hat opcode
and a detail: the hat's id, or the procedure's name), and findings. -/
inductive Emitted where
  | block (b : Block)
  | scriptStart (opcode detail : String)
  | report (d : Diagnostic)
  deriving Inhabited

/-- Where a target's blocks are emitted: its sprite, the stage (for a sprite), and the
procedure whose definition is being written. -/
structure EmitScope where
  sprite : Sprite
  stage : Option Sprite
  proc : Option Proc := none

/-- The running state: the last id handed out, the scripts started in this target, and what
was emitted (latest first). -/
structure EmitState where
  last : Nat
  scripts : Nat := 0
  out : List Emitted := []

def maxPlace : Nat := 2147483647

inductive EmitError where
  | internal (e : InternalError)
  | layout (y : Nat)
  deriving Inhabited

def EmitError.render : EmitError → String
  | .internal e => e.render
  | .layout _ => "out of range"

abbrev EmitM := ReaderT EmitScope (ExceptT EmitError (StateM EmitState))

inductive NameKind where
  | variable | list | unresolved
  deriving BEq, Inhabited

namespace EmitScope

def var? (s : EmitScope) (n : String) : Option Var :=
  match s.proc.bind (fun p => p.locals.find? (·.name == n)) with
  | some v => some v
  | none => (s.sprite.var? n).orElse fun _ => s.stage.bind (·.var? n)

def struct? (s : EmitScope) (n : String) : Option StructDecl :=
  (s.sprite.struct? n).orElse fun _ => s.stage.bind (·.struct? n)

def enum? (s : EmitScope) (n : String) : Option EnumDecl :=
  (s.sprite.enum? n).orElse fun _ => s.stage.bind (·.enum? n)

def structFields (s : EmitScope) (v : Var) : List Field :=
  match v.type.structName? with
  | some n => ((s.struct? n).map (·.fields)).getD []
  | none => []

def qualifyOuter (s : EmitScope) (n : Name) : String × NameKind :=
  if (s.sprite.var? n.base).isSome || (s.stage.bind (·.var? n.base)).isSome then
    (Names.qualify "" n.base n.field, .variable)
  else if n.field == "" && ((s.sprite.list? n.base).isSome || (s.stage.bind (·.list? n.base)).isSome) then
    (n.base, .list)
  else (n.render, .unresolved)

/-- A name as the graph writes it, and what it resolved to: a procedure local, a variable
of the sprite or stage, a list, or nothing (then written as written). -/
def qualify (s : EmitScope) (n : Name) : String × NameKind :=
  match s.proc with
  | some p =>
    if p.locals.any (·.name == n.base) then (Names.qualify p.name n.base n.field, .variable)
    else s.qualifyOuter n
  | none => s.qualifyOuter n

def isStructArg (s : EmitScope) (n : String) : Bool :=
  match s.proc with
  | none => false
  | some p =>
    match p.args.find? (·.name == n) with
    | none => false
    | some a =>
      match a.type.structName? with
      | none => false
      | some sn => match s.struct? sn with
        | some d => !d.fields.isEmpty
        | none => false

end EmitScope

/-- One flattened procedure parameter: its reporter name, its id, the argument it comes from,
and the struct field it carries (empty for a plain argument). A struct argument gives one
parameter per field. -/
structure Param where
  name : String
  id : String
  arg : Nat
  field : String

def params (s : EmitScope) (p : Proc) : List Param :=
  (p.args.zipIdx).flatMap fun (a, i) =>
    let plain : List Param := [{ name := a.name, id := Names.localName p.name a.name, arg := i, field := "" }]
    match a.type.structName? with
    | some sn =>
      match s.struct? sn with
      | some d =>
        if d.fields.isEmpty then plain
        else d.fields.map fun f =>
          let n := Names.structVar a.name f.name
          { name := n, id := Names.localName p.name n, arg := i, field := f.name }
      | none => plain
    | none => plain

def proccode (proc : String) (ps : List Param) : String :=
  proc ++ String.join (ps.map fun _ => " %s")

def callMutation (proc : String) (ps : List Param) (warp : Bool) : String :=
  "\x7b\"tagName\":\"mutation\",\"children\":[],\"proccode\":" ++ Json.quoteKept (proccode proc ps) ++
    ",\"argumentids\":" ++ jsonList (ps.map (·.id)) ++ ",\"warp\":" ++ Json.quoteKept (flagText warp) ++ "\x7d"

/-- An input slot: its name, the expression feeding it, whether it takes a condition, and the
struct field to take when the expression names a whole struct variable or argument. -/
structure Slot where
  name : String
  value : Option Expr
  boolean : Bool := false
  field : String := ""

/-- What a node is before it is written: its header, slots, the sizes of its branches (by
input name), fields and mutation. -/
structure NodeSpec where
  opcode : String
  id : Nat
  parent : Nat := 0
  next : Nat := 0
  shadow : Bool := false
  topLevel : Bool := false
  slots : List Slot := []
  branches : List (String × Nat) := []
  fields : String := ""
  mutation : String := ""

namespace EmitM

def fresh : EmitM Nat := modifyGet fun s => (s.last + 1, { s with last := s.last + 1 })

def take (n : Nat) : EmitM (List Nat) :=
  modifyGet fun s => ((List.range n).map (s.last + 1 + ·), { s with last := s.last + n })

def push (e : Emitted) : EmitM Unit := modify fun s => { s with out := e :: s.out }

def report (d : Diagnostic) : EmitM Unit := push (.report d)

def place : EmitM Nat := do
  let s ← get
  if s.scripts * 400 > maxPlace then throw (.layout (s.scripts * 400))
  set { s with scripts := s.scripts + 1 }
  pure (s.scripts * 400)

end EmitM

def intText (v : Int) : String := toString v

def menuLiteral : Expr → Option String
  | .str s _ => some s
  | .int v _ => some (intText v)
  | .float v _ => some (Decimal.formatGeneral v)
  | _ => none

/-- A name written inline: a variable `[12,id,id]` or a list `[13,id,id]`. A bare name of a
whole struct variable is refused (unless the slot picks a field). Returns the text, whether
it is a shadow literal, and whether it is inline. -/
def inlineName (n : Name) (field : String) : EmitM (String × Bool × Bool) := do
  let s ← read
  let refused ← if n.field == "" && field == "" then
      match s.var? n.base with
      | some v =>
        if (s.structFields v).isEmpty then pure false
        else do
          EmitM.report (.error .unresolvedName n.span
            ("struct variable " ++ Text.quoteKept n.base ++ " cannot be used as a value; use one of its fields"))
          pure true
      | none => pure false
    else pure false
  if refused then pure (emptyShadow, true, true)
  else
    let n := if n.field == "" && field != "" then { n with field } else n
    let (q, kind) := s.qualify n
    let qq := Json.quoteKept q
    if kind == .variable then pure ("[12," ++ qq ++ "," ++ qq ++ "]", false, true)
    else pure ("[13," ++ qq ++ "," ++ qq ++ "]", false, true)

/-- An accessor written inline: an enum variant as its text, or a field of a struct variable
as that field's variable; anything else is reported and left empty. -/
def inlineAccessor (symbol : String) (symbolSpan : Span) (property : String) (propertySpan : Span) :
    EmitM (String × Bool × Bool) := do
  let s ← read
  match s.enum? symbol with
  | some e =>
    match e.variant? property with
    | some v => pure ("[10," ++ Json.quoteKept (if v.value == "" then v.name else v.value) ++ "]", true, true)
    | none => do
      EmitM.report (.error .unresolvedAccessor propertySpan
        ("enum " ++ e.name ++ " has no variant " ++ Text.quoteKept property))
      pure (emptyShadow, true, true)
  | none =>
    let fields := match s.var? symbol with
      | some v => s.structFields v
      | none => []
    if !fields.isEmpty then
      if fields.any (·.name == property) then
        let (q, _) := s.qualify { base := symbol, field := property }
        let qq := Json.quoteKept q
        pure ("[12," ++ qq ++ "," ++ qq ++ "]", false, true)
      else do
        EmitM.report (.error .unresolvedAccessor propertySpan
          (symbol ++ " has no field " ++ Text.quoteKept property))
        pure (emptyShadow, true, true)
    else do
      EmitM.report (.error .unresolvedAccessor (symbolSpan.cover propertySpan)
        ("unresolved enum variant or struct field " ++ symbol ++ "." ++ property))
      pure (emptyShadow, true, true)

def inlineValue (sl : Slot) : EmitM (String × Bool × Bool) :=
  match sl.value with
  | none => pure (emptyShadow, true, true)
  | some (.int v _) => pure ("[4," ++ Json.quoteKept (intText v) ++ "]", true, true)
  | some (.float v _) => pure ("[4," ++ Json.quoteKept (Decimal.formatGeneral v) ++ "]", true, true)
  | some (.str t _) =>
    if sl.name == broadcastInput then
      pure ("[11," ++ Json.quoteKept t ++ "," ++ Json.quoteKept t ++ "]", true, true)
    else pure ("[10," ++ Json.quoteKept t ++ "]", true, true)
  | some (.name n) => inlineName n sl.field
  | some (.accessor sym s1 prop s2) => inlineAccessor sym s1 prop s2
  | some _ => pure ("", false, false)

def childInput (name : String) (child : Nat) (boolean : Bool) : Input :=
  if boolean then { name, kind := 2, value := .block child }
  else { name, kind := 3, value := .block child, shadow := some (.literal emptyShadow) }

def slotInput (sl : Slot) (child : Nat) : EmitM Input := do
  let (text, literal, inline) ← inlineValue sl
  if inline && literal then pure { name := sl.name, kind := 1, value := .literal text }
  else if inline && sl.boolean then pure { name := sl.name, kind := 2, value := .literal text }
  else if inline then
    pure { name := sl.name, kind := 3, value := .literal text, shadow := some (.literal emptyShadow) }
  else pure (childInput sl.name child sl.boolean)

def writeNode (spec : NodeSpec) : EmitM (List Nat × List (List Nat)) := do
  let slotIds ← EmitM.take spec.slots.length
  let bodyIds ← spec.branches.mapM fun (_, n) => EmitM.take n
  let y ← if spec.topLevel then EmitM.place else pure 0
  let inputs ← (spec.slots.zip slotIds).mapM fun (sl, id) => slotInput sl id
  let branchInputs := (spec.branches.zip bodyIds).filterMap fun ((input, _), ids) =>
    ids.head?.map fun first => childInput input first true
  EmitM.push (.block
    { id := spec.id, opcode := spec.opcode, next := spec.next, parent := spec.parent,
      shadow := spec.shadow, topLevel := spec.topLevel, y, inputs := inputs ++ branchInputs,
      fields := if spec.fields == "" then "\x7b\x7d" else spec.fields, mutation := spec.mutation })
  pure (slotIds, bodyIds)

/-- The node of an argument reporter. Outside a procedure, or for a name the procedure does
not declare, the finding is reported and the reporter still written. -/
def writeArgument (this parent : Nat) (n : Name) : EmitM Unit := do
  let s ← read
  let value ← match s.proc with
    | none => do
      EmitM.report (.error .unrecognizedArgument n.span
        ("unrecognized argument " ++ Text.quoteKept n.base ++ " outside of a procedure"))
      pure n.base
    | some p =>
      if !p.hasArg n.base then do
        EmitM.report ((Diagnostic.error .unrecognizedArgument n.span
          ("unrecognized argument " ++ Text.quoteKept n.base)).withNote p.span (p.name ++ " declared here"))
        pure n.base
      else if n.field != "" then pure (n.base ++ "." ++ n.field)
      else do
        if s.isStructArg n.base then
          EmitM.report (.error .unrecognizedArgument n.span
            ("struct argument " ++ Text.quoteKept n.base ++ " cannot be used as a value; use one of its fields"))
        pure n.base
  let _ ← writeNode { opcode := Opcode.argReporter, id := this, parent, fields := fieldValue "VALUE" value }

def missingOpcode (p : Primitive) (span : Span) : InternalError :=
  { construct := p.name, span, message := "primitive has no opcode" }

def wrongArity (p : Primitive) (given : Nat) (span : Span) : InternalError :=
  { construct := p.name, span, message := toString given ++ " arguments, want " ++ toString p.args.length }

/-- The node of a primitive and, when it has a menu, the menu's shadow selector. Returns the
ids of the arguments and whether the menu argument was a literal (whose expression is then
not emitted). -/
def writePrimitive (p : Primitive) (this parent next : Nat) (args : List Expr) (span : Span) :
    EmitM (List Nat × Bool) := do
  if p.opcode == "" then throw (.internal (missingOpcode p span))
  if args.length != p.args.length then throw (.internal (wrongArity p args.length span))
  let argIds ← EmitM.take args.length
  let menuId ← if p.menu.isSome then EmitM.fresh else pure 0
  let (inputs, menuValue) ← ((p.args.zip args).zip argIds).foldlM
    (fun ((acc, menuValue) : List Input × Option String) ((slotName, arg), argId) => do
      let sl : Slot := { name := slotName, value := some arg }
      if !p.isMenuSlot slotName then
        let i ← slotInput sl argId
        pure (acc ++ [i], menuValue)
      else match menuLiteral arg with
        | some lit => pure (acc ++ [{ name := slotName, kind := 1, value := .block menuId }], some lit)
        | none => do
          let (text, _, inline) ← inlineValue sl
          let covering : InputValue := if inline then .literal text else .block argId
          pure (acc ++ [{ name := slotName, kind := 3, value := covering, shadow := some (.block menuId) }],
            menuValue)) ([], none)
  EmitM.push (.block
    { id := this, opcode := p.opcode, next, parent, inputs,
      fields := if p.fields == "" then "\x7b\x7d" else p.fields })
  match p.menu with
  | some m =>
    let value ← match menuValue with
      | some lit =>
        if m.accepts lit then pure lit
        else do
          EmitM.report (.warning .unknownMenuOption span
            (Text.quoteKept lit ++ " is not an option of " ++ p.name ++ "; using " ++ Text.quoteKept m.default))
          pure m.default
      | none => pure m.default
    let _ ← writeNode
      { opcode := m.opcode, id := menuId, parent := this, shadow := true,
        fields := fieldValue m.field value }
  | none => pure ()
  pure (argIds, menuValue.isSome)

def unwritableOperator (what : String) (span : Span) : InternalError :=
  { construct := what, span, message := "operator must be rewritten before code generation" }

mutual

def emitExpr (field : String) (this parent : Nat) : Expr → EmitM Unit
  | .int .. | .float .. | .str .. | .name _ | .accessor .. => pure ()
  | .arg n => writeArgument this parent (if n.field == "" && field != "" then { n with field } else n)
  | .repr p args span => do
    let (argIds, menuLiteralUsed) ← writePrimitive p this parent 0 args span
    emitPrimitiveArgs p menuLiteralUsed this p.args args argIds
  | .unop op operand span => do
    if op.isSugar || op.opcode == "" then throw (.internal (unwritableOperator ("unary " ++ op.symbol) span))
    let (ids, _) ← writeNode
      { opcode := op.opcode, id := this, parent,
        slots := [{ name := op.input, value := some operand, boolean := op.isBoolean }], fields := op.fields }
    emitExpr "" (ids.headD 0) this operand
  | .binop op lhs rhs span => do
    let s ← read
    let listName : Option String := match op, lhs with
      | .letterOf, .name n => match s.qualify n with
        | (q, .list) => some q
        | _ => none
      | _, _ => none
    match listName with
    | some list => do
      let (ids, _) ← writeNode
        { opcode := Opcode.itemOfList, id := this, parent,
          slots := [{ name := "INDEX", value := some rhs }], fields := fieldRef "LIST" list }
      emitExpr "" (ids.headD 0) this rhs
    | none => do
      if op.isSugar || op.opcode == "" then throw (.internal (unwritableOperator ("binary " ++ op.symbol) span))
      let (ids, _) ← writeNode
        { opcode := op.opcode, id := this, parent,
          slots := [{ name := op.lhsInput, value := some lhs, boolean := op.isBoolean },
          { name := op.rhsInput, value := some rhs, boolean := op.isBoolean }] }
      emitExpr "" (ids.headD 0) this lhs
      emitExpr "" ((ids.drop 1).headD 0) this rhs

def emitPrimitiveArgs (p : Primitive) (menuLiteralUsed : Bool) (this : Nat) :
    List String → List Expr → List Nat → EmitM Unit
  | slot :: slots, arg :: args, id :: ids => do
    if !(menuLiteralUsed && p.isMenuSlot slot) then emitExpr "" id this arg
    emitPrimitiveArgs p menuLiteralUsed this slots args ids
  | _, _, _ => pure ()

end

def emitSlotValue (field : String) (this parent : Nat) : Option Expr → EmitM Unit
  | some e => emitExpr field this parent e
  | none => pure ()

def emitSlots (parent : Nat) : List Slot → List Nat → EmitM Unit
  | sl :: sls, id :: ids => do
    emitSlotValue sl.field id parent sl.value
    emitSlots parent sls ids
  | _, _ => pure ()

def writeWithSlots (spec : NodeSpec) : EmitM Unit := do
  let (ids, _) ← writeNode spec
  emitSlots spec.id spec.slots ids

def assignedVariable (n : Name) : EmitM String := do
  let s ← read
  let (q, kind) := s.qualify n
  if kind != .variable then
    EmitM.report (.error .unresolvedName n.span ("unknown variable " ++ Text.quoteKept n.render))
  else if n.field == "" then
    match s.var? n.base with
    | some v =>
      if !(s.structFields v).isEmpty then
        EmitM.report (.error .unresolvedName n.span
          ("struct variable " ++ Text.quoteKept n.base ++ " cannot be assigned as a whole here; assign its fields"))
    | none => pure ()
  pure q

def changedList (n : Name) : EmitM String := do
  let (q, kind) := (← read).qualify n
  if kind != .list then EmitM.report (.error .unresolvedName n.span ("unknown list " ++ Text.quoteKept n.render))
  pure q

structure Link where
  id : Nat
  parent : Nat
  next : Nat

def unchangeableItem (symbol : String) (span : Span) : InternalError :=
  { construct := "list change " ++ symbol, span, message := "operator cannot update a list item" }

/-- Emits `list[i] op= v` as: replace item `i` of the list with (item `i` of the list) `op`
`v`. The index expression is emitted twice, once under each block that reads it. -/
def emitListChange (link : Link) (span : Span) (name : Name) (op : Option BinOp)
    (index value : Option Expr) : EmitM Unit := do
  match op with
  | some o =>
    if o.isSugar || o.opcode == "" || o == .letterOf then
      throw (.internal (unchangeableItem o.symbol span))
    let list ← changedList name
    let indexId ← EmitM.fresh
    let opId ← EmitM.fresh
    let indexInput ← slotInput { name := "INDEX", value := index } indexId
    EmitM.push (.block
      { id := link.id, opcode := Opcode.replaceItemOfList, next := link.next,
        parent := link.parent, inputs := [indexInput, childInput "ITEM" opId false],
        fields := fieldRef "LIST" list })
    emitSlotValue "" indexId link.id index
    let itemId ← EmitM.fresh
    let valueId ← EmitM.fresh
    let valueInput ← slotInput { name := o.rhsInput, value, boolean := o.isBoolean } valueId
    EmitM.push (.block
      { id := opId, opcode := o.opcode, parent := link.id,
        inputs := [childInput o.lhsInput itemId o.isBoolean, valueInput] })
    writeWithSlots
      { opcode := Opcode.itemOfList, id := itemId, parent := opId,
        slots := [{ name := "INDEX", value := index }], fields := fieldRef "LIST" list }
    emitSlotValue "" valueId opId value
  | none =>
    throw (.internal (unchangeableItem "<invalid>" span))

mutual

def emitStmt (link : Link) : Stmt → EmitM Unit
  | ⟨kind, span, name, _, _, value, index, times, cond, op, body, orElse, command, proc, args⟩ =>
    let node (opcode : String) : NodeSpec := { opcode, id := link.id, parent := link.parent, next := link.next }
    match kind with
    | .repeatTimes => do
      let (ids, bodies) ← writeNode { node Opcode.repeatTimes with
        slots := [{ name := "TIMES", value := times }], branches := [("SUBSTACK", body.length)] }
      emitSlotValue "" (ids.headD 0) link.id times
      emitChain body (bodies.headD []) link.id
    | .forever => do
      let (_, bodies) ← writeNode { node Opcode.forever with branches := [("SUBSTACK", body.length)] }
      emitChain body (bodies.headD []) link.id
    | .branch => do
      let opcode := if orElse.isEmpty then Opcode.ifThen else Opcode.ifElse
      let branches := if orElse.isEmpty then [("SUBSTACK", body.length)]
        else [("SUBSTACK", body.length), ("SUBSTACK2", orElse.length)]
      let (ids, bodies) ← writeNode { node opcode with
        slots := [{ name := "CONDITION", value := cond, boolean := true }], branches }
      emitSlotValue "" (ids.headD 0) link.id cond
      emitChain body (bodies.headD []) link.id
      if !orElse.isEmpty then emitChain orElse ((bodies.drop 1).headD []) link.id
    | .repeatUntil => do
      let (ids, bodies) ← writeNode { node Opcode.repeatUntil with
        slots := [{ name := "CONDITION", value := cond, boolean := true }],
        branches := [("SUBSTACK", body.length)] }
      emitSlotValue "" (ids.headD 0) link.id cond
      emitChain body (bodies.headD []) link.id
    | .setVar | .setField | .changeVar => do
      let opcode := if kind == .changeVar then Opcode.changeVariable else Opcode.setVariable
      let target ← assignedVariable name
      writeWithSlots
        { node opcode with
          slots := [{ name := "VALUE", value }],
          fields := fieldRef "VARIABLE" target }
    | .showData | .hideData => do
      let s ← read
      let (q, k) := s.qualify name
      let spec ← if k == .list then
          pure { node (if kind == .showData then Opcode.showList else Opcode.hideList) with
            fields := fieldRef "LIST" q }
        else do
          if k == .unresolved then
            EmitM.report (.error .unresolvedName name.span ("unknown variable or list " ++ Text.quoteKept name.render))
          pure { node (if kind == .showData then Opcode.showVariable else Opcode.hideVariable) with
            fields := fieldRef "VARIABLE" q }
      let _ ← writeNode spec
    | .listAdd => do
      let list ← changedList name
      writeWithSlots { node Opcode.addToList with slots := [{ name := "ITEM", value }], fields := fieldRef "LIST" list }
    | .listDelete => do
      let list ← changedList name
      writeWithSlots
        { node Opcode.deleteOfList with
          slots := [{ name := "INDEX", value := index }],
          fields := fieldRef "LIST" list }
    | .listDeleteAll => do
      let list ← changedList name
      writeWithSlots { node Opcode.deleteAllOfList with fields := fieldRef "LIST" list }
    | .listInsert => do
      let list ← changedList name
      writeWithSlots { node Opcode.insertAtList with
        slots := [{ name := "INDEX", value := index }, { name := "ITEM", value }], fields := fieldRef "LIST" list }
    | .listSet => do
      let list ← changedList name
      writeWithSlots { node Opcode.replaceItemOfList with
        slots := [{ name := "INDEX", value := index }, { name := "ITEM", value }], fields := fieldRef "LIST" list }
    | .listChange => emitListChange link span name op index value
    | .block => do
      let (argIds, menuLiteralUsed) ← writePrimitive command link.id link.parent link.next args span
      emitPrimitiveArgs command menuLiteralUsed link.id command.args args argIds
    | .procCall => do
      let s ← read
      match s.sprite.proc? proc with
      | none => do
        EmitM.report (.error .unresolvedProc span ("unknown procedure " ++ Text.quoteKept proc))
        let _ ← writeNode { node Opcode.procCall with mutation := callMutation proc [] false }
      | some p => do
        if args.length != p.args.length then
          EmitM.report ((Diagnostic.error .argCountMismatch span
            (p.name ++ " takes " ++ toString p.args.length ++ " arguments, got " ++ toString args.length)).withNote
              p.span "declared here")
        let ps := params s p
        let slots : List Slot := ps.map fun q => { name := q.id, field := q.field, value := args[q.arg]? }
        writeWithSlots { node Opcode.procCall with slots, mutation := callMutation p.name ps p.warp }
termination_by structural st => st

def emitChain : List Stmt → List Nat → Nat → EmitM Unit
  | st :: sts, id :: ids, parent => do
    emitStmt { id, parent, next := ids.headD 0 } st
    emitChain sts ids id
  | _, _, _ => pure ()
termination_by structural stmts _ _ => stmts

end

def emitBody (stmts : List Stmt) (ids : List Nat) (parent : Nat) : EmitM Unit :=
  emitChain stmts ids parent

end BlockGraph.Graph

namespace BlockGraph.Graph

def emitScript (opcode fields : String) (stmts : List Stmt) : EmitM Unit := do
  let hatId ← EmitM.fresh
  EmitM.push (.scriptStart opcode (toString hatId))
  let ids ← EmitM.take stmts.length
  let _ ← writeNode { opcode, id := hatId, next := ids.headD 0, topLevel := true, fields }
  emitBody stmts ids hatId

def missingHat (ev : Event) : InternalError :=
  { construct := "event " ++ ev.hat.name, span := ev.span, message := "event has no hat" }

def emitEvent (ev : Event) : EmitM Unit := do
  if ev.hat.opcode == "" then
    throw (.internal (missingHat ev))
  let fields := if ev.hat.field == "" then "" else fieldValue ev.hat.field ev.arg
  emitScript ev.hat.opcode fields ev.body

def emitHandler (h : Handler) : EmitM Unit :=
  emitScript Opcode.whenBroadcastReceived (fieldRef "BROADCAST_OPTION" h.message) h.body

def prototypeMutation (p : Proc) (ps : List Param) : String :=
  "\x7b\"tagName\":\"mutation\",\"children\":[],\"proccode\":" ++ Json.quoteKept (proccode p.name ps) ++
    ",\"argumentids\":" ++ jsonList (ps.map (·.id)) ++
    ",\"argumentnames\":" ++ jsonList (ps.map (·.name)) ++
    ",\"argumentdefaults\":" ++ jsonList (ps.map fun _ => "") ++
    ",\"warp\":" ++ Json.quoteKept (flagText p.warp) ++ "\x7d"

def emitProcDef (p : Proc) : EmitM Unit :=
  withReader (fun s => { s with proc := some p }) do
    let ps := params (← read) p
    let defId ← EmitM.fresh
    EmitM.push (.scriptStart Opcode.procDefinition p.name)
    let protoId ← EmitM.fresh
    let reporterIds ← EmitM.take ps.length
    let bodyIds ← EmitM.take p.body.length
    let y ← EmitM.place
    EmitM.push (.block
      { id := defId, opcode := Opcode.procDefinition, next := bodyIds.headD 0, topLevel := true, y,
        inputs := [{ name := "custom_block", kind := 1, value := .block protoId }], packedInputs := true })
    EmitM.push (.block
      { id := protoId, opcode := Opcode.procPrototype, parent := defId, shadow := true,
        inputs := (ps.zip reporterIds).map fun (q, rid) => { name := q.id, kind := 1, value := .block rid },
        mutation := prototypeMutation p ps })
    for (q, rid) in ps.zip reporterIds do
      let _ ← writeNode
        { opcode := Opcode.argReporter, id := rid, parent := protoId, shadow := true,
          fields := fieldValue "VALUE" q.name }
    emitBody p.body bodyIds defId

def emitScripts (sprite : Sprite) : EmitM Unit := do
  for ev in sprite.events do emitEvent ev
  for h in sprite.sortedHandlers do emitHandler h
  for p in sprite.sortedProcs do emitProcDef p

end BlockGraph.Graph
