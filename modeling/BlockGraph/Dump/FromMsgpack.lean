import BlockGraph.Msgpack.Value
import BlockGraph.Dump.Document
import BlockGraph.Text.Utf8

namespace BlockGraph.Dump

open Msgpack

/-- Why a MessagePack value does not fit a document. -/
inductive MsgpackFieldError where
  | mismatch (expected : String)
  | arity (expected : Nat)
  | spanTooLong
  deriving Inhabited

abbrev MsgReading := Except MsgpackFieldError

def msgText : Value → MsgReading String
  | .nil => pure ""
  | .bytes bs => pure (Utf8.toTextKeeping bs)
  | _ => throw (.mismatch "string")

def wrapInt64 (v : Int) : Int := (v + Int.pow 2 63) % Int.pow 2 64 - Int.pow 2 63

def msgInt : Value → MsgReading Int
  | .nil => pure 0
  | .integer v => pure (wrapInt64 v)
  | _ => throw (.mismatch "integer")

def msgFloat : Value → MsgReading Float
  | .nil => pure 0
  | .float f => pure f
  | .integer v => pure (Float.ofInt (wrapInt64 v))
  | _ => throw (.mismatch "float")

def msgFlag : Value → MsgReading Bool
  | .nil => pure false
  | .bool b => pure b
  | _ => throw (.mismatch "bool")

/-- An unsigned 32-bit number: an integer modulo `2^32`, nil is zero. -/
def msgWord : Value → MsgReading Nat
  | .nil => pure 0
  | .integer v => pure (v % Int.pow 2 32).toNat
  | _ => throw (.mismatch "integer")

/-- A span: nil keeps it; an array of at most three numbers replaces those it reaches. -/
def msgSpan (cur : Span) : Value → MsgReading Span
  | .nil => pure cur
  | .array items =>
    if items.length > 3 then throw .spanTooLong
    else do
      let file ← match items[0]? with | some v => msgWord v | none => pure cur.file
      let start ← match items[1]? with | some v => msgWord v | none => pure cur.start
      let stop ← match items[2]? with | some v => msgWord v | none => pure cur.stop
      pure { file, start, stop }
  | _ => throw (.mismatch "array")

def msgTexts (cur : List String) : Value → MsgReading (List String)
  | .nil => pure cur
  | .array items => items.mapM msgText
  | _ => throw (.mismatch "array")

def msgKey : Value → MsgReading String := msgText

/-- The members a record value lays over a record with the given field names: a map's
entries, or an array's items paired with the names in order; `none` when the value empties the
record. -/
def msgMembers (names : List String) : Value → MsgReading (Option (List (String × Value)))
  | .nil => pure none
  | .map entries => some <$> entries.mapM fun (k, v) => do pure (← msgKey k, v)
  | .array [] => pure none
  | .array items =>
    if items.length = names.length then pure (some (names.zip items))
    else throw (.arity names.length)
  | _ => throw (.mismatch "map")

/-- A record of flat fields: `setField` lays one member over it and passes over unknown
keys. -/
def msgRecord {α : Type} (names : List String) (empty : α)
    (setField : α → String → Value → MsgReading α) (cur : α) (v : Value) : MsgReading α := do
  match ← msgMembers names v with
  | none => pure empty
  | some members => members.foldlM (fun acc (k, x) => setField acc k x) cur

/-- The storage a list of `n` items is read into: the places it has when they are enough,
else all of them and as many empty places as growth adds. -/
def msgStorage {α : Type} (itemSize : Nat) (empty : α) (store : List α) (n : Nat) : List α :=
  if n ≤ store.length then store
  else store ++ List.replicate (Storage.grownCapacity itemSize store.length n - store.length) empty

def msgLay {α : Type} (readOne : α → Value → MsgReading α) (empty : α) :
    List α → Nat → List Value → MsgReading (List α)
  | store, _, [] => pure store
  | store, i, v :: vs => do
    let x ← readOne (store.getD i empty) v
    msgLay readOne empty (store.set i x) (i + 1) vs

/-- An array of records laid over a list given as its items and spare storage; nil empties
it. -/
def msgList {α : Type} (itemSize : Nat) (empty : α) (readOne : α → Value → MsgReading α)
    (items spare : List α) : Value → MsgReading (List α × List α)
  | .nil => pure ([], [])
  | .array vs => do
    let store ← msgLay readOne empty (msgStorage itemSize empty (items ++ spare) vs.length) 0 vs
    pure (store.take vs.length, store.drop vs.length)
  | _ => throw (.mismatch "array")

def fileFieldNames : List String := ["path", "content"]

def setFileMember (r : FileEntry) (key : String) (v : Value) : MsgReading FileEntry :=
  if key = "path" then return { r with path := ← msgText v }
  else if key = "content" then return { r with content := ← msgText v }
  else pure r

def varFieldNames : List String := ["name", "type", "span"]

def setVarMember (r : VarEntry) (key : String) (v : Value) : MsgReading VarEntry :=
  if key = "name" then return { r with name := ← msgText v }
  else if key = "type" then return { r with type := ← msgText v }
  else if key = "span" then return { r with span := ← msgSpan r.span v }
  else pure r

def listFieldNames : List String := ["name", "type", "data", "span"]

def setListMember (r : ListEntry) (key : String) (v : Value) : MsgReading ListEntry :=
  if key = "name" then return { r with name := ← msgText v }
  else if key = "type" then return { r with type := ← msgText v }
  else if key = "data" then return { r with data := ← msgTexts r.data v }
  else if key = "span" then return { r with span := ← msgSpan r.span v }
  else pure r

def variantFieldNames : List String := ["name", "value", "span"]

def setVariantMember (r : VariantEntry) (key : String) (v : Value) : MsgReading VariantEntry :=
  if key = "name" then return { r with name := ← msgText v }
  else if key = "value" then return { r with value := ← msgText v }
  else if key = "span" then return { r with span := ← msgSpan r.span v }
  else pure r

def enumFieldNames : List String := ["name", "variants", "span"]

def setEnumMember (r : EnumEntry) (key : String) (v : Value) : MsgReading EnumEntry := do
  if key = "name" then return { r with name := ← msgText v }
  else if key = "variants" then
    let (variants, variantsSpare) ←
      msgList variantSize {} (msgRecord variantFieldNames {} setVariantMember) r.variants r.variantsSpare v
    return { r with variants, variantsSpare, variantsGiven := !v.isNil }
  else if key = "span" then return { r with span := ← msgSpan r.span v }
  else pure r

def fieldEntryFieldNames : List String := ["name", "span"]

def setFieldEntryMember (r : FieldEntry) (key : String) (v : Value) : MsgReading FieldEntry :=
  if key = "name" then return { r with name := ← msgText v }
  else if key = "span" then return { r with span := ← msgSpan r.span v }
  else pure r

def structFieldNames : List String := ["name", "fields", "span"]

def setStructMember (r : StructEntry) (key : String) (v : Value) : MsgReading StructEntry := do
  if key = "name" then return { r with name := ← msgText v }
  else if key = "fields" then
    let (fields, fieldsSpare) ←
      msgList fieldSize {} (msgRecord fieldEntryFieldNames {} setFieldEntryMember) r.fields r.fieldsSpare v
    return { r with fields, fieldsSpare, fieldsGiven := !v.isNil }
  else if key = "span" then return { r with span := ← msgSpan r.span v }
  else pure r

def argFieldNames : List String := ["name", "type", "span"]

def setArgMember (r : ArgEntry) (key : String) (v : Value) : MsgReading ArgEntry :=
  if key = "name" then return { r with name := ← msgText v }
  else if key = "type" then return { r with type := ← msgText v }
  else if key = "span" then return { r with span := ← msgSpan r.span v }
  else pure r

def exprFieldNames : List String :=
  ["kind", "span", "int", "float", "str", "name", "field", "repr", "args", "op", "operand", "lhs", "rhs"]

def stmtFieldNames : List String :=
  ["kind", "span", "name", "field", "type", "local", "value", "index", "times", "cond", "op", "body",
    "else", "block", "proc", "args"]

mutual

def msgExpr (cur : Expr) (v : Value) : MsgReading Expr := do
  match v with
  | .nil => pure {}
  | .map entries => msgExprEntries cur entries
  | .array [] => pure {}
  | .array items =>
    if items.length = exprFieldNames.length then msgExprItems cur exprFieldNames items
    else throw (.arity exprFieldNames.length)
  | _ => throw (.mismatch "map")
termination_by (sizeOf v, 1)

def msgExprEntries (cur : Expr) : List (Value × Value) → MsgReading Expr
  | [] => pure cur
  | (k, v) :: rest => do
    let cur ← setExprMember cur (← msgKey k) v
    msgExprEntries cur rest
termination_by es => (sizeOf es, 0)

def msgExprItems (cur : Expr) : List String → List Value → MsgReading Expr
  | n :: ns, v :: vs => do
    let cur ← setExprMember cur n v
    msgExprItems cur ns vs
  | _, _ => pure cur
termination_by _ items => (sizeOf items, 0)

def setExprMember (cur : Expr) (key : String) (v : Value) : MsgReading Expr := do
  if key = "kind" then return { cur with kind := ← msgText v }
  else if key = "span" then return { cur with span := ← msgSpan cur.span v }
  else if key = "int" then return { cur with int := ← msgInt v }
  else if key = "float" then return { cur with float := ← msgFloat v }
  else if key = "str" then return { cur with str := ← msgText v }
  else if key = "name" then return { cur with name := ← msgText v }
  else if key = "field" then return { cur with field := ← msgText v }
  else if key = "repr" then return { cur with repr := ← msgText v }
  else if key = "args" then
    let (args, argsSpare) ← msgExprList cur.args cur.argsSpare v
    return { cur with args, argsSpare }
  else if key = "op" then return { cur with op := ← msgText v }
  else if key = "operand" then return { cur with operand := ← msgExprOption cur.operand v }
  else if key = "lhs" then return { cur with lhs := ← msgExprOption cur.lhs v }
  else if key = "rhs" then return { cur with rhs := ← msgExprOption cur.rhs v }
  else pure cur
termination_by (sizeOf v, 3)

/-- An optional expression: nil removes it, anything else is laid over it. -/
def msgExprOption (cur : Option Expr) (v : Value) : MsgReading (Option Expr) :=
  if v.isNil then pure none else some <$> msgExpr (cur.getD {}) v
termination_by (sizeOf v, 2)

/-- A list of expressions given as its items and spare storage: nil empties it. -/
def msgExprList (items spare : List Expr) (v : Value) : MsgReading (List Expr × List Expr) :=
  match v with
  | .nil => pure ([], [])
  | .array vs => do
    let store ← msgExprLay (msgStorage exprSize {} (items ++ spare) vs.length) 0 vs
    pure (store.take vs.length, store.drop vs.length)
  | _ => throw (.mismatch "array")
termination_by (sizeOf v, 2)

def msgExprLay (store : List Expr) (i : Nat) : List Value → MsgReading (List Expr)
  | [] => pure store
  | v :: vs => do
    let x ← msgExpr (store.getD i {}) v
    msgExprLay (store.set i x) (i + 1) vs
termination_by items => (sizeOf items, 0)

end

mutual

def msgStmt (cur : Stmt) (v : Value) : MsgReading Stmt := do
  match v with
  | .nil => pure {}
  | .map entries => msgStmtEntries cur entries
  | .array [] => pure {}
  | .array items =>
    if items.length = stmtFieldNames.length then msgStmtItems cur stmtFieldNames items
    else throw (.arity stmtFieldNames.length)
  | _ => throw (.mismatch "map")
termination_by (sizeOf v, 1)

def msgStmtEntries (cur : Stmt) : List (Value × Value) → MsgReading Stmt
  | [] => pure cur
  | (k, v) :: rest => do
    let cur ← setStmtMember cur (← msgKey k) v
    msgStmtEntries cur rest
termination_by es => (sizeOf es, 0)

def msgStmtItems (cur : Stmt) : List String → List Value → MsgReading Stmt
  | n :: ns, v :: vs => do
    let cur ← setStmtMember cur n v
    msgStmtItems cur ns vs
  | _, _ => pure cur
termination_by _ items => (sizeOf items, 0)

def setStmtMember (cur : Stmt) (key : String) (v : Value) : MsgReading Stmt := do
  if key = "kind" then return { cur with kind := ← msgText v }
  else if key = "span" then return { cur with span := ← msgSpan cur.span v }
  else if key = "name" then return { cur with name := ← msgText v }
  else if key = "field" then return { cur with field := ← msgText v }
  else if key = "type" then return { cur with type := ← msgText v }
  else if key = "local" then return { cur with isLocal := ← msgFlag v }
  else if key = "value" then return { cur with value := ← msgExprOption cur.value v }
  else if key = "index" then return { cur with index := ← msgExprOption cur.index v }
  else if key = "times" then return { cur with times := ← msgExprOption cur.times v }
  else if key = "cond" then return { cur with cond := ← msgExprOption cur.cond v }
  else if key = "op" then return { cur with op := ← msgText v }
  else if key = "body" then
    let (body, bodySpare) ← msgStmtList cur.body cur.bodySpare v
    return { cur with body, bodySpare }
  else if key = "else" then
    let (orElse, orElseSpare) ← msgStmtList cur.orElse cur.orElseSpare v
    return { cur with orElse, orElseSpare }
  else if key = "block" then return { cur with block := ← msgText v }
  else if key = "proc" then return { cur with proc := ← msgText v }
  else if key = "args" then
    let (args, argsSpare) ← msgExprList cur.args cur.argsSpare v
    return { cur with args, argsSpare }
  else pure cur
termination_by (sizeOf v, 3)

/-- A list of statements given as its items and spare storage: nil empties it. -/
def msgStmtList (items spare : List Stmt) (v : Value) : MsgReading (List Stmt × List Stmt) :=
  match v with
  | .nil => pure ([], [])
  | .array vs => do
    let store ← msgStmtLay (msgStorage stmtSize {} (items ++ spare) vs.length) 0 vs
    pure (store.take vs.length, store.drop vs.length)
  | _ => throw (.mismatch "array")
termination_by (sizeOf v, 2)

def msgStmtLay (store : List Stmt) (i : Nat) : List Value → MsgReading (List Stmt)
  | [] => pure store
  | v :: vs => do
    let x ← msgStmt (store.getD i {}) v
    msgStmtLay (store.set i x) (i + 1) vs
termination_by items => (sizeOf items, 0)

end

def procFieldNames : List String := ["name", "args", "warp", "body", "span"]

def setProcMember (r : ProcEntry) (key : String) (v : Value) : MsgReading ProcEntry := do
  if key = "name" then return { r with name := ← msgText v }
  else if key = "args" then
    let (args, argsSpare) ← msgList argSize {} (msgRecord argFieldNames {} setArgMember) r.args r.argsSpare v
    return { r with args, argsSpare }
  else if key = "warp" then return { r with warp := ← msgFlag v }
  else if key = "body" then
    let (body, bodySpare) ← msgStmtList r.body r.bodySpare v
    return { r with body, bodySpare }
  else if key = "span" then return { r with span := ← msgSpan r.span v }
  else pure r

def eventFieldNames : List String := ["hat", "arg", "body", "span"]

def setEventMember (r : EventEntry) (key : String) (v : Value) : MsgReading EventEntry := do
  if key = "hat" then return { r with hat := ← msgText v }
  else if key = "arg" then return { r with arg := ← msgText v }
  else if key = "body" then
    let (body, bodySpare) ← msgStmtList r.body r.bodySpare v
    return { r with body, bodySpare }
  else if key = "span" then return { r with span := ← msgSpan r.span v }
  else pure r

def handlerFieldNames : List String := ["message", "body", "span"]

def setHandlerMember (r : HandlerEntry) (key : String) (v : Value) : MsgReading HandlerEntry := do
  if key = "message" then return { r with message := ← msgText v }
  else if key = "body" then
    let (body, bodySpare) ← msgStmtList r.body r.bodySpare v
    return { r with body, bodySpare }
  else if key = "span" then return { r with span := ← msgSpan r.span v }
  else pure r

def spriteFieldNames : List String := ["vars", "lists", "enums", "structs", "procs", "events", "on_messages"]

def setSpriteMember (r : SpriteEntry) (key : String) (v : Value) : MsgReading SpriteEntry := do
  if key = "vars" then
    let (vars, varsSpare) ← msgList varSize {} (msgRecord varFieldNames {} setVarMember) r.vars r.varsSpare v
    return { r with vars, varsSpare }
  else if key = "lists" then
    let (lists, listsSpare) ←
      msgList listSize {} (msgRecord listFieldNames {} setListMember) r.lists r.listsSpare v
    return { r with lists, listsSpare }
  else if key = "enums" then
    let (enums, enumsSpare) ←
      msgList enumSize {} (msgRecord enumFieldNames {} setEnumMember) r.enums r.enumsSpare v
    return { r with enums, enumsSpare }
  else if key = "structs" then
    let (structs, structsSpare) ←
      msgList structSize {} (msgRecord structFieldNames {} setStructMember) r.structs r.structsSpare v
    return { r with structs, structsSpare }
  else if key = "procs" then
    let (procs, procsSpare) ←
      msgList procSize {} (msgRecord procFieldNames {} setProcMember) r.procs r.procsSpare v
    return { r with procs, procsSpare }
  else if key = "events" then
    let (events, eventsSpare) ←
      msgList eventSize {} (msgRecord eventFieldNames {} setEventMember) r.events r.eventsSpare v
    return { r with events, eventsSpare }
  else if key = "on_messages" then
    let (handlers, handlersSpare) ←
      msgList handlerSize {} (msgRecord handlerFieldNames {} setHandlerMember) r.handlers r.handlersSpare v
    return { r with handlers, handlersSpare }
  else pure r

def msgSprite (v : Value) : MsgReading SpriteEntry := msgRecord spriteFieldNames {} setSpriteMember {} v

/-- The sprite map: each entry read afresh and bound, replacing an earlier binding; nil
empties the map. -/
def msgSprites (cur : List (String × SpriteEntry)) : Value → MsgReading (List (String × SpriteEntry))
  | .nil => pure []
  | .map entries =>
    entries.foldlM (fun acc (k, v) => do
      let name ← msgKey k
      let s ← msgSprite v
      pure <| if acc.any (·.1 == name) then acc.map (fun (n, x) => if n == name then (n, s) else (n, x))
        else acc ++ [(name, s)]) cur
  | _ => throw (.mismatch "map")

def documentFieldNames : List String := ["files", "stage", "sprites"]

def setDocumentMember (r : Document) (key : String) (v : Value) : MsgReading Document := do
  if key = "files" then
    let (files, filesSpare) ← msgList fileSize {} (msgRecord fileFieldNames {} setFileMember) r.files r.filesSpare v
    return { r with files, filesSpare }
  else if key = "stage" then
    return { r with stage := ← msgRecord spriteFieldNames {} setSpriteMember r.stage v }
  else if key = "sprites" then return { r with sprites := ← msgSprites r.sprites v }
  else pure r

/-- The document in the first MessagePack value of the bytes, if it holds one. -/
def Document.ofMsgpackBytes (bs : List UInt8) : Option Document :=
  match readFirst bs with
  | none => none
  | some (v, _) => (msgRecord documentFieldNames {} setDocumentMember {} v).toOption

end BlockGraph.Dump
