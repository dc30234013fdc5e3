import BlockGraph.Text.Case
import BlockGraph.Json.Read
import BlockGraph.Decimal.Read
import BlockGraph.Dump.Document

namespace BlockGraph.Dump

open Json

/-- Why a JSON value does not fit a document. -/
inductive JsonFieldError where
  | mismatch (expected : String)
  | unknownKey (key : String)
  | outOfRange (literal : String)
  deriving Inhabited

abbrev Reading := Except JsonFieldError

def readText (cur : String) : Value → Reading String
  | .null => pure cur
  | .string s => pure (Utf8.keepText s)
  | _ => throw (.mismatch "string")

def readFlag (cur : Bool) : Value → Reading Bool
  | .null => pure cur
  | .bool b => pure b
  | _ => throw (.mismatch "bool")

def readInt (cur : Int) : Value → Reading Int
  | .null => pure cur
  | .number lit =>
    match Decimal.parseInt64? lit with
    | some v => pure v
    | none => throw (.outOfRange lit)
  | _ => throw (.mismatch "number")

def readFloat (cur : Float) : Value → Reading Float
  | .null => pure cur
  | .number lit =>
    match Decimal.parseFloat? lit with
    | some v => pure v
    | none => throw (.outOfRange lit)
  | _ => throw (.mismatch "number")

def readWord (cur : Nat) : Value → Reading Nat
  | .null => pure cur
  | .number lit =>
    match Decimal.parseUnsigned? 32 lit with
    | some v => pure v
    | none => throw (.outOfRange lit)
  | _ => throw (.mismatch "number")

/-- A span: the first three numbers of an array, laid over the current ones; the numbers
that the array does not reach become zero. -/
def readSpan (cur : Span) : Value → Reading Span
  | .null => pure cur
  | .array items => do
    let file ← match items[0]? with
      | some v => readWord cur.file v
      | none => pure 0
    let start ← match items[1]? with
      | some v => readWord cur.start v
      | none => pure 0
    let stop ← match items[2]? with
      | some v => readWord cur.stop v
      | none => pure 0
    pure { file, start, stop }
  | _ => throw (.mismatch "array")

/-- Items laid over a list's storage from place `i` on; storage that is full grows first. -/
def layItems {α : Type} (itemSize : Nat) (empty : α) (readOne : α → Value → Reading α) :
    List α → Nat → List Value → Reading (List α)
  | store, _, [] => pure store
  | store, i, v :: vs => do
    let store := Storage.reach itemSize empty store i
    let x ← readOne (store.getD i empty) v
    layItems itemSize empty readOne (store.set i x) (i + 1) vs

/-- A list field given as its items and spare storage: an array is laid over the storage;
`null` and the empty array leave it empty. -/
def readList {α : Type} (itemSize : Nat) (empty : α) (readOne : α → Value → Reading α)
    (items spare : List α) : Value → Reading (List α × List α)
  | .null => pure ([], [])
  | .array [] => pure ([], [])
  | .array vs => do
    let store ← layItems itemSize empty readOne (items ++ spare) 0 vs
    pure (store.take vs.length, store.drop vs.length)
  | _ => throw (.mismatch "array")

/-- A record of fixed fields: `setField` lays one member over the record, or refuses its key. -/
def readRecord {α : Type} (setField : α → String → Value → Reading α) (cur : α) :
    Value → Reading α
  | .null => pure cur
  | .object members => members.foldlM (fun acc (k, v) => setField acc (Text.foldKey k) v) cur
  | _ => throw (.mismatch "object")

def setFileField (r : FileEntry) (key : String) (v : Value) : Reading FileEntry :=
  if key = "PATH" then return { r with path := ← readText r.path v }
  else if key = "CONTENT" then return { r with content := ← readText r.content v }
  else throw (.unknownKey key)

def setVarField (r : VarEntry) (key : String) (v : Value) : Reading VarEntry :=
  if key = "NAME" then return { r with name := ← readText r.name v }
  else if key = "TYPE" then return { r with type := ← readText r.type v }
  else if key = "SPAN" then return { r with span := ← readSpan r.span v }
  else throw (.unknownKey key)

def setListField (r : ListEntry) (key : String) (v : Value) : Reading ListEntry := do
  if key = "NAME" then return { r with name := ← readText r.name v }
  else if key = "TYPE" then return { r with type := ← readText r.type v }
  else if key = "DATA" then
    let (data, dataSpare) ← readList textSize "" readText r.data r.dataSpare v
    return { r with data, dataSpare }
  else if key = "SPAN" then return { r with span := ← readSpan r.span v }
  else throw (.unknownKey key)

def setVariantField (r : VariantEntry) (key : String) (v : Value) : Reading VariantEntry :=
  if key = "NAME" then return { r with name := ← readText r.name v }
  else if key = "VALUE" then return { r with value := ← readText r.value v }
  else if key = "SPAN" then return { r with span := ← readSpan r.span v }
  else throw (.unknownKey key)

def setEnumField (r : EnumEntry) (key : String) (v : Value) : Reading EnumEntry := do
  if key = "NAME" then return { r with name := ← readText r.name v }
  else if key = "VARIANTS" then
    let (variants, variantsSpare) ←
      readList variantSize {} (readRecord setVariantField) r.variants r.variantsSpare v
    return { r with variants, variantsSpare, variantsGiven := !(v matches .null) }
  else if key = "SPAN" then return { r with span := ← readSpan r.span v }
  else throw (.unknownKey key)

def setFieldEntryField (r : FieldEntry) (key : String) (v : Value) : Reading FieldEntry :=
  if key = "NAME" then return { r with name := ← readText r.name v }
  else if key = "SPAN" then return { r with span := ← readSpan r.span v }
  else throw (.unknownKey key)

def setStructField (r : StructEntry) (key : String) (v : Value) : Reading StructEntry := do
  if key = "NAME" then return { r with name := ← readText r.name v }
  else if key = "FIELDS" then
    let (fields, fieldsSpare) ←
      readList fieldSize {} (readRecord setFieldEntryField) r.fields r.fieldsSpare v
    return { r with fields, fieldsSpare, fieldsGiven := !(v matches .null) }
  else if key = "SPAN" then return { r with span := ← readSpan r.span v }
  else throw (.unknownKey key)

def setArgField (r : ArgEntry) (key : String) (v : Value) : Reading ArgEntry :=
  if key = "NAME" then return { r with name := ← readText r.name v }
  else if key = "TYPE" then return { r with type := ← readText r.type v }
  else if key = "SPAN" then return { r with span := ← readSpan r.span v }
  else throw (.unknownKey key)

mutual

def readExpr (cur : Expr) : Value → Reading Expr
  | .null => pure cur
  | .object members => readExprMembers cur members
  | _ => throw (.mismatch "object")

def readExprMembers (cur : Expr) : List (String × Value) → Reading Expr
  | [] => pure cur
  | (k, v) :: rest => do
    let key := Text.foldKey k
    let cur ←
      if key = "KIND" then pure { cur with kind := ← readText cur.kind v }
      else if key = "SPAN" then pure { cur with span := ← readSpan cur.span v }
      else if key = "INT" then pure { cur with int := ← readInt cur.int v }
      else if key = "FLOAT" then pure { cur with float := ← readFloat cur.float v }
      else if key = "STR" then pure { cur with str := ← readText cur.str v }
      else if key = "NAME" then pure { cur with name := ← readText cur.name v }
      else if key = "FIELD" then pure { cur with field := ← readText cur.field v }
      else if key = "REPR" then pure { cur with repr := ← readText cur.repr v }
      else if key = "ARGS" then
        let (args, argsSpare) ← readExprList cur.args cur.argsSpare v
        pure { cur with args, argsSpare }
      else if key = "OP" then pure { cur with op := ← readText cur.op v }
      else if key = "OPERAND" then pure { cur with operand := ← readExprOption cur.operand v }
      else if key = "LHS" then pure { cur with lhs := ← readExprOption cur.lhs v }
      else if key = "RHS" then pure { cur with rhs := ← readExprOption cur.rhs v }
      else throw (.unknownKey k)
    readExprMembers cur rest

/-- An optional expression: `null` removes it, an object is laid over it. -/
def readExprOption (cur : Option Expr) : Value → Reading (Option Expr)
  | .null => pure none
  | .object members => some <$> readExprMembers (cur.getD {}) members
  | _ => throw (.mismatch "object")

def readExprList (items spare : List Expr) : Value → Reading (List Expr × List Expr)
  | .null => pure ([], [])
  | .array [] => pure ([], [])
  | .array vs => do
    let store ← layExprs (items ++ spare) 0 vs
    pure (store.take vs.length, store.drop vs.length)
  | _ => throw (.mismatch "array")

def layExprs (store : List Expr) (i : Nat) : List Value → Reading (List Expr)
  | [] => pure store
  | v :: vs => do
    let store := Storage.reach exprSize {} store i
    let x ← readExpr (store.getD i {}) v
    layExprs (store.set i x) (i + 1) vs

end

mutual

def readStmt (cur : Stmt) : Value → Reading Stmt
  | .null => pure cur
  | .object members => readStmtMembers cur members
  | _ => throw (.mismatch "object")

def readStmtMembers (cur : Stmt) : List (String × Value) → Reading Stmt
  | [] => pure cur
  | (k, v) :: rest => do
    let key := Text.foldKey k
    let cur ←
      if key = "KIND" then pure { cur with kind := ← readText cur.kind v }
      else if key = "SPAN" then pure { cur with span := ← readSpan cur.span v }
      else if key = "NAME" then pure { cur with name := ← readText cur.name v }
      else if key = "FIELD" then pure { cur with field := ← readText cur.field v }
      else if key = "TYPE" then pure { cur with type := ← readText cur.type v }
      else if key = "LOCAL" then pure { cur with isLocal := ← readFlag cur.isLocal v }
      else if key = "VALUE" then pure { cur with value := ← readExprOption cur.value v }
      else if key = "INDEX" then pure { cur with index := ← readExprOption cur.index v }
      else if key = "TIMES" then pure { cur with times := ← readExprOption cur.times v }
      else if key = "COND" then pure { cur with cond := ← readExprOption cur.cond v }
      else if key = "OP" then pure { cur with op := ← readText cur.op v }
      else if key = "BODY" then
        let (body, bodySpare) ← readStmtList cur.body cur.bodySpare v
        pure { cur with body, bodySpare }
      else if key = "ELSE" then
        let (orElse, orElseSpare) ← readStmtList cur.orElse cur.orElseSpare v
        pure { cur with orElse, orElseSpare }
      else if key = "BLOCK" then pure { cur with block := ← readText cur.block v }
      else if key = "PROC" then pure { cur with proc := ← readText cur.proc v }
      else if key = "ARGS" then
        let (args, argsSpare) ← readExprList cur.args cur.argsSpare v
        pure { cur with args, argsSpare }
      else throw (.unknownKey k)
    readStmtMembers cur rest

def readStmtList (items spare : List Stmt) : Value → Reading (List Stmt × List Stmt)
  | .null => pure ([], [])
  | .array [] => pure ([], [])
  | .array vs => do
    let store ← layStmts (items ++ spare) 0 vs
    pure (store.take vs.length, store.drop vs.length)
  | _ => throw (.mismatch "array")

def layStmts (store : List Stmt) (i : Nat) : List Value → Reading (List Stmt)
  | [] => pure store
  | v :: vs => do
    let store := Storage.reach stmtSize {} store i
    let x ← readStmt (store.getD i {}) v
    layStmts (store.set i x) (i + 1) vs

end

def setProcField (r : ProcEntry) (key : String) (v : Value) : Reading ProcEntry := do
  if key = "NAME" then return { r with name := ← readText r.name v }
  else if key = "ARGS" then
    let (args, argsSpare) ← readList argSize {} (readRecord setArgField) r.args r.argsSpare v
    return { r with args, argsSpare }
  else if key = "WARP" then return { r with warp := ← readFlag r.warp v }
  else if key = "BODY" then
    let (body, bodySpare) ← readStmtList r.body r.bodySpare v
    return { r with body, bodySpare }
  else if key = "SPAN" then return { r with span := ← readSpan r.span v }
  else throw (.unknownKey key)

def setEventField (r : EventEntry) (key : String) (v : Value) : Reading EventEntry := do
  if key = "HAT" then return { r with hat := ← readText r.hat v }
  else if key = "ARG" then return { r with arg := ← readText r.arg v }
  else if key = "BODY" then
    let (body, bodySpare) ← readStmtList r.body r.bodySpare v
    return { r with body, bodySpare }
  else if key = "SPAN" then return { r with span := ← readSpan r.span v }
  else throw (.unknownKey key)

def setHandlerField (r : HandlerEntry) (key : String) (v : Value) : Reading HandlerEntry := do
  if key = "MESSAGE" then return { r with message := ← readText r.message v }
  else if key = "BODY" then
    let (body, bodySpare) ← readStmtList r.body r.bodySpare v
    return { r with body, bodySpare }
  else if key = "SPAN" then return { r with span := ← readSpan r.span v }
  else throw (.unknownKey key)

def setSpriteField (r : SpriteEntry) (key : String) (v : Value) : Reading SpriteEntry := do
  if key = "VARS" then
    let (vars, varsSpare) ← readList varSize {} (readRecord setVarField) r.vars r.varsSpare v
    return { r with vars, varsSpare }
  else if key = "LISTS" then
    let (lists, listsSpare) ← readList listSize {} (readRecord setListField) r.lists r.listsSpare v
    return { r with lists, listsSpare }
  else if key = "ENUMS" then
    let (enums, enumsSpare) ← readList enumSize {} (readRecord setEnumField) r.enums r.enumsSpare v
    return { r with enums, enumsSpare }
  else if key = "STRUCTS" then
    let (structs, structsSpare) ←
      readList structSize {} (readRecord setStructField) r.structs r.structsSpare v
    return { r with structs, structsSpare }
  else if key = "PROCS" then
    let (procs, procsSpare) ← readList procSize {} (readRecord setProcField) r.procs r.procsSpare v
    return { r with procs, procsSpare }
  else if key = "EVENTS" then
    let (events, eventsSpare) ←
      readList eventSize {} (readRecord setEventField) r.events r.eventsSpare v
    return { r with events, eventsSpare }
  else if key = "ON_MESSAGES" then
    let (handlers, handlersSpare) ←
      readList handlerSize {} (readRecord setHandlerField) r.handlers r.handlersSpare v
    return { r with handlers, handlersSpare }
  else throw (.unknownKey key)

/-- The sprite map with `name` bound to `sprite`, replacing an earlier binding. -/
def bindSprite (sprites : List (String × SpriteEntry)) (name : String) (sprite : SpriteEntry) :
    List (String × SpriteEntry) :=
  if sprites.any (·.1 == name) then sprites.map (fun (k, s) => if k == name then (k, sprite) else (k, s))
  else sprites ++ [(name, sprite)]

def readSprites (cur : List (String × SpriteEntry)) : Value → Reading (List (String × SpriteEntry))
  | .null => pure []
  | .object members =>
    members.foldlM (fun acc (k, v) => do
      let s ← readRecord setSpriteField {} v
      pure (bindSprite acc (Utf8.keepText k) s)) cur
  | _ => throw (.mismatch "object")

def setDocumentField (r : Document) (key : String) (v : Value) : Reading Document := do
  if key = "FILES" then
    let (files, filesSpare) ← readList fileSize {} (readRecord setFileField) r.files r.filesSpare v
    return { r with files, filesSpare }
  else if key = "STAGE" then return { r with stage := ← readRecord setSpriteField r.stage v }
  else if key = "SPRITES" then return { r with sprites := ← readSprites r.sprites v }
  else throw (.unknownKey key)

/-- Why JSON bytes hold no document. -/
inductive JsonDumpError where
  | malformed (e : ReadError)
  | field (e : JsonFieldError)
  deriving Inhabited

def Document.ofJsonBytes (bs : List UInt8) : Except JsonDumpError Document :=
  match readFirst bs with
  | .error e => .error (.malformed e)
  | .ok (v, _) =>
    match readRecord setDocumentField {} v with
    | .error e => .error (.field e)
    | .ok d => .ok d

end BlockGraph.Dump
