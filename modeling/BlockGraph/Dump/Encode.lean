import BlockGraph.Dump.Document
import BlockGraph.Json.Value
import BlockGraph.Msgpack.Value
import BlockGraph.Decimal.Shortest
import BlockGraph.Decimal.Read
import BlockGraph.Text.Utf8

namespace BlockGraph.Dump

open Json

/-- The smallest magnitude written positionally. -/
def positionalFloor : Float := (Decimal.parseFloat? "1e-6").getD 0

/-- The JSON text of a floating number, if it is finite. -/
def jsonFloatText (x : Float) : Option String :=
  match Decimal.Parts.of x with
  | .nan | .infinite _ => none
  | .finite neg m e narrow =>
    let sign := if neg then "-" else ""
    if m = 0 then some (sign ++ "0")
    else
      let d := Decimal.shortestDigits m e narrow
      if x.abs < positionalFloor ∨ x.abs ≥ 1e21 then
        let t := d.scientific
        -- an exponent below ten loses its leading zero when negative: `e-07` becomes `e-7`
        let chars := t.toList
        let n := chars.length
        if n ≥ 4 ∧ chars[n - 4]? = some 'e' ∧ chars[n - 3]? = some '-' ∧ chars[n - 2]? = some '0' then
          some (sign ++ String.ofList (chars.take (n - 2) ++ chars.drop (n - 1)))
        else some (sign ++ t)
      else some (sign ++ d.positional)

def spanJson (s : Span) : Value := .array [.ofNat s.file, .ofNat s.start, .ofNat s.stop]

/-- The members that are kept: optional ones only when not empty. -/
def optional (k : String) (keep : Bool) (v : Value) : List (String × Value) := if keep then [(k, v)] else []

def optText (k s : String) : List (String × Value) := optional k (s != "") (.string s)

def optList (k : String) (xs : List Value) : List (String × Value) := optional k (!xs.isEmpty) (.array xs)

mutual

def exprJson : Expr → Option Value
  | ⟨kind, span, int, float, str, name, field, repr, args, op, operand, lhs, rhs, _⟩ => do
    let floatPart ← if float == 0 then pure [] else do
      pure [("float", .number (← jsonFloatText float))]
    let argsJson ← exprsJson args
    let operand ← exprOptionJson operand
    let lhs ← exprOptionJson lhs
    let rhs ← exprOptionJson rhs
    pure <| .object <|
      [("kind", .string kind), ("span", (spanJson span))] ++
      optional "int" (int != 0) (.ofInt int) ++ floatPart ++ optText "str" str ++
      optText "name" name ++ optText "field" field ++ optText "repr" repr ++
      optList "args" argsJson ++ optText "op" op ++
      (operand.map (fun v => [("operand", v)])).getD [] ++
      (lhs.map (fun v => [("lhs", v)])).getD [] ++ (rhs.map (fun v => [("rhs", v)])).getD []

def exprsJson : List Expr → Option (List Value)
  | [] => some []
  | e :: es => do pure ((← exprJson e) :: (← exprsJson es))

/-- An optional expression as JSON: `some none` when there is none. -/
def exprOptionJson : Option Expr → Option (Option Value)
  | none => some none
  | some e => (exprJson e).map some

end

mutual

def stmtJson : Stmt → Option Value
  | ⟨kind, span, name, field, type, isLocal, value, index, times, cond, op, body, orElse, block,
      proc, args, _, _, _⟩ => do
    let value ← exprOptionJson value
    let index ← exprOptionJson index
    let times ← exprOptionJson times
    let cond ← exprOptionJson cond
    let bodyJson ← stmtsJson body
    let elseJson ← stmtsJson orElse
    let argsJson ← exprsJson args
    let opt (k : String) (v : Option Value) : List (String × Value) := (v.map fun x => [(k, x)]).getD []
    pure <| .object <|
      [("kind", .string kind), ("span", (spanJson span))] ++ optText "name" name ++
      optText "field" field ++ optText "type" type ++ optional "local" isLocal (.bool true) ++
      opt "value" value ++ opt "index" index ++ opt "times" times ++ opt "cond" cond ++
      optText "op" op ++ optList "body" bodyJson ++ optList "else" elseJson ++
      optText "block" block ++ optText "proc" proc ++ optList "args" argsJson

def stmtsJson : List Stmt → Option (List Value)
  | [] => some []
  | s :: ss => do pure ((← stmtJson s) :: (← stmtsJson ss))

end

def SpriteEntry.toJson (s : SpriteEntry) : Option Value := do
  let vars := s.vars.map fun v =>
    Value.object ([("name", .string v.name)] ++ optText "type" v.type ++ [("span", (spanJson v.span))])
  let lists := s.lists.map fun l =>
    Value.object ([("name", .string l.name)] ++ optText "type" l.type ++
      optList "data" (l.data.map .string) ++ [("span", (spanJson l.span))])
  let enums := s.enums.map fun e =>
    Value.object [("name", .string e.name),
      ("variants", if e.variantsGiven then .array (e.variants.map fun v =>
        .object ([("name", .string v.name)] ++ optText "value" v.value ++ [("span", (spanJson v.span))]))
        else .null),
      ("span", (spanJson e.span))]
  let structs := s.structs.map fun st =>
    Value.object [("name", .string st.name),
      ("fields", if st.fieldsGiven then .array (st.fields.map fun f =>
        .object [("name", .string f.name), ("span", (spanJson f.span))]) else .null),
      ("span", (spanJson st.span))]
  let procs ← s.procs.mapM fun p => do
    let body ← stmtsJson p.body
    pure <| Value.object <| [("name", .string p.name)] ++
      optList "args" (p.args.map fun a =>
        .object ([("name", .string a.name)] ++ optText "type" a.type ++ [("span", (spanJson a.span))])) ++
      optional "warp" p.warp (.bool true) ++ optList "body" body ++ [("span", (spanJson p.span))]
  let events ← s.events.mapM fun ev => do
    let body ← stmtsJson ev.body
    pure <| Value.object <| [("hat", .string ev.hat)] ++ optText "arg" ev.arg ++ optList "body" body ++
      [("span", (spanJson ev.span))]
  let handlers ← s.handlers.mapM fun h => do
    let body ← stmtsJson h.body
    pure <| Value.object <| [("message", .string h.message)] ++ optList "body" body ++
      [("span", (spanJson h.span))]
  pure <| .object <| optList "vars" vars ++ optList "lists" lists ++ optList "enums" enums ++
    optList "structs" structs ++ optList "procs" procs ++ optList "events" events ++
    optList "on_messages" handlers

def Document.sortedSprites (d : Document) : List (String × SpriteEntry) :=
  d.sprites.mergeSort (fun a b => Utf8.keptLE a.1 b.1)

/-- A document as JSON, if all its numbers are finite. -/
def Document.toJson (d : Document) : Option Value := do
  let files := d.files.map fun f => Value.object [("path", .string f.path), ("content", .string f.content)]
  let stage ← d.stage.toJson
  let sprites ← d.sortedSprites.mapM fun (n, s) => do pure (n, ← s.toJson)
  pure <| .object <| optList "files" files ++ [("stage", stage)] ++
    optional "sprites" (!sprites.isEmpty) (.object sprites)

/-- A document as indented JSON text with a final line feed. -/
def Document.jsonText (d : Document) : Option String := d.toJson.map fun v => v.prettyKept ++ "\n"

def packRecord (members : List (String × List UInt8)) : List UInt8 :=
  Msgpack.mapHeader members.length ++ members.flatMap fun (k, v) => Msgpack.encodeString (Utf8.encodeKept k) ++ v

def packText (s : String) : List UInt8 := Msgpack.encodeString (Utf8.encodeKept s)

def packArray (items : List (List UInt8)) : List UInt8 := Msgpack.arrayHeader items.length ++ items.flatten

def packSpan (s : Span) : List UInt8 :=
  packArray [Msgpack.encodeWord s.file, Msgpack.encodeWord s.start, Msgpack.encodeWord s.stop]

def packOptText (k s : String) : List (String × List UInt8) := if s = "" then [] else [(k, packText s)]

def packOptList (k : String) (xs : List (List UInt8)) : List (String × List UInt8) :=
  if xs.isEmpty then [] else [(k, packArray xs)]

mutual

def exprPack : Expr → List UInt8
  | ⟨kind, span, int, float, str, name, field, repr, args, op, operand, lhs, rhs, _⟩ =>
    packRecord <|
      [("kind", packText kind), ("span", packSpan span)] ++
      (if int = 0 then [] else [("int", Msgpack.encodeInt64 int)]) ++
      (if float == 0 then [] else [("float", Msgpack.encodeFloat float)]) ++
      packOptText "str" str ++ packOptText "name" name ++ packOptText "field" field ++
      packOptText "repr" repr ++ packOptList "args" (exprsPack args) ++ packOptText "op" op ++
      exprOptionPack "operand" operand ++ exprOptionPack "lhs" lhs ++ exprOptionPack "rhs" rhs

def exprsPack : List Expr → List (List UInt8)
  | [] => []
  | e :: es => exprPack e :: exprsPack es

def exprOptionPack (k : String) : Option Expr → List (String × List UInt8)
  | none => []
  | some e => [(k, exprPack e)]

end

mutual

def stmtPack : Stmt → List UInt8
  | ⟨kind, span, name, field, type, isLocal, value, index, times, cond, op, body, orElse, block,
      proc, args, _, _, _⟩ =>
    packRecord <|
      [("kind", packText kind), ("span", packSpan span)] ++ packOptText "name" name ++
      packOptText "field" field ++ packOptText "type" type ++
      (if isLocal then [("local", Msgpack.encodeBool true)] else []) ++
      exprOptionPack "value" value ++ exprOptionPack "index" index ++
      exprOptionPack "times" times ++ exprOptionPack "cond" cond ++ packOptText "op" op ++
      packOptList "body" (stmtsPack body) ++ packOptList "else" (stmtsPack orElse) ++
      packOptText "block" block ++ packOptText "proc" proc ++ packOptList "args" (exprsPack args)

def stmtsPack : List Stmt → List (List UInt8)
  | [] => []
  | s :: ss => stmtPack s :: stmtsPack ss

end

def SpriteEntry.toMsgpack (s : SpriteEntry) : List UInt8 :=
  let span (sp : Span) : String × List UInt8 := ("span", packSpan sp)
  packRecord <|
    packOptList "vars" (s.vars.map fun v =>
      packRecord ([("name", packText v.name)] ++ packOptText "type" v.type ++ [span v.span])) ++
    packOptList "lists" (s.lists.map fun l =>
      packRecord ([("name", packText l.name)] ++ packOptText "type" l.type ++
        packOptList "data" (l.data.map packText) ++ [span l.span])) ++
    packOptList "enums" (s.enums.map fun e =>
      packRecord [("name", packText e.name),
        ("variants", if e.variantsGiven then packArray (e.variants.map fun v =>
          packRecord ([("name", packText v.name)] ++ packOptText "value" v.value ++ [span v.span]))
          else [0xC0]),
        span e.span]) ++
    packOptList "structs" (s.structs.map fun st =>
      packRecord [("name", packText st.name),
        ("fields", if st.fieldsGiven then packArray (st.fields.map fun f =>
          packRecord [("name", packText f.name), span f.span]) else [0xC0]),
        span st.span]) ++
    packOptList "procs" (s.procs.map fun p =>
      packRecord ([("name", packText p.name)] ++
        packOptList "args" (p.args.map fun a =>
          packRecord ([("name", packText a.name)] ++ packOptText "type" a.type ++ [span a.span])) ++
        (if p.warp then [("warp", Msgpack.encodeBool true)] else []) ++
        packOptList "body" (stmtsPack p.body) ++ [span p.span])) ++
    packOptList "events" (s.events.map fun ev =>
      packRecord ([("hat", packText ev.hat)] ++ packOptText "arg" ev.arg ++
        packOptList "body" (stmtsPack ev.body) ++ [span ev.span])) ++
    packOptList "on_messages" (s.handlers.map fun h =>
      packRecord ([("message", packText h.message)] ++ packOptList "body" (stmtsPack h.body) ++
        [span h.span]))

def Document.toMsgpack (d : Document) : List UInt8 :=
  packRecord <|
    packOptList "files" (d.files.map fun f =>
      packRecord [("path", packText f.path), ("content", packText f.content)]) ++
    [("stage", d.stage.toMsgpack)] ++
    (if d.sprites.isEmpty then []
      else [("sprites", Msgpack.mapHeader d.sprites.length ++
        d.sortedSprites.flatMap fun (n, s) => packText n ++ s.toMsgpack)])

end BlockGraph.Dump
