import BlockGraph.Program.Syntax
import BlockGraph.Dump.Document
import BlockGraph.Source.Files
import BlockGraph.Unicode.Composed
import BlockGraph.Text.Quoted
import BlockGraph.Text.Utf8
import BlockGraph.Program.Names

namespace BlockGraph

inductive BuildError where
  | badIdentifier (name : String)
  | duplicate (kind : String) (name : String)
  | duplicateArgument (name : String)
  | unknownHat (hat : String)
  | unknownStmtKind (kind : String)
  | missingOperand (kind : StmtKind) (operand : String)
  | unknownOperator (op : String)
  | unknownBlock (block : String)
  | unknownReporter (repr : String)
  | unknownUnary (op : String)
  | unaryMissingOperand (op : String)
  | unknownBinary (op : String)
  | binaryMissingOperand (op : String)
  | unknownExprKind (kind : String)
  | spriteCollidesWithStage (raw : String)
  | duplicateSprite (name : String)
  | inStage (e : BuildError)
  | inSprite (name : String) (e : BuildError)
  | inProc (name : String) (e : BuildError)
  | inEvent (index : Nat) (hat : String) (e : BuildError)
  | inHandler (message : String) (e : BuildError)
  | inStatement (index : Nat) (e : BuildError)
  deriving Inhabited

def BuildError.message : BuildError → String
  | .badIdentifier n => "identifier " ++ Text.quoteKept n ++ " must not contain '.' or ':'"
  | .duplicate k n => "duplicate " ++ k ++ " " ++ Text.quoteKept n
  | .duplicateArgument n => "duplicate argument " ++ Text.quoteKept n
  | .unknownHat h => "unknown hat " ++ Text.quoteKept h
  | .unknownStmtKind k => "unknown statement kind " ++ Text.quoteKept k
  | .missingOperand k o => k.spelling ++ ": missing operand " ++ o
  | .unknownOperator o => "unknown operator " ++ Text.quoteKept o
  | .unknownBlock b => "unknown block " ++ Text.quoteKept b
  | .unknownReporter r => "unknown reporter " ++ Text.quoteKept r
  | .unknownUnary o => "unknown unary operator " ++ Text.quoteKept o
  | .unaryMissingOperand o => "unary " ++ o ++ ": missing operand"
  | .unknownBinary o => "unknown binary operator " ++ Text.quoteKept o
  | .binaryMissingOperand o => "binary " ++ o ++ ": missing operand"
  | .unknownExprKind k => "unknown expression kind " ++ Text.quoteKept k
  | .spriteCollidesWithStage raw => "sprite " ++ Text.quoteKept raw ++ " collides with the stage"
  | .duplicateSprite n => "duplicate sprite " ++ Text.quoteKept n
  | .inStage e => "stage: " ++ e.message
  | .inSprite n e => "sprite " ++ n ++ ": " ++ e.message
  | .inProc n e => "proc " ++ n ++ ": " ++ e.message
  | .inEvent i h e => "event " ++ toString i ++ " (" ++ h ++ "): " ++ e.message
  | .inHandler m e => "on " ++ Text.quoteKept m ++ ": " ++ e.message
  | .inStatement i e => "statement " ++ toString i ++ ": " ++ e.message

abbrev BuildM := StateT (Option String) (Except BuildError)

def BuildM.within {α : Type} (wrap : BuildError → BuildError) (act : BuildM α) : BuildM α :=
  fun s => match act s with
    | .ok r => .ok r
    | .error e => .error (wrap e)

def ident (s : String) : BuildM String := do
  let n := Unicode.nfc s
  if !Names.isValid n then modify fun first => first.orElse (fun _ => some n)
  pure n

def parseType (s : String) : BuildM ValueType :=
  if s = "" then pure .untyped
  else if s = "int" then pure .int
  else if s = "float" then pure .float
  else if s = "str" then pure .str
  else return .struct (← ident s)

/-- The span of a dump triple: its file number goes through `files` (the first file when it
is out of range), and a stop before the start is moved to the start. -/
def mapSpan (files : List Nat) (s : Span) : Span :=
  let file := files[s.file]?.getD (files.headD 0)
  { file, start := s.start, stop := if s.stop < s.start then s.start else s.stop }

mutual

def buildExpr (files : List Nat) : Dump.Expr → BuildM Expr
  | ⟨kind, span, int, float, str, name, field, repr, args, op, operand, lhs, rhs, _⟩ => do
    let sp := mapSpan files span
    if kind = "int" then pure (.int int sp)
    else if kind = "float" then pure (.float float sp)
    else if kind = "str" then pure (.str str sp)
    else if kind = "name" then
      let base ← ident name
      let field ← ident field
      pure (.name { base, field, span := sp })
    else if kind = "arg" then
      let base ← ident name
      let field ← ident field
      pure (.arg { base, field, span := sp })
    else if kind = "accessor" then
      let symbol ← ident name
      let property ← ident field
      pure (.accessor symbol sp property sp)
    else if kind = "repr" then
      match lookupReporter repr with
      | none => throw (.unknownReporter repr)
      | some (_, p) => return .repr p (← buildExprs files args) sp
    else if kind = "unop" then
      match UnOp.parse? op with
      | none => throw (.unknownUnary op)
      | some o =>
        match operand with
        | none => throw (.unaryMissingOperand op)
        | some x => return .unop o (← buildExpr files x) sp
    else if kind = "binop" then
      match BinOp.parse? op with
      | none => throw (.unknownBinary op)
      | some o =>
        match lhs, rhs with
        | some l, some r =>
          let lhs ← buildExpr files l
          let rhs ← buildExpr files r
          pure (.binop o lhs rhs sp)
        | _, _ => throw (.binaryMissingOperand op)
    else throw (.unknownExprKind kind)

def buildExprs (files : List Nat) : List Dump.Expr → BuildM (List Expr)
  | [] => pure []
  | d :: ds => do
    let e ← buildExpr files d
    let es ← buildExprs files ds
    pure (e :: es)

end

def buildExprOption (files : List Nat) : Option Dump.Expr → BuildM (Option Expr)
  | none => pure none
  | some d => some <$> buildExpr files d

def StmtKind.requiredOperands : StmtKind → List String
  | .repeatTimes => ["times"]
  | .branch | .repeatUntil => ["cond"]
  | .setVar | .changeVar | .setField | .listAdd => ["value"]
  | .listDelete => ["index"]
  | .listInsert | .listSet | .listChange => ["index", "value"]
  | _ => []

def Dump.Stmt.hasOperand (d : Dump.Stmt) (name : String) : Bool :=
  if name = "times" then d.times.isSome
  else if name = "cond" then d.cond.isSome
  else if name = "value" then d.value.isSome
  else d.index.isSome

mutual

def buildStmt (files : List Nat) : Dump.Stmt → BuildM Stmt
  | d@⟨kindText, span, name, field, type, isLocal, value, index, times, cond, op, body, orElse,
      block, proc, args, _, _, _⟩ => do
    match StmtKind.parse? kindText with
    | none => throw (.unknownStmtKind kindText)
    | some kind =>
      let sp := mapSpan files span
      let base ← ident name
      let field ← ident field
      let type ← parseType type
      let proc ← ident proc
      match kind.requiredOperands.find? (fun o => !d.hasOperand o) with
      | some o => throw (.missingOperand kind o)
      | none =>
        let times ← buildExprOption files times
        let cond ← buildExprOption files cond
        let value ← buildExprOption files value
        let index ← buildExprOption files index
        let args ← buildExprs files args
        let body ← buildStmts files 0 body
        let orElse ← buildStmts files 0 orElse
        let stmt : Stmt :=
          { kind, span := sp, name := { base, field, span := sp }, type, isLocal,
            value, index, times, cond, body, orElse, proc, args }
        if kind = .listChange then
          match BinOp.parse? op with
          | none => throw (.unknownOperator op)
          | some o => pure { stmt with op := some o }
        else if kind = .block then
          match lookupCommand block with
          | none => throw (.unknownBlock block)
          | some (_, p) => pure { stmt with command := p }
        else pure stmt

def buildStmts (files : List Nat) (i : Nat) : List Dump.Stmt → BuildM (List Stmt)
  | [] => pure []
  | d :: ds => do
    let s ← (buildStmt files d).within (.inStatement i)
    let ss ← buildStmts files (i + 1) ds
    pure (s :: ss)

end

def buildProc (files : List Nat) (d : Dump.ProcEntry) : BuildM Proc := do
  let name ← ident d.name
  let span := mapSpan files d.span
  let args ← d.args.foldlM (fun (acc : List Arg) a => do
    let n ← ident a.name
    if acc.any (·.name == n) then throw (.duplicateArgument n)
    let type ← parseType a.type
    pure (acc ++ [{ name := n, span := mapSpan files a.span, type }])) []
  let body ← buildStmts files 0 d.body
  pure { name, span, args, warp := d.warp, body, usedArgs := [] }

def declare {α : Type} (kind : String) (nameOf : α → String) (table : List α) (name : String)
    (x : α) : BuildM (List α) :=
  if table.any (nameOf · == name) then throw (.duplicate kind name) else pure (table ++ [x])

/-- A sprite (or the stage) from its dump entry: variables, lists, enums, structs, procedures,
events, then handlers, each checked in order; a faulty identifier is reported at the end. -/
def buildSprite (files : List Nat) (name : String) (isStage : Bool) (d : Dump.SpriteEntry) :
    BuildM Sprite := do
  set (none : Option String)
  let vars ← d.vars.foldlM (fun (acc : List Var) v => do
    let n ← ident v.name
    let t ← parseType v.type
    declare "variable" Var.name acc n { name := n, span := mapSpan files v.span, type := t }) []
  let lists ← d.lists.foldlM (fun (acc : List ListDecl) l => do
    let n ← ident l.name
    let t ← parseType l.type
    declare "list" ListDecl.name acc n { name := n, span := mapSpan files l.span, type := t, data := l.data }) []
  let enums ← d.enums.foldlM (fun (acc : List EnumDecl) e => do
    let n ← ident e.name
    let variants ← e.variants.mapM fun v => do
      let vn ← ident v.name
      pure ({ name := vn, span := mapSpan files v.span, value := v.value } : Variant)
    declare "enum" EnumDecl.name acc n { name := n, span := mapSpan files e.span, variants }) []
  let structs ← d.structs.foldlM (fun (acc : List StructDecl) s => do
    let n ← ident s.name
    let fields ← s.fields.mapM fun f => do
      let fname ← ident f.name
      pure ({ name := fname, span := mapSpan files f.span } : Field)
    declare "struct" StructDecl.name acc n { name := n, span := mapSpan files s.span, fields }) []
  let procs ← d.procs.foldlM (fun (acc : List Proc) p => do
    let proc ← (buildProc files p).within (.inProc p.name)
    declare "procedure" Proc.name acc proc.name proc) []
  let (events, _) ← d.events.foldlM (fun ((acc, i) : List Event × Nat) e => do
    let ev ← BuildM.within (.inEvent i e.hat) do
      match lookupHat e.hat with
      | none => throw (.unknownHat e.hat)
      | some hat =>
        let body ← buildStmts files 0 e.body
        pure ({ hat, arg := e.arg, span := mapSpan files e.span, body } : Event)
    pure (acc ++ [ev], i + 1)) ([], 0)
  let handlers ← d.handlers.foldlM (fun (acc : List Handler) h => do
    let body ← (buildStmts files 0 h.body).within (.inHandler h.message)
    declare "message handler" Handler.message acc h.message
      { message := h.message, span := mapSpan files h.span, body }) []
  match ← get with
  | some bad => throw (.badIdentifier bad)
  | none => pure { name, isStage, vars, lists, enums, structs, procs, events, handlers }

/-- The embedded sources as a file set, and the file number of each entry; a path listed
twice keeps its first contents. With no sources, one empty file named `origin` (a plain text)
stands in. Paths of the set are kept texts. -/
def loadFiles (origin : String) (entries : List Dump.FileEntry) : FileSet × List Nat :=
  let (fs, ids) := entries.foldl (fun ((fs, ids) : FileSet × List Nat) f =>
    match fs.findPath? f.path with
    | some known => (fs, ids ++ [known.id])
    | none =>
      let (fs', id) := fs.add f.path (Utf8.encodeKept f.content) true
      (fs', ids ++ [id])) ({}, [])
  if ids.isEmpty then
    let (fs', id) := fs.add (Utf8.keepText origin) [] true
    (fs', [id])
  else (fs, ids)

/-- A program and its sources from a dump; `origin` names the dump when it embeds no
sources. Sprites are built in the order of their names as the dump spells them. -/
def Project.build (doc : Dump.Document) (origin : String) : Except BuildError (Project × FileSet) := do
  let (fs, files) := loadFiles origin doc.files
  let (stage, _) ← ((buildSprite files stageName true doc.stage).within .inStage).run none
  let sorted := doc.sprites.mergeSort (fun a b => Utf8.keptLE a.1 b.1)
  let sprites ← sorted.foldlM (fun (acc : List Sprite) (raw, entry) => do
    let name := Unicode.nfc raw
    if name = stageName then throw (.spriteCollidesWithStage raw)
    if acc.any (·.name == name) then throw (.duplicateSprite name)
    let (sprite, _) ← ((buildSprite files name false entry).within (.inSprite name)).run none
    pure (acc ++ [sprite])) []
  pure ({ stage, sprites := sprites.mergeSort (fun a b => Utf8.keptLE a.name b.name) }, fs)

end BlockGraph
