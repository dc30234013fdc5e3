import BlockGraph.Program.Syntax
import BlockGraph.Diagnostic.Basic
import BlockGraph.Text.Quoted
/-!
# Resolving names, folding and desugaring

Each body is walked once: it records what it mentions, expands whole struct assignments, folds
`+ - *` over literals and rewrites the operators that have no block, operands first.
-/

namespace BlockGraph

def insertNew {α : Type} [BEq α] (xs : List α) (x : α) : List α := if xs.contains x then xs else xs ++ [x]

def wrapWord (n : Int) : Int := Int.bmod n (Nat.pow 2 64)

/-- The declarations a body sees: its sprite's, the stage's (for a sprite), and its
procedure's locals. -/
structure Scope where
  sprite : Sprite
  stage : Option Sprite
  locals : List Var := []

namespace Scope

def var? (s : Scope) (n : String) : Option Var :=
  match s.locals.find? (·.name == n) with
  | some v => some v
  | none => (s.sprite.var? n).orElse fun _ => s.stage.bind (·.var? n)

def isList (s : Scope) (n : String) : Bool :=
  (s.sprite.list? n).isSome || (s.stage.bind (·.list? n)).isSome

def struct? (s : Scope) (n : String) : Option StructDecl :=
  (s.sprite.struct? n).orElse fun _ => s.stage.bind (·.struct? n)

def enum? (s : Scope) (n : String) : Option EnumDecl :=
  (s.sprite.enum? n).orElse fun _ => s.stage.bind (·.enum? n)

/-- The fields of the struct a variable holds; empty when it holds none or the struct is
unknown. -/
def structFields (s : Scope) (v : Var) : List Field :=
  match v.type.structName? with
  | some n => ((s.struct? n).map (·.fields)).getD []
  | none => []

end Scope

structure Walk where
  refs : References := {}
  usedArgs : List (String × Bool) := []
  found : List Diagnostic := []

abbrev WalkM := ReaderT Scope (StateM Walk)

namespace WalkM

def addVar (n : String) : WalkM Unit := modify fun w => { w with refs.vars := insertNew w.refs.vars n }
def addList (n : String) : WalkM Unit := modify fun w => { w with refs.lists := insertNew w.refs.lists n }
def addProc (n : String) : WalkM Unit := modify fun w => { w with refs.procs := insertNew w.refs.procs n }
def addMessage (n : String) : WalkM Unit :=
  modify fun w => { w with refs.messages := insertNew w.refs.messages n }
def addVariant (e v : String) : WalkM Unit :=
  modify fun w => { w with refs.variants := insertNew w.refs.variants (e, v) }
def addField (s f : String) : WalkM Unit :=
  modify fun w => { w with refs.fields := insertNew w.refs.fields (s, f) }
def report (d : Diagnostic) : WalkM Unit := modify fun w => { w with found := d :: w.found }

def markRead (n : String) : WalkM Unit :=
  modify fun w => { w with usedArgs := w.usedArgs.map fun (a, u) => if a == n then (a, true) else (a, u) }

end WalkM

/-- Records an accessor: an enum variant, a struct's field named through the struct, or a
field of a struct variable. -/
def recordAccessor (symbol property : String) : WalkM Unit := do
  let s ← read
  if (s.enum? symbol).isSome then WalkM.addVariant symbol property
  else if (s.struct? symbol).isSome then WalkM.addField symbol property
  else match s.var? symbol with
    | some v =>
      match v.type.structName? with
      | some sn => do WalkM.addVar symbol; WalkM.addField sn property
      | none => pure ()
    | none => pure ()

/-- Records a bare name: a variable (and its field), or else a list, warning when it is not a
list either. -/
def recordName (n : Name) : WalkM Unit := do
  let s ← read
  match s.var? n.base with
  | some v =>
    WalkM.addVar n.base
    if n.field != "" then
      match v.type.structName? with
      | some sn => WalkM.addField sn n.field
      | none => pure ()
  | none =>
    WalkM.addList n.base
    if !s.isList n.base then
      WalkM.report (.warning .unresolvedName n.span
        (Text.quoteKept n.render ++ " is neither a variable nor a list; treating it as a list"))

def foldArith (op : BinOp) (lhs rhs : Expr) (span : Span) : Option Expr :=
  let intOp : Int → Int → Int := match op with
    | .add => (· + ·) | .sub => (· - ·) | _ => (· * ·)
  let floatOp : Float → Float → Float := match op with
    | .add => (· + ·) | .sub => (· - ·) | _ => (· * ·)
  match lhs, rhs with
  | .int a _, .int b _ => some (.int (wrapWord (intOp a b)) span)
  | .int a _, .float b _ => some (.float (floatOp (Float.ofInt a) b) span)
  | .float a _, .int b _ => some (.float (floatOp a (Float.ofInt b)) span)
  | .float a _, .float b _ => some (.float (floatOp a b) span)
  | _, _ => none

def negate (operand : Expr) (span : Span) : Expr :=
  match operand with
  | .int v _ => .int (wrapWord (-v)) span
  | .float v _ => .float (-v) span
  | .binop .sub l r _ => if l.isZero then r else .binop .sub (.int 0 span) operand span
  | _ => .binop .sub (.int 0 span) operand span

mutual

def visitExpr : Expr → WalkM Expr
  | .accessor sym s1 prop s2 => do
    recordAccessor sym prop
    pure (.accessor sym s1 prop s2)
  | .name n => do
    recordName n
    pure (.name n)
  | .arg n => do
    WalkM.markRead n.base
    pure (.arg n)
  | .repr p args span => do
    let args ← visitExprs args
    pure (.repr p args span)
  | .unop op operand span => do
    let operand ← visitExpr operand
    match op with
    | .neg => pure (negate operand span)
    | .not =>
      match operand with
      | .unop .not inner _ => pure inner
      | _ => pure (.unop .not operand span)
    | _ => pure (.unop op operand span)
  | .binop op lhs rhs span => do
    let lhs ← visitExpr lhs
    let rhs ← visitExpr rhs
    match op with
    | .letterOf =>
      match lhs with
      | .name n =>
        if n.field == "" && (← read).isList n.base then WalkM.addList n.base
        pure (.binop op lhs rhs span)
      | _ => pure (.binop op lhs rhs span)
    | .add | .sub | .mul => pure ((foldArith op lhs rhs span).getD (.binop op lhs rhs span))
    | .le => pure (.unop .not (.binop .lt rhs lhs span) span)
    | .ge => pure (.unop .not (.binop .gt rhs lhs span) span)
    | .ne => pure (.unop .not (.binop .eq lhs rhs span) span)
    | .floorDiv => pure (.unop .floor (.binop .div lhs rhs span) span)
    | _ => pure (.binop op lhs rhs span)
  | e => pure e

def visitExprs : List Expr → WalkM (List Expr)
  | [] => pure []
  | e :: es => do
    let e ← visitExpr e
    let es ← visitExprs es
    pure (e :: es)

end

def visitExprOption : Option Expr → WalkM (Option Expr)
  | none => pure none
  | some e => some <$> visitExpr e

/-- The field assignments that replace an assignment of a whole struct variable, or none when
the statement is no such assignment. -/
def expandStructAssign (s : Scope) (st : Stmt) : Option (List Stmt) :=
  if st.kind != .setVar || st.name.field != "" then none
  else do
    let target ← s.var? st.name.base
    let sn ← target.type.structName?
    let def_ ← s.struct? sn
    if def_.fields.isEmpty then none
    else
      let copyFrom : Option Name := match st.value with
        | some (.name n) =>
          if n.field != "" then none
          else match s.var? n.base with
            | some src => if src.type.structName? == some def_.name then some n else none
            | none => none
        | _ => none
      some (def_.fields.map fun f =>
        let value := match copyFrom with
          | some n => some (Expr.accessor n.base n.span f.name n.span)
          | none => st.value
        { kind := .setField, span := st.span,
          name := { base := st.name.base, field := f.name, span := st.name.span }, value })

def visitFieldAssign (st : Stmt) : WalkM Stmt := do
  let value ← visitExprOption st.value
  pure { st with value }

mutual

def visitStmt : Stmt → WalkM Stmt
  | st@⟨kind, _, name, _, _, value, index, times, cond, _, body, orElse, command, proc, args⟩ =>
    match kind with
    | .repeatTimes => do
      let times ← visitExprOption times
      let body ← visitStmts body
      pure { st with times, body }
    | .forever => do
      let body ← visitStmts body
      pure { st with body }
    | .branch => do
      let cond ← visitExprOption cond
      let body ← visitStmts body
      let orElse ← visitStmts orElse
      pure { st with cond, body, orElse }
    | .repeatUntil => do
      let cond ← visitExprOption cond
      let body ← visitStmts body
      pure { st with cond, body }
    | .setVar | .changeVar | .setField => do
      let value ← visitExprOption value
      pure { st with value }
    | .showData | .hideData => pure st
    | .listAdd => do
      WalkM.addList name.base
      let value ← visitExprOption value
      pure { st with value }
    | .listDelete => do
      WalkM.addList name.base
      let index ← visitExprOption index
      pure { st with index }
    | .listDeleteAll => do
      WalkM.addList name.base
      pure st
    | .listInsert | .listSet | .listChange => do
      WalkM.addList name.base
      let index ← visitExprOption index
      let value ← visitExprOption value
      pure { st with index, value }
    | .block => do
      if command.sendsMessage then
        match args with
        | .str m _ :: _ => WalkM.addMessage m
        | _ => pure ()
      let args ← visitExprs args
      pure { st with args }
    | .procCall => do
      WalkM.addProc proc
      let args ← visitExprs args
      pure { st with args }

def visitStmts : List Stmt → WalkM (List Stmt)
  | [] => pure []
  | st :: sts => do
    match expandStructAssign (← read) st with
    | some expanded => do
      let first ← expanded.mapM visitFieldAssign
      let rest ← visitStmts sts
      pure (first ++ rest)
    | none => do
      let st ← visitStmt st
      let rest ← visitStmts sts
      pure (st :: rest)

end

def walkBody (scope : Scope) (start : Walk) (body : List Stmt) : List Stmt × Walk :=
  ((visitStmts body).run scope).run start

/-- A sprite with every body walked: events, handlers by message, procedures by name; the
findings of all bodies, in that order. -/
def Sprite.resolve (sprite : Sprite) (stage : Option Sprite) : Sprite × List Diagnostic :=
  let scope : Scope := { sprite, stage }
  let (events, found) := sprite.events.foldl (fun ((done, found) : List Event × List Diagnostic) ev =>
    let (body, w) := walkBody scope {} ev.body
    (done ++ [{ ev with body, refs := w.refs }], found ++ w.found.reverse)) ([], [])
  let (handlers, found) := sprite.sortedHandlers.foldl
    (fun ((done, found) : List Handler × List Diagnostic) h =>
      let (body, w) := walkBody scope { refs := { messages := [h.message] } } h.body
      (done ++ [{ h with body, refs := w.refs }], found ++ w.found.reverse)) ([], found)
  let (procs, found) := sprite.sortedProcs.foldl (fun ((done, found) : List Proc × List Diagnostic) p =>
    let (body, w) := walkBody { scope with locals := p.locals } { usedArgs := p.usedArgs } p.body
    (done ++ [{ p with body, refs := w.refs, usedArgs := w.usedArgs }], found ++ w.found.reverse))
    ([], found)
  ({ sprite with events, handlers, procs }, found)

def Project.resolve (p : Project) : Project × List Diagnostic :=
  let (stage, found) := p.stage.resolve none
  let (sprites, found) := p.sprites.foldl (fun ((done, found) : List Sprite × List Diagnostic) s =>
    let (s', f) := s.resolve (some p.stage)
    (done ++ [s'], found ++ f)) ([], found)
  ({ stage, sprites }, found)

/-- The warnings of the unused-argument lint for one procedure: one per argument whose entry in
the procedure's table says it was never read, with a note at the procedure. -/
def Proc.unusedArguments (proc : Proc) : List Diagnostic :=
  proc.args.filterMap fun a =>
    match proc.usedArgs.lookup a.name with
    | some false =>
      some ((Diagnostic.warning .unusedArgument a.span
        ("argument " ++ Text.quoteKept a.name ++ " of " ++ proc.name ++ " is never used")).withNote
          proc.span "declared here")
    | _ => none

def Project.unusedArguments (p : Project) : List Diagnostic :=
  p.targets.flatMap fun s => s.sortedProcs.flatMap Proc.unusedArguments

end BlockGraph
