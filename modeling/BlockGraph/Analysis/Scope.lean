import BlockGraph.Program.Syntax

namespace BlockGraph

structure Declarations where
  locals : Option (List Var)
  vars : List Var
  globals : List Var

def Declarations.declare (d : Declarations) (name : Name) (type : ValueType) (isLocal : Bool) :
    Declarations :=
  let v : Var := { name := name.base, span := name.span, type }
  if isLocal then
    match d.locals with
    | some ls => if ls.any (·.name == name.base) then d else { d with locals := some (ls ++ [v]) }
    | none => d
  else if d.vars.any (·.name == name.base) || d.globals.any (·.name == name.base) then d
  else { d with vars := d.vars ++ [v] }

mutual

def Declarations.visitStmt (d : Declarations) : Stmt → Declarations
  | ⟨kind, _, name, type, isLocal, _, _, _, _, _, body, orElse, _, _, _⟩ =>
    match kind with
    | .repeatTimes | .forever | .repeatUntil => d.visitStmts body
    | .branch => (d.visitStmts body).visitStmts orElse
    | .setVar => d.declare name type isLocal
    | _ => d

def Declarations.visitStmts (d : Declarations) : List Stmt → Declarations
  | [] => d
  | s :: ss => (d.visitStmt s).visitStmts ss

end

def Proc.initUsage (p : Proc) : Proc :=
  { p with usedArgs := p.args.foldl (fun acc a =>
      if acc.any (·.1 == a.name) then acc else acc ++ [(a.name, false)]) p.usedArgs }

/-- A sprite with the variables and locals its assignments declare; `globals` are the
stage's variables (none for the stage itself). -/
def Sprite.declareAssigned (s : Sprite) (globals : List Var) : Sprite :=
  let (procs, vars) := s.sortedProcs.foldl (fun ((done, vars) : List Proc × List Var) p =>
    let p := p.initUsage
    let d := ({ locals := some p.locals, vars, globals } : Declarations).visitStmts p.body
    (done ++ [{ p with locals := d.locals.getD p.locals }], d.vars)) ([], s.vars)
  let vars := s.events.foldl (fun vars ev =>
    (({ locals := none, vars, globals } : Declarations).visitStmts ev.body).vars) vars
  let vars := s.sortedHandlers.foldl (fun vars h =>
    (({ locals := none, vars, globals } : Declarations).visitStmts h.body).vars) vars
  { s with procs, vars }

/-- A project with every assignment's declaration made: the stage first, then each sprite
seeing the stage's variables. -/
def Project.declareAssigned (p : Project) : Project :=
  let stage := p.stage.declareAssigned []
  { stage, sprites := p.sprites.map (·.declareAssigned stage.vars) }

end BlockGraph
