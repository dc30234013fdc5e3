import BlockGraph.Source.Span
import BlockGraph.Catalogue.Operators
import BlockGraph.Catalogue.Primitives
import BlockGraph.Text.Utf8

namespace BlockGraph

inductive ValueType where
  | untyped | int | float | str
  | struct (name : String)
  deriving BEq, Inhabited, Repr

def ValueType.structName? : ValueType → Option String
  | .struct n => some n
  | _ => none

/-- A possibly field-qualified identifier (`p` or `p.x`) and where it was written. -/
structure Name where
  base : String
  field : String := ""
  span : Span := {}
  deriving BEq, Inhabited, Repr

def Name.render (n : Name) : String := if n.field = "" then n.base else n.base ++ "." ++ n.field

inductive Expr where
  | int (v : Int) (span : Span)
  | float (v : Float) (span : Span)
  | str (s : String) (span : Span)
  | name (n : Name)
  | arg (n : Name)
  | accessor (symbol : String) (symbolSpan : Span) (property : String) (propertySpan : Span)
  | repr (p : Primitive) (args : List Expr) (span : Span)
  | unop (op : UnOp) (operand : Expr) (span : Span)
  | binop (op : BinOp) (lhs rhs : Expr) (span : Span)
  deriving Inhabited

def Expr.span : Expr → Span
  | .int _ s | .float _ s | .str _ s => s
  | .name n | .arg n => n.span
  | .accessor _ s1 _ s2 => s1.cover s2
  | .repr _ _ s | .unop _ _ s | .binop _ _ _ s => s

def Expr.isZero : Expr → Bool
  | .int v _ => v == 0
  | .float v _ => v == 0
  | _ => false

inductive StmtKind where
  | repeatTimes | forever | branch | repeatUntil | setVar | changeVar | showData | hideData
  | listAdd | listDelete | listDeleteAll | listInsert | listSet | listChange
  | block | setField | procCall
  deriving BEq, DecidableEq, Inhabited, Repr

namespace StmtKind

def all : List StmtKind :=
  [repeatTimes, forever, branch, repeatUntil, setVar, changeVar, showData, hideData, listAdd, listDelete,
    listDeleteAll, listInsert, listSet, listChange, block, setField, procCall]

def index (k : StmtKind) : Nat :=
  match k with
  | repeatTimes => 1 | forever => 2 | branch => 3 | repeatUntil => 4 | setVar => 5 | changeVar => 6
  | showData => 7 | hideData => 8 | listAdd => 9 | listDelete => 10 | listDeleteAll => 11
  | listInsert => 12 | listSet => 13 | listChange => 14 | block => 15 | setField => 16
  | procCall => 17

def spelling : StmtKind → String
  | repeatTimes => "repeat" | forever => "forever" | branch => "branch" | repeatUntil => "until"
  | setVar => "set_var" | changeVar => "change_var" | showData => "show" | hideData => "hide"
  | listAdd => "list_add" | listDelete => "list_delete" | listDeleteAll => "list_delete_all"
  | listInsert => "list_insert" | listSet => "list_set" | listChange => "list_change"
  | block => "block" | setField => "set_field" | procCall => "proc_call"

def parse? (s : String) : Option StmtKind := all.find? (·.spelling == s)

end StmtKind

/-- A statement. Which fields count depends on the kind; the others keep what the dump gave. -/
structure Stmt where
  kind : StmtKind
  span : Span
  name : Name
  type : ValueType := .untyped
  isLocal : Bool := false
  value : Option Expr := none
  index : Option Expr := none
  times : Option Expr := none
  cond : Option Expr := none
  op : Option BinOp := none
  body : List Stmt := []
  orElse : List Stmt := []
  command : Primitive := Primitive.invalid
  proc : String := ""
  args : List Expr := []
  deriving Inhabited

structure Var where
  name : String
  span : Span
  type : ValueType
  deriving Inhabited

structure ListDecl where
  name : String
  span : Span
  type : ValueType
  data : List String
  deriving Inhabited

/-- An enum variant; an empty value means the variant's own name. -/
structure Variant where
  name : String
  span : Span
  value : String
  deriving Inhabited

structure EnumDecl where
  name : String
  span : Span
  variants : List Variant
  deriving Inhabited

def EnumDecl.variant? (e : EnumDecl) (name : String) : Option Variant :=
  e.variants.find? (·.name == name)

structure Field where
  name : String
  span : Span
  deriving Inhabited

/-- A struct declaration; its fields keep their declared order. -/
structure StructDecl where
  name : String
  span : Span
  fields : List Field
  deriving Inhabited

structure Arg where
  name : String
  span : Span
  type : ValueType
  deriving Inhabited

def dropRepeats : List String → List String
  | a :: b :: rest => if a = b then dropRepeats (b :: rest) else a :: dropRepeats (b :: rest)
  | xs => xs

def sortedUnique (xs : List String) : List String := dropRepeats (xs.mergeSort Utf8.keptLE)

/-- What one script or procedure body mentions, by kind. -/
structure References where
  vars : List String := []
  lists : List String := []
  procs : List String := []
  messages : List String := []
  variants : List (String × String) := []
  fields : List (String × String) := []
  deriving Inhabited

/-- A procedure definition, with the locals its body declares and, per argument, whether the
body reads it. -/
structure Proc where
  name : String
  span : Span
  args : List Arg
  warp : Bool
  body : List Stmt
  locals : List Var := []
  usedArgs : List (String × Bool) := []
  refs : References := {}
  deriving Inhabited

def Proc.hasArg (p : Proc) (name : String) : Bool := p.args.any (·.name == name)

structure Event where
  hat : Hat
  arg : String
  span : Span
  body : List Stmt
  refs : References := {}
  deriving Inhabited

structure Handler where
  message : String
  span : Span
  body : List Stmt
  refs : References := {}
  deriving Inhabited

/-- The stage or a sprite. Declarations are kept in the order they were made; names are
unique within each kind. -/
structure Sprite where
  name : String
  isStage : Bool
  vars : List Var := []
  lists : List ListDecl := []
  enums : List EnumDecl := []
  structs : List StructDecl := []
  procs : List Proc := []
  events : List Event := []
  handlers : List Handler := []
  deriving Inhabited

namespace Sprite

def var? (s : Sprite) (n : String) : Option Var := s.vars.find? (·.name == n)

def list? (s : Sprite) (n : String) : Option ListDecl := s.lists.find? (·.name == n)

def enum? (s : Sprite) (n : String) : Option EnumDecl := s.enums.find? (·.name == n)

def struct? (s : Sprite) (n : String) : Option StructDecl := s.structs.find? (·.name == n)

def proc? (s : Sprite) (n : String) : Option Proc := s.procs.find? (·.name == n)

def handler? (s : Sprite) (n : String) : Option Handler := s.handlers.find? (·.message == n)

def sortedProcs (s : Sprite) : List Proc := s.procs.mergeSort (fun a b => Utf8.keptLE a.name b.name)

def sortedHandlers (s : Sprite) : List Handler := s.handlers.mergeSort (fun a b => Utf8.keptLE a.message b.message)

end Sprite

def stageName : String := "Stage"

/-- A whole program: the stage, whose declarations every sprite sees, and the sprites in the
order of their names. -/
structure Project where
  stage : Sprite
  sprites : List Sprite
  deriving Inhabited

def Project.targets (p : Project) : List Sprite := p.stage :: p.sprites

end BlockGraph
