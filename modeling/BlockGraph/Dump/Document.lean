import BlockGraph.Source.Span
import BlockGraph.Storage

namespace BlockGraph.Dump

/-- A source text embedded in the dump, so that diagnostics can quote it. -/
structure FileEntry where
  path : String := ""
  content : String := ""
  deriving Inhabited

/-- A variable declaration; the type is `int`, `float`, `str`, a struct name, or empty. -/
structure VarEntry where
  name : String := ""
  type : String := ""
  span : Span := {}
  deriving Inhabited

structure ListEntry where
  name : String := ""
  type : String := ""
  data : List String := []
  dataSpare : List String := []
  span : Span := {}
  deriving Inhabited

/-- An enum variant; an empty value means the variant's own name. -/
structure VariantEntry where
  name : String := ""
  value : String := ""
  span : Span := {}
  deriving Inhabited

structure EnumEntry where
  name : String := ""
  variants : List VariantEntry := []
  variantsGiven : Bool := false
  span : Span := {}
  variantsSpare : List VariantEntry := []
  deriving Inhabited

structure FieldEntry where
  name : String := ""
  span : Span := {}
  deriving Inhabited

structure StructEntry where
  name : String := ""
  fields : List FieldEntry := []
  fieldsGiven : Bool := false
  span : Span := {}
  fieldsSpare : List FieldEntry := []
  deriving Inhabited

structure ArgEntry where
  name : String := ""
  type : String := ""
  span : Span := {}
  deriving Inhabited

/-- An expression. `kind` says which of the other fields count: `int`, `float`, `str`,
`name` and `arg` (name and field), `accessor` (name is the symbol, field the property), `repr`
(reporter and args), `unop` (op and operand), `binop` (op, lhs and rhs). -/
structure Expr where
  kind : String := ""
  span : Span := {}
  int : Int := 0
  float : Float := 0
  str : String := ""
  name : String := ""
  field : String := ""
  repr : String := ""
  args : List Expr := []
  op : String := ""
  operand : Option Expr := none
  lhs : Option Expr := none
  rhs : Option Expr := none
  argsSpare : List Expr := []
  deriving Inhabited

/-- A statement. `kind` is a statement kind name; the operand fields that a kind needs are
checked when the dump is built into a program. -/
structure Stmt where
  kind : String := ""
  span : Span := {}
  name : String := ""
  field : String := ""
  type : String := ""
  isLocal : Bool := false
  value : Option Expr := none
  index : Option Expr := none
  times : Option Expr := none
  cond : Option Expr := none
  op : String := ""
  body : List Stmt := []
  orElse : List Stmt := []
  block : String := ""
  proc : String := ""
  args : List Expr := []
  bodySpare : List Stmt := []
  orElseSpare : List Stmt := []
  argsSpare : List Expr := []
  deriving Inhabited

structure ProcEntry where
  name : String := ""
  args : List ArgEntry := []
  warp : Bool := false
  body : List Stmt := []
  span : Span := {}
  argsSpare : List ArgEntry := []
  bodySpare : List Stmt := []
  deriving Inhabited

structure EventEntry where
  hat : String := ""
  arg : String := ""
  body : List Stmt := []
  span : Span := {}
  bodySpare : List Stmt := []
  deriving Inhabited

structure HandlerEntry where
  message : String := ""
  body : List Stmt := []
  span : Span := {}
  bodySpare : List Stmt := []
  deriving Inhabited

structure SpriteEntry where
  vars : List VarEntry := []
  lists : List ListEntry := []
  enums : List EnumEntry := []
  structs : List StructEntry := []
  procs : List ProcEntry := []
  events : List EventEntry := []
  handlers : List HandlerEntry := []
  varsSpare : List VarEntry := []
  listsSpare : List ListEntry := []
  enumsSpare : List EnumEntry := []
  structsSpare : List StructEntry := []
  procsSpare : List ProcEntry := []
  eventsSpare : List EventEntry := []
  handlersSpare : List HandlerEntry := []
  deriving Inhabited

/-- A whole dump: embedded sources, the stage, and the sprites by name (in the order their
names sort, each name once). -/
structure Document where
  files : List FileEntry := []
  stage : SpriteEntry := {}
  sprites : List (String × SpriteEntry) := []
  filesSpare : List FileEntry := []
  deriving Inhabited

/-! ## Item sizes in storage -/

def textSize : Nat := 16
def fileSize : Nat := 32
def varSize : Nat := 48
def listSize : Nat := 72
def enumSize : Nat := 56
def variantSize : Nat := 48
def structSize : Nat := 56
def fieldSize : Nat := 32
def argSize : Nat := 48
def procSize : Nat := 88
def eventSize : Nat := 72
def handlerSize : Nat := 56
def exprSize : Nat := 176
def stmtSize : Nat := 240

example : Storage.grownCapacity stmtSize 8 9 = 17 := by decide
example : Storage.grownCapacity varSize 2 3 = 4 := by decide

end BlockGraph.Dump
