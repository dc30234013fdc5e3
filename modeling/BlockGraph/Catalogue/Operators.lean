
namespace BlockGraph

inductive BinOp where
  | add | sub | mul | div | mod | lt | gt | eq | and | or | join | contains | letterOf
  | le | ge | ne | floorDiv
  deriving BEq, DecidableEq, Inhabited, Repr

namespace BinOp

def all : List BinOp :=
  [add, sub, mul, div, mod, lt, gt, eq, and, or, join, contains, letterOf, le, ge, ne, floorDiv]

def index : BinOp → Nat
  | add => 1 | sub => 2 | mul => 3 | div => 4 | mod => 5 | lt => 6 | gt => 7 | eq => 8
  | and => 9 | or => 10 | join => 11 | contains => 12 | letterOf => 13 | le => 14 | ge => 15
  | ne => 16 | floorDiv => 17

def symbol : BinOp → String
  | add => "+" | sub => "-" | mul => "*" | div => "/" | mod => "%" | lt => "<" | gt => ">"
  | eq => "==" | and => "and" | or => "or" | join => "&" | contains => "in" | letterOf => "[]"
  | le => "<=" | ge => ">=" | ne => "!=" | floorDiv => "//"

/-- The opcode of the block that computes the operator; empty for a rewritten one. -/
def opcode : BinOp → String
  | add => "operator_add" | sub => "operator_subtract" | mul => "operator_multiply"
  | div => "operator_divide" | mod => "operator_mod" | lt => "operator_lt" | gt => "operator_gt"
  | eq => "operator_equals" | and => "operator_and" | or => "operator_or"
  | join => "operator_join" | contains => "operator_contains" | letterOf => "operator_letter_of"
  | _ => ""

def lhsInput : BinOp → String
  | add | sub | mul | div | mod => "NUM1"
  | lt | gt | eq | and | or => "OPERAND1"
  | join => "STRING1"
  | contains => "STRING2"
  | letterOf => "STRING"
  | _ => ""

def rhsInput : BinOp → String
  | add | sub | mul | div | mod => "NUM2"
  | lt | gt | eq | and | or => "OPERAND2"
  | join => "STRING2"
  | contains => "STRING1"
  | letterOf => "LETTER"
  | _ => ""

def isBoolean : BinOp → Bool
  | and | or => true
  | _ => false

/-- Whether the operator is rewritten into others before blocks are written. -/
def isSugar : BinOp → Bool
  | le | ge | ne | floorDiv => true
  | _ => false

def parse? (s : String) : Option BinOp := all.find? (·.symbol == s)

end BinOp

/-- A unary operator. The mathematical functions share one block, `operator_mathop`, told
apart by its `OPERATOR` field. -/
inductive UnOp where
  | not | neg | length | round | abs | floor | ceil | sqrt | sin | cos | tan | asin | acos
  | atan | ln | log | antiln | antilog
  deriving BEq, DecidableEq, Inhabited, Repr

namespace UnOp

def all : List UnOp :=
  [not, neg, length, round, abs, floor, ceil, sqrt, sin, cos, tan, asin, acos, atan, ln, log,
    antiln, antilog]

def index : UnOp → Nat
  | not => 1 | neg => 2 | length => 3 | round => 4 | abs => 5 | floor => 6 | ceil => 7
  | sqrt => 8 | sin => 9 | cos => 10 | tan => 11 | asin => 12 | acos => 13 | atan => 14
  | ln => 15 | log => 16 | antiln => 17 | antilog => 18

def symbol : UnOp → String
  | not => "not" | neg => "-" | length => "length" | round => "round" | abs => "abs"
  | floor => "floor" | ceil => "ceil" | sqrt => "sqrt" | sin => "sin" | cos => "cos"
  | tan => "tan" | asin => "asin" | acos => "acos" | atan => "atan" | ln => "ln" | log => "log"
  | antiln => "antiln" | antilog => "antilog"

def mathName? : UnOp → Option String
  | abs => some "abs" | floor => some "floor" | ceil => some "ceiling" | sqrt => some "sqrt"
  | sin => some "sin" | cos => some "cos" | tan => some "tan" | asin => some "asin"
  | acos => some "acos" | atan => some "atan" | ln => some "ln" | log => some "log"
  | antiln => some "e ^" | antilog => some "10 ^"
  | _ => none

/-- The opcode of the block that computes the operator; empty for unary minus. -/
def opcode (op : UnOp) : String :=
  match op with
  | not => "operator_not"
  | neg => ""
  | length => "operator_length"
  | round => "operator_round"
  | _ => "operator_mathop"

def input (op : UnOp) : String :=
  match op with
  | not => "OPERAND"
  | neg => ""
  | length => "STRING"
  | _ => "NUM"

/-- The fixed fields object of the block, written verbatim; empty when it has none. -/
def fields (op : UnOp) : String :=
  match op.mathName? with
  | some n => "\x7b\"OPERATOR\":[\"" ++ n ++ "\",null]\x7d"
  | none => ""

def isBoolean : UnOp → Bool
  | not => true
  | _ => false

def isSugar : UnOp → Bool
  | neg => true
  | _ => false

def parse? (s : String) : Option UnOp := all.find? (·.symbol == s)

end UnOp

end BlockGraph
