import BlockGraph.Text.Utf8

namespace BlockGraph.Json

inductive Value where
  | null
  | bool (b : Bool)
  | number (literal : String)
  | string (s : String)
  | array (items : List Value)
  | object (members : List (String × Value))
  deriving Inhabited, BEq

def hexDigit (n : Nat) : Char :=
  if n < 10 then Char.ofNat (48 + n) else Char.ofNat (87 + n)

def hex4 (n : Nat) : List Char :=
  [hexDigit (n / 4096 % 16), hexDigit (n / 256 % 16), hexDigit (n / 16 % 16), hexDigit (n % 16)]

def escapeChar (c : Char) : List Char :=
  if c = '"' then ['\\', '"']
  else if c = '\\' then ['\\', '\\']
  else if c = '\n' then ['\\', 'n']
  else if c = '\r' then ['\\', 'r']
  else if c = '\t' then ['\\', 't']
  else if c.toNat = 8 then ['\\', 'b']
  else if c.toNat = 12 then ['\\', 'f']
  else if c.toNat < 0x20 || c = '<' || c = '>' || c = '&' || c.toNat = 0x2028 || c.toNat = 0x2029 then
    '\\' :: 'u' :: hex4 c.toNat
  else [c]

/-- A string literal: the text between quotes, each character escaped by `escapeChar`. -/
def quote (s : String) : String :=
  String.ofList ('"' :: s.toList.flatMap escapeChar ++ ['"'])

/-- How one item of a kept text stands inside a string literal: a byte that is not UTF-8 as the
replacement character. -/
def escapeItem : Utf8.Item → List Char
  | .char c => escapeChar c
  | .byte _ => [Utf8.replacement]

def quoteKept (s : String) : String :=
  String.ofList ('"' :: (Utf8.items s.toList).flatMap escapeItem ++ ['"'])

def quoteAs (kept : Bool) (s : String) : String := if kept then quoteKept s else quote s

def Value.ofInt (n : Int) : Value := .number (toString n)

def Value.ofNat (n : Nat) : Value := .number (toString n)

def Value.ofOption : Option String → Value
  | some s => .string s
  | none => .null

def Value.strings (xs : List String) : Value := .array (xs.map .string)

mutual

/-- The compact text of a value, its strings kept texts when `kept`: no blank between
tokens. -/
def Value.renderAs (kept : Bool) : Value → String
  | .null => "null"
  | .bool true => "true"
  | .bool false => "false"
  | .number lit => lit
  | .string s => quoteAs kept s
  | .array items => "[" ++ renderItemsAs kept items ++ "]"
  | .object members => "\x7b" ++ renderMembersAs kept members ++ "\x7d"

def renderItemsAs (kept : Bool) : List Value → String
  | [] => ""
  | [v] => v.renderAs kept
  | v :: vs => v.renderAs kept ++ "," ++ renderItemsAs kept vs

def renderMembersAs (kept : Bool) : List (String × Value) → String
  | [] => ""
  | [(k, v)] => quoteAs kept k ++ ":" ++ v.renderAs kept
  | (k, v) :: ms => quoteAs kept k ++ ":" ++ v.renderAs kept ++ "," ++ renderMembersAs kept ms

end

def Value.render (v : Value) : String := v.renderAs false

def Value.renderKept (v : Value) : String := v.renderAs true

mutual

/-- The indented text of a value at nesting `depth`, its strings kept texts when `kept`: each
item on a line of its own, indented by `unit` once per level; an empty array or object stays
`[]` or `{}`. -/
def Value.renderIndented (kept : Bool) (unit : String) (depth : Nat) : Value → String
  | .array [] => "[]"
  | .object [] => "\x7b\x7d"
  | .array items =>
    "[\n" ++ indentedItems kept unit (depth + 1) items ++ "\n" ++ String.join (List.replicate depth unit) ++ "]"
  | .object members =>
    "\x7b\n" ++ indentedMembers kept unit (depth + 1) members ++ "\n" ++
      String.join (List.replicate depth unit) ++ "\x7d"
  | v => v.renderAs kept

def indentedItems (kept : Bool) (unit : String) (depth : Nat) : List Value → String
  | [] => ""
  | [v] => String.join (List.replicate depth unit) ++ v.renderIndented kept unit depth
  | v :: vs =>
    String.join (List.replicate depth unit) ++ v.renderIndented kept unit depth ++ ",\n" ++
      indentedItems kept unit depth vs

def indentedMembers (kept : Bool) (unit : String) (depth : Nat) : List (String × Value) → String
  | [] => ""
  | [(k, v)] =>
    String.join (List.replicate depth unit) ++ quoteAs kept k ++ ": " ++ v.renderIndented kept unit depth
  | (k, v) :: ms =>
    String.join (List.replicate depth unit) ++ quoteAs kept k ++ ": " ++ v.renderIndented kept unit depth ++
      ",\n" ++ indentedMembers kept unit depth ms

end

/-- The text of a value indented by two blanks per level, as reports are written. -/
def Value.pretty (v : Value) : String := v.renderIndented false "  " 0

def Value.prettyKept (v : Value) : String := v.renderIndented true "  " 0

mutual

/-- A value whose strings are kept texts, with every string and key as a reader is shown it. -/
def Value.shownKept : Value → Value
  | .string s => .string (Utf8.shownKept s)
  | .array items => .array (shownItems items)
  | .object members => .object (shownMembers members)
  | v => v

def shownItems : List Value → List Value
  | [] => []
  | v :: vs => v.shownKept :: shownItems vs

def shownMembers : List (String × Value) → List (String × Value)
  | [] => []
  | (k, v) :: ms => (Utf8.shownKept k, v.shownKept) :: shownMembers ms

end

def Value.get? (v : Value) (k : String) : Option Value :=
  match v with
  | .object members => (members.reverse.find? (·.1 == k)).map (·.2)
  | _ => none

end BlockGraph.Json
