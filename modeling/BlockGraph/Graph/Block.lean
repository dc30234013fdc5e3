import BlockGraph.Graph.Writer
import BlockGraph.Json.Value
import BlockGraph.Program.Names

namespace BlockGraph.Graph

/-- A value inside an input: a block, or a literal such as `[4,"10"]`. -/
inductive InputValue where
  | block (id : Nat)
  | literal (text : String)
  deriving BEq, Inhabited, Repr

structure Input where
  name : String
  kind : Nat
  value : InputValue
  shadow : Option InputValue := none
  deriving BEq, Inhabited, Repr

structure Block where
  id : Nat
  opcode : String
  next : Nat := 0
  parent : Nat := 0
  shadow : Bool := false
  topLevel : Bool := false
  y : Nat := 0
  inputs : List Input := []
  packedInputs : Bool := false
  fields : String := "\x7b\x7d"
  mutation : String := ""
  deriving Inhabited, Repr

def nodeId (n : Nat) : UInt32 := UInt32.ofNat n

def idJson (id : UInt32) : String := if id = 0 then "null" else "\"" ++ toString id.toNat ++ "\""

def idText (n : Nat) : String := idJson (nodeId n)

example : idText 7 = "\"7\"" ∧ idText 0 = "null" ∧ idText 4294967296 = "null" ∧
    idText 4294967303 = "\"7\"" := by
  decide

def emptyShadow : String := "[10,\"\"]"

def InputValue.render : InputValue → String
  | .block id => idText id
  | .literal t => t

def Input.render (i : Input) : String :=
  Json.quoteKept i.name ++ ":[" ++ toString i.kind ++ "," ++ i.value.render ++
    (match i.shadow with | some s => "," ++ s.render | none => "") ++ "],"

def flagText (b : Bool) : String := if b then "true" else "false"

def Writer.block (w : Writer) (b : Block) : Writer :=
  let w := w.str (idText b.id ++ ":\x7b\"opcode\":" ++ Json.quoteKept b.opcode ++ ",\"next\":" ++
    idText b.next ++ ",\"parent\":" ++ idText b.parent ++ ",\"shadow\":" ++ flagText b.shadow ++
    ",\"topLevel\":" ++ flagText b.topLevel ++ ",")
  let w := if b.topLevel then w.str ("\"x\":0,\"y\":" ++ toString b.y ++ ",") else w
  let w := if b.packedInputs then
      w.str ("\"inputs\":\x7b" ++ String.join (b.inputs.map fun i => (i.render.dropEnd 1).toString) ++ "\x7d,")
    else
      (b.inputs.foldl (fun w i => w.str i.render) (w.str "\"inputs\":\x7b")).close "\x7d"
  let w := w.str ("\"fields\":" ++ b.fields ++ ",")
  let w := if b.mutation = "" then w else w.str ("\"mutation\":" ++ b.mutation ++ ",")
  w.close "\x7d"

def fieldValue (name value : String) : String :=
  "\x7b" ++ Json.quoteKept name ++ ":[" ++ Json.quoteKept value ++ ",null]\x7d"

/-- A fields object `{"NAME":["value","value"]}` naming a variable, list or message by its id,
which is its qualified name. -/
def fieldRef (name value : String) : String :=
  "\x7b" ++ Json.quoteKept name ++ ":[" ++ Json.quoteKept value ++ "," ++ Json.quoteKept value ++ "]\x7d"

/-- A list of kept texts as a JSON array, itself written as a JSON string, as procedure
mutations carry their argument lists; the array's text is plain. -/
def jsonList (values : List String) : String := Json.quote (Json.Value.strings values).renderKept

end BlockGraph.Graph
