import BlockGraph.Inspect.Graph

namespace BlockGraph.Inspect

/-- A broken rule of a block graph, or a text that is no graph. -/
inductive Violation where
  | unreadable (f : ReadFault)
  | duplicate (id : String)
  | badInput (block slot : String) (f : InputFault)
  | missing (block opcode child : String)
  | strayChild (child opcode block : String) (parent : Option String)
  | orphan (block opcode : String)
  | missingParent (block opcode parent : String)
  | beforeParent (block opcode parent : String)
  deriving Inhabited

def Violation.message (json : String) : Violation → String
  | .unreadable f => f.message json
  | .duplicate id => "duplicate block id " ++ id
  | .badInput b s .unreadable => "block " ++ b ++ " input " ++ s ++ ": " ++ json
  | .badInput b s .tooShort => "block " ++ b ++ " input " ++ s ++ ": too short"
  | .missing b op c => "block " ++ b ++ " (" ++ op ++ ") references missing block " ++ c
  | .strayChild c op b p =>
    "block " ++ c ++ " (" ++ op ++ ") is referenced by " ++ b ++ " but has parent " ++ p.getD "null"
  | .orphan b op => "block " ++ b ++ " (" ++ op ++ ") has no parent and is not top level"
  | .missingParent b op p => "block " ++ b ++ " (" ++ op ++ ") has missing parent " ++ p
  | .beforeParent b op p => "block " ++ b ++ " (" ++ op ++ ") is written before its parent " ++ p

def Graph.nodes (g : Graph) : List Node := g.targets.flatMap (·.blocks)

def firstRepeat : List String → List String → Option String
  | _, [] => none
  | seen, id :: rest => if seen.contains id then some id else firstRepeat (id :: seen) rest

def positionOf (nodes : List Node) (id : String) : Option Nat := nodes.findIdx? (·.id == id)

def blockViolation? (nodes : List Node) (n : Node) : Option Violation :=
  match n.children with
  | .error (slot, f) => some (.badInput n.id slot f)
  | .ok children =>
    let refs := children ++ n.next.toList
    let refViolation := refs.findSome? fun id =>
      match nodes.find? (·.id == id) with
      | none => some (.missing n.id n.opcode id)
      | some child =>
        if child.parent == some n.id then none else some (.strayChild id child.opcode n.id child.parent)
    match refViolation with
    | some v => some v
    | none =>
      match n.parent with
      | none => if n.topLevel then none else some (.orphan n.id n.opcode)
      | some p =>
        match positionOf nodes p, positionOf nodes n.id with
        | none, _ => some (.missingParent n.id n.opcode p)
        | some i, some j => if i > j then some (.beforeParent n.id n.opcode p) else none
        | some _, none => none

def Graph.violation? (g : Graph) : Option Violation :=
  let nodes := g.nodes
  match firstRepeat [] (nodes.map (·.id)) with
  | some id => some (.duplicate id)
  | none => nodes.findSome? (blockViolation? nodes)

/-- The first broken rule of a graph text, if any; a text that is no graph breaks them all. -/
def checkGraph (data : List UInt8) : Option Violation :=
  match Graph.read data with
  | .error f => some (.unreadable f)
  | .ok g => g.violation?

end BlockGraph.Inspect
