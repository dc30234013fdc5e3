import BlockGraph.Text.Case
import BlockGraph.Json.Raw
import BlockGraph.Decimal.Shortest
import BlockGraph.Decimal.Read
import BlockGraph.Storage

namespace BlockGraph.Inspect

open Json

structure Node where
  id : String
  opcode : String := ""
  next : Option String := none
  parent : Option String := none
  inputs : List (String × String) := []
  fields : List (String × String) := []
  mutation : String := ""
  shadow : Bool := false
  topLevel : Bool := false
  deriving Inhabited

/-- One stage or sprite. Maps that were never given, or given as `null`, are `none`. -/
structure Target where
  isStage : Bool := false
  name : String := ""
  vars : Option (List (String × String)) := none
  lists : Option (List (String × String)) := none
  broadcasts : Option (List (String × String)) := none
  blocksText : Option (List UInt8) := none
  blocks : List Node := []
  deriving Inhabited

structure Graph where
  targets : List Target := []
  deriving Inhabited

/-- Why a text is not a readable graph. The words of the JSON layer's own complaint are not
modelled: `message` takes them from its caller. -/
inductive ReadFault where
  | malformed
  | noBlocks (target : String)
  | badKey (target token : String)
  | badNumber (target : String)
  | badBlock (target id : String)
  | absentTarget
  deriving Inhabited

def ReadFault.message (json : String) : ReadFault → String
  | .malformed => "decode graph: " ++ json
  | .noBlocks t => "target " ++ t ++ ": EOF"
  | .badKey t k => "target " ++ t ++ ": block key " ++ k ++ " is not a string"
  | .badNumber t => "target " ++ t ++ ": " ++ json
  | .badBlock t id => "target " ++ t ++ ": block " ++ id ++ ": " ++ json
  | .absentTarget => "runtime error: invalid memory address or nil pointer dereference"

def textOf (raw : List UInt8) : String := String.ofList (Utf8.decode raw)

def valueOf (raw : List UInt8) : Value := (readAll raw).toOption.getD .null

def isNullText (raw : List UInt8) : Bool :=
  match valueOf raw with
  | .null => true
  | _ => false

def readRawMap (cur : Option (List (String × String))) (raw : List UInt8) :
    Option (Option (List (String × String))) :=
  match rawMembers raw with
  | some ms => some (some (ms.foldl (fun m (k, v) => m.filter (·.1 != k) ++ [(k, textOf v)]) (cur.getD [])))
  | none => if isNullText raw then some none else none

/-- A map of texts: an object of strings merges into it (`null` values giving the empty text),
`null` unsets it. -/
def readTextMap (cur : Option (List (String × String))) (raw : List UInt8) :
    Option (Option (List (String × String))) :=
  match valueOf raw with
  | .null => some none
  | .object ms =>
    let put (m : List (String × String)) (kv : String × Value) : Option (List (String × String)) :=
      match kv.2 with
      | .string s => some (m.filter (·.1 != kv.1) ++ [(kv.1, s)])
      | .null => some (m.filter (·.1 != kv.1) ++ [(kv.1, "")])
      | _ => none
    (ms.foldlM put (cur.getD [])).map some
  | _ => none

def readTextField (cur : String) (raw : List UInt8) : Option String :=
  match valueOf raw with
  | .null => some cur
  | .string s => some s
  | _ => none

def readFlagField (cur : Bool) (raw : List UInt8) : Option Bool :=
  match valueOf raw with
  | .null => some cur
  | .bool b => some b
  | _ => none

def readRef (raw : List UInt8) : Option (Option String) :=
  match valueOf raw with
  | .null => some none
  | .string s => some (some s)
  | _ => none

def Node.setMember (n : Node) (key : String) (raw : List UInt8) : Option Node :=
  match Text.foldKey key with
  | "OPCODE" => (readTextField n.opcode raw).map fun opcode => { n with opcode }
  | "NEXT" => (readRef raw).map fun next => { n with next }
  | "PARENT" => (readRef raw).map fun parent => { n with parent }
  | "INPUTS" => (readRawMap (some n.inputs) raw).map fun m => { n with inputs := m.getD [] }
  | "FIELDS" => (readRawMap (some n.fields) raw).map fun m => { n with fields := m.getD [] }
  | "MUTATION" => some { n with mutation := textOf raw }
  | "SHADOW" => (readFlagField n.shadow raw).map fun shadow => { n with shadow }
  | "TOPLEVEL" => (readFlagField n.topLevel raw).map fun topLevel => { n with topLevel }
  | _ => some n

def Node.read (id : String) (raw : List UInt8) : Option Node :=
  match rawMembers raw with
  | some ms => ms.foldlM (fun n (k, v) => n.setMember k v) { id }
  | none => if isNullText raw then some { id } else none

def tokenText (raw : List UInt8) : Option String :=
  match valueOf raw with
  | .number lit => (Decimal.parseFloat? lit).map Decimal.formatGeneral
  | .bool b => some (if b then "true" else "false")
  | .null => some "<nil>"
  | .array _ => some "["
  | .object _ => some "\x7b"
  | .string s => some s

def blocksFromItems (target : String) : List (List UInt8) → Except ReadFault (List Node)
  | [] => .ok []
  | key :: rest =>
    match valueOf key with
    | .string id =>
      match rest with
      | [] => .error (.badBlock target id)
      | raw :: more =>
        match Node.read id raw with
        | none => .error (.badBlock target id)
        | some n => do
          let ns ← blocksFromItems target more
          return n :: ns
    | _ =>
      match tokenText key with
      | some k => .error (.badKey target k)
      | none => .error (.badNumber target)

def readBlocks (target : String) : Option (List UInt8) → Except ReadFault (List Node)
  | none => .error (.noBlocks target)
  | some raw =>
    match rawMembers raw with
    | some ms =>
      ms.mapM fun (id, v) =>
        match Node.read id v with
        | some n => .ok n
        | none => .error (.badBlock target id)
    | none =>
      match rawItems raw with
      | some items => blocksFromItems target items
      | none => .ok []

def Target.setMember (t : Target) (key : String) (raw : List UInt8) : Option Target :=
  match Text.foldKey key with
  | "ISSTAGE" => (readFlagField t.isStage raw).map fun isStage => { t with isStage }
  | "NAME" => (readTextField t.name raw).map fun name => { t with name }
  | "VARIABLES" => (readRawMap t.vars raw).map fun vars => { t with vars }
  | "LISTS" => (readRawMap t.lists raw).map fun lists => { t with lists }
  | "BROADCASTS" => (readTextMap t.broadcasts raw).map fun broadcasts => { t with broadcasts }
  | "BLOCKS" => some { t with blocksText := some raw }
  | _ => some t

def Target.read (cur : Target) (raw : List UInt8) : Option Target :=
  (rawMembers raw).bind fun ms => ms.foldlM (fun t (k, v) => t.setMember k v) cur

/-- A place of the target list read from a text: `null` empties it, an object is laid over
the target there or over an empty one. -/
def readPlace (cur : Option Target) (raw : List UInt8) : Option (Option Target) :=
  if isNullText raw then some none else (Target.read (cur.getD {}) raw).map some

def layTargets (store : List (Option Target)) (i : Nat) : List (List UInt8) →
    Option (List (Option Target))
  | [] => some store
  | raw :: rest => do
    let store := Storage.reach Storage.refSize none store i
    let t ← readPlace (store.getD i none) raw
    layTargets (store.set i t) (i + 1) rest

/-- The targets member laid over the target list, given as its places and spare storage: an
array is laid over the storage, `null` and the empty array leave it empty. -/
def readTargets (places spare : List (Option Target)) (raw : List UInt8) :
    Option (List (Option Target) × List (Option Target)) :=
  match rawItems raw with
  | some [] => some ([], [])
  | some items => do
    let store ← layTargets (places ++ spare) 0 items
    return (store.take items.length, store.drop items.length)
  | none => if isNullText raw then some ([], []) else none

def readShape (data : List UInt8) : Option (List (Option Target)) :=
  match readAll data with
  | .error _ => none
  | .ok .null => some []
  | .ok (.object _) =>
    match rawMembers (skipBlanks data) with
    | some ms =>
      let step (acc : List (Option Target) × List (Option Target)) (kv : String × List UInt8) :=
        if Text.foldKey kv.1 = "TARGETS" then readTargets acc.1 acc.2 kv.2 else some acc
      (ms.foldlM step ([], [])).map (·.1)
    | none => none
  | .ok _ => none

def Graph.read (data : List UInt8) : Except ReadFault Graph := do
  let some places := readShape data | throw .malformed
  let targets ← places.mapM fun
    | some t => do
      let blocks ← readBlocks t.name t.blocksText
      return { t with blocks }
    | none => throw .absentTarget
  return { targets }

def Target.opcodes (t : Target) : List String := t.blocks.map (·.opcode)

def Graph.node? (g : Graph) (id : String) : Option Node :=
  g.targets.findSome? fun t => t.blocks.find? (·.id == id)

def Graph.target? (g : Graph) (name : String) : Option Target := g.targets.find? (·.name == name)

/-- Why an input's text names no children. -/
inductive InputFault where
  | unreadable
  | tooShort
  deriving Inhabited

/-- The ids an input's text refers to: the items after the first that are strings, `null`
standing for the empty id. -/
def inputChildren (raw : String) : Except InputFault (List String) :=
  match (readAll (Utf8.encode raw)).toOption with
  | some (.array items) =>
    if items.length < 2 then .error .tooShort
    else .ok (items.drop 1 |>.filterMap fun
      | .string s => some s
      | .null => some ""
      | _ => none)
  | some .null => .error .tooShort
  | _ => .error .unreadable

def Node.children (n : Node) : Except (String × InputFault) (List String) :=
  let add (acc : List String) (input : String × String) : Except (String × InputFault) (List String) :=
    match inputChildren input.2 with
    | .ok ids => .ok (acc ++ ids)
    | .error f => .error (input.1, f)
  n.inputs.foldlM add []

end BlockGraph.Inspect
