import BlockGraph.Json.Read

namespace BlockGraph.Json

def readRaw (bs : List UInt8) : Except ReadError (List UInt8 × List UInt8) := do
  let s := skipBlanks bs
  let (_, rest) ← readFirst s
  return (s.take (s.length - rest.length), rest)

/-- Object members after the opening brace, each key decoded and each value as its text; `acc`
holds those read, latest first. -/
def rawMembersFrom : Nat → List UInt8 → List (String × List UInt8) →
    Option (List (String × List UInt8))
  | 0, _, _ => none
  | fuel + 1, bs, acc =>
    match skipBlanks bs with
    | 0x22 :: rest =>
      match readString rest with
      | .error _ => none
      | .ok (k, after) =>
        match skipBlanks after with
        | 0x3A :: more =>
          match readRaw more with
          | .error _ => none
          | .ok (v, after) =>
            match skipBlanks after with
            | 0x2C :: more => rawMembersFrom fuel more ((k, v) :: acc)
            | 0x7D :: _ => some ((k, v) :: acc).reverse
            | _ => none
        | _ => none
    | _ => none

def rawMembers (text : List UInt8) : Option (List (String × List UInt8)) :=
  match skipBlanks text with
  | 0x7B :: rest =>
    match skipBlanks rest with
    | 0x7D :: _ => some []
    | _ => rawMembersFrom rest.length rest []
  | _ => none

def rawItemsFrom : Nat → List UInt8 → List (List UInt8) → Option (List (List UInt8))
  | 0, _, _ => none
  | fuel + 1, bs, acc =>
    match readRaw bs with
    | .error _ => none
    | .ok (v, after) =>
      match skipBlanks after with
      | 0x2C :: more => rawItemsFrom fuel more (v :: acc)
      | 0x5D :: _ => some (v :: acc).reverse
      | _ => none

def rawItems (text : List UInt8) : Option (List (List UInt8)) :=
  match skipBlanks text with
  | 0x5B :: rest =>
    match skipBlanks rest with
    | 0x5D :: _ => some []
    | _ => rawItemsFrom rest.length rest []
  | _ => none

end BlockGraph.Json
