import BlockGraph.Text.Utf8
import BlockGraph.Json.Value

namespace BlockGraph.Json

inductive ReadError where
  | unexpectedEnd
  | unexpected (b : UInt8)
  | tooDeep
  deriving BEq, Inhabited

def maxDepth : Nat := 10000

def isBlank (b : UInt8) : Bool := b == 0x20 || b == 0x09 || b == 0x0A || b == 0x0D

def skipBlanks : List UInt8 → List UInt8
  | [] => []
  | b :: bs => if isBlank b then skipBlanks bs else b :: bs

def isDigit (b : UInt8) : Bool := 0x30 ≤ b && b ≤ 0x39

def hexValue? (b : UInt8) : Option Nat :=
  if 0x30 ≤ b ∧ b ≤ 0x39 then some (b.toNat - 0x30)
  else if 0x61 ≤ b ∧ b ≤ 0x66 then some (b.toNat - 0x61 + 10)
  else if 0x41 ≤ b ∧ b ≤ 0x46 then some (b.toNat - 0x41 + 10)
  else none

def unit4? : List UInt8 → Option Nat
  | a :: b :: c :: d :: _ => do
    let a ← hexValue? a
    let b ← hexValue? b
    let c ← hexValue? c
    let d ← hexValue? d
    pure (((a * 16 + b) * 16 + c) * 16 + d)
  | _ => none

def digits (bs : List UInt8) : List UInt8 × List UInt8 :=
  (bs.takeWhile isDigit, bs.dropWhile isDigit)

def readNumber (bs : List UInt8) : Except ReadError (List UInt8 × List UInt8) := do
  let (sign, r0) := match bs with
    | 0x2D :: r => ([(0x2D : UInt8)], r)
    | r => ([], r)
  let (intPart, r1) ← match r0 with
    | 0x30 :: r => pure ([(0x30 : UInt8)], r)
    | b :: r =>
      if isDigit b then pure (b :: (digits r).1, (digits r).2)
      else throw (.unexpected b)
    | [] => throw .unexpectedEnd
  let (frac, r2) ← match r1 with
    | 0x2E :: r =>
      match digits r with
      | ([], b :: _) => throw (.unexpected b)
      | ([], []) => throw .unexpectedEnd
      | (ds, rest) => pure ((0x2E : UInt8) :: ds, rest)
    | r => pure ([], r)
  let (expo, r3) ← match r2 with
    | e :: r =>
      if e == 0x65 || e == 0x45 then
        let (sgn, r') := match r with
          | 0x2B :: r' => ([(0x2B : UInt8)], r')
          | 0x2D :: r' => ([(0x2D : UInt8)], r')
          | r' => ([], r')
        match digits r' with
        | ([], b :: _) => throw (.unexpected b)
        | ([], []) => throw .unexpectedEnd
        | (ds, rest) => pure (e :: sgn ++ ds, rest)
      else pure ([], e :: r)
    | [] => pure ([], [])
  pure (sign ++ intPart ++ frac ++ expo, r3)

/-- The characters of a string body up to its closing quote, and the bytes after the quote.
`raw` gathers the bytes since the last escape (latest first), which are decoded together, and
`acc` the characters before them (latest first). -/
def readStringBody : Nat → List UInt8 → List UInt8 → List Char → Except ReadError (String × List UInt8)
  | 0, _, _, _ => throw .unexpectedEnd
  | _ + 1, [], _, _ => throw .unexpectedEnd
  | fuel + 1, b :: bs, raw, acc =>
    if b == 0x22 then
      pure (String.ofList (acc.reverse ++ Utf8.decode raw.reverse), bs)
    else if b < 0x20 then throw (.unexpected b)
    else if b == 0x5C then
      let acc := (Utf8.decode raw.reverse).reverse ++ acc
      match bs with
      | [] => throw .unexpectedEnd
      | e :: rest =>
        let simple : Option Char :=
          if e == 0x22 then some '"' else if e == 0x5C then some '\\'
          else if e == 0x2F then some '/' else if e == 0x62 then some (Char.ofNat 8)
          else if e == 0x66 then some (Char.ofNat 12) else if e == 0x6E then some '\n'
          else if e == 0x72 then some '\r' else if e == 0x74 then some '\t' else none
        match simple with
        | some c => readStringBody fuel rest [] (c :: acc)
        | none =>
          if e != 0x75 then throw (.unexpected e)
          else match unit4? rest with
            | none =>
              match (rest.take 4).find? (fun d => (hexValue? d).isNone) with
              | some d => throw (.unexpected d)
              | none => throw .unexpectedEnd
            | some u =>
              let rest := rest.drop 4
              if 0xD800 ≤ u ∧ u < 0xDC00 then
                match rest with
                | 0x5C :: 0x75 :: more =>
                  match unit4? more with
                  | some v =>
                    if 0xDC00 ≤ v ∧ v < 0xE000 then
                      let c := Char.ofNat (0x10000 + (u - 0xD800) * 1024 + (v - 0xDC00))
                      readStringBody fuel (more.drop 4) [] (c :: acc)
                    else readStringBody fuel rest [] (Utf8.replacement :: acc)
                  | none => readStringBody fuel rest [] (Utf8.replacement :: acc)
                | _ => readStringBody fuel rest [] (Utf8.replacement :: acc)
              else if 0xDC00 ≤ u ∧ u < 0xE000 then
                readStringBody fuel rest [] (Utf8.replacement :: acc)
              else readStringBody fuel rest [] (Char.ofNat u :: acc)
    else readStringBody fuel bs (b :: raw) acc

def readString (bs : List UInt8) : Except ReadError (String × List UInt8) :=
  readStringBody (bs.length + 1) bs [] []

def expectWord (word : List UInt8) (bs : List UInt8) : Except ReadError (List UInt8) :=
  match word, bs with
  | [], rest => pure rest
  | _ :: _, [] => throw .unexpectedEnd
  | w :: ws, b :: rest => if w == b then expectWord ws rest else throw (.unexpected b)

mutual

def readValue : Nat → Nat → List UInt8 → Except ReadError (Value × List UInt8)
  | 0, _, _ => throw .unexpectedEnd
  | fuel + 1, depth, bs =>
    match skipBlanks bs with
    | [] => throw .unexpectedEnd
    | b :: rest =>
      if b == 0x7B then
        if depth + 1 > maxDepth then throw .tooDeep
        else match skipBlanks rest with
          | 0x7D :: after => pure (.object [], after)
          | _ => readMembers fuel (depth + 1) rest []
      else if b == 0x5B then
        if depth + 1 > maxDepth then throw .tooDeep
        else match skipBlanks rest with
          | 0x5D :: after => pure (.array [], after)
          | _ => readItems fuel (depth + 1) rest []
      else if b == 0x22 then do
        let (s, after) ← readString rest
        pure (.string s, after)
      else if b == 0x74 then do
        pure (.bool true, ← expectWord [0x72, 0x75, 0x65] rest)
      else if b == 0x66 then do
        pure (.bool false, ← expectWord [0x61, 0x6C, 0x73, 0x65] rest)
      else if b == 0x6E then do
        pure (.null, ← expectWord [0x75, 0x6C, 0x6C] rest)
      else if b == 0x2D || isDigit b then do
        let (lit, after) ← readNumber (b :: rest)
        pure (.number (String.ofList (Utf8.decode lit)), after)
      else throw (.unexpected b)

/-- The items of an array after its opening bracket, the first one still to come; `acc` holds
those read (latest first). -/
def readItems : Nat → Nat → List UInt8 → List Value → Except ReadError (Value × List UInt8)
  | 0, _, _, _ => throw .unexpectedEnd
  | fuel + 1, depth, bs, acc => do
    let (v, after) ← readValue fuel depth bs
    match skipBlanks after with
    | 0x2C :: more => readItems fuel depth more (v :: acc)
    | 0x5D :: more => pure (.array (v :: acc).reverse, more)
    | b :: _ => throw (.unexpected b)
    | [] => throw .unexpectedEnd

/-- The members of an object after its opening brace, the first one still to come; `acc`
holds those read (latest first). -/
def readMembers : Nat → Nat → List UInt8 → List (String × Value) →
    Except ReadError (Value × List UInt8)
  | 0, _, _, _ => throw .unexpectedEnd
  | fuel + 1, depth, bs, acc =>
    match skipBlanks bs with
    | 0x22 :: rest => do
      let (k, after) ← readString rest
      match skipBlanks after with
      | 0x3A :: more => do
        let (v, after) ← readValue fuel depth more
        match skipBlanks after with
        | 0x2C :: more => readMembers fuel depth more ((k, v) :: acc)
        | 0x7D :: more => pure (.object ((k, v) :: acc).reverse, more)
        | b :: _ => throw (.unexpected b)
        | [] => throw .unexpectedEnd
      | b :: _ => throw (.unexpected b)
      | [] => throw .unexpectedEnd
    | b :: _ => throw (.unexpected b)
    | [] => throw .unexpectedEnd

end

/-- The first value in the bytes and the bytes after it; what follows the value is not read. -/
def readFirst (bs : List UInt8) : Except ReadError (Value × List UInt8) :=
  readValue (2 * bs.length + 2) 0 bs

def readAll (bs : List UInt8) : Except ReadError Value := do
  let (v, rest) ← readFirst bs
  match skipBlanks rest with
  | [] => pure v
  | b :: _ => throw (.unexpected b)

def Value.parse (s : String) : Except ReadError Value := readAll (Utf8.encode s)

end BlockGraph.Json
