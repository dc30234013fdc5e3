import BlockGraph.Cli.Value

namespace BlockGraph.Cli

inductive FlagValue where
  | truth (b : Bool)
  | integer (n : Int)
  | text (s : String)
  deriving Inhabited, BEq

def FlagValue.render : FlagValue → String
  | .truth b => if b then "true" else "false"
  | .integer n => toString n
  | .text s => s

/-- A flag a command accepts. -/
structure Flag where
  name : String
  short : Option Char := none
  default : FlagValue
  usage : String
  deriving Inhabited

def Flag.isTruth (f : Flag) : Bool :=
  match f.default with
  | .truth _ => true
  | _ => false

/-- How the flag is named in a message: with its short name first when it has one. -/
def Flag.spelled (f : Flag) : String :=
  match f.short with
  | some c => "-" ++ String.singleton c ++ ", --" ++ f.name
  | none => "--" ++ f.name

def quoteRune (c : Char) : String :=
  let body := if c = '\'' then ['\\', '\''] else if c = '"' then ['"'] else Text.quoteChar c
  String.ofList ('\'' :: body ++ ['\''])

def leadByte (c : Char) : Char :=
  match String.utf8EncodeChar c with
  | b :: _ => Char.ofNat b.toNat
  | [] => c

def Flag.read (f : Flag) (text : String) : Except String FlagValue :=
  let invalid (why : String) : String :=
    "invalid argument " ++ Text.quote text ++ " for " ++ Text.quote f.spelled ++ " flag: " ++ why
  match f.default with
  | .truth _ =>
    match readTruth text with
    | some b => .ok (.truth b)
    | none => .error (invalid (NumberFault.malformed.describe "ParseBool" text))
  | .integer _ =>
    match readInteger text with
    | .ok n => .ok (.integer n)
    | .error e => .error (invalid (e.describe "ParseInt" text))
  | .text _ => .ok (.text text)

/-- The flags and arguments of a command line. -/
structure Reading where
  given : List (String × FlagValue) := []
  args : List String := []
  deriving Inhabited

def Reading.set (r : Reading) (name : String) (v : FlagValue) : Reading :=
  if r.given.any (·.1 == name) then
    { r with given := r.given.map fun (k, w) => if k = name then (k, v) else (k, w) }
  else { r with given := r.given ++ [(name, v)] }

def Reading.changed (r : Reading) (name : String) : Bool := r.given.any (·.1 == name)

def Reading.value (r : Reading) (flags : List Flag) (name : String) : FlagValue :=
  match r.given.find? (·.1 == name) with
  | some (_, v) => v
  | none => ((flags.find? (·.name == name)).map (·.default)).getD (.text "")

def Reading.text (r : Reading) (flags : List Flag) (name : String) : String :=
  match r.value flags name with
  | .text s => s
  | v => v.render

def Reading.integer (r : Reading) (flags : List Flag) (name : String) : Int :=
  match r.value flags name with
  | .integer n => n
  | _ => 0

def Reading.truth (r : Reading) (flags : List Flag) (name : String) : Bool :=
  match r.value flags name with
  | .truth b => b
  | _ => false

def Reading.assign (r : Reading) (f : Flag) (text : String) : Except String Reading := do
  return r.set f.name (← f.read text)

def readLong (flags : List Flag) (word : String) (rest : List String) (r : Reading) :
    Except String (Reading × List String) := do
  let body := (word.drop 2).toString
  if body.isEmpty || body.startsWith "-" || body.startsWith "=" then throw ("bad flag syntax: " ++ word)
  let (name, value?) := match body.splitOn "=" with
    | [n] => (n, none)
    | n :: vs => (n, some ("=".intercalate vs))
    | [] => (body, none)
  let some f := flags.find? (·.name == name) | throw ("unknown flag: --" ++ name)
  match value? with
  | some v => return (← r.assign f v, rest)
  | none =>
    if f.isTruth then return (← r.assign f "true", rest)
    else
      match rest with
      | v :: more => return (← r.assign f v, more)
      | [] => throw ("flag needs an argument: " ++ word)

/-- A group of short flags `-abc`, `-c=value` or `-cvalue`: the reading and the words left.
A group that starts `test.` is passed over. -/
def readShort (flags : List Flag) (group : List Char) (rest : List String) (r : Reading) :
    Except String (Reading × List String) :=
  let rec go : List Char → Reading → List String → Except String (Reading × List String)
    | [], r, left => .ok (r, left)
    | cs@(c :: more), r, left =>
      if (String.ofList cs).startsWith "test." then .ok (r, left)
      else
        match flags.find? (·.short == some c) with
        | none => .error ("unknown shorthand flag: " ++ quoteRune (leadByte c) ++ " in -" ++ String.ofList cs)
        | some f =>
          match more with
          | '=' :: v@(_ :: _) => do return (← r.assign f (String.ofList v), left)
          | _ =>
            if f.isTruth then do go more (← r.assign f "true") left
            else if !more.isEmpty then do return (← r.assign f (String.ofList more), left)
            else
              match rest with
              | v :: after => do return (← r.assign f v, after)
              | [] => .error ("flag needs an argument: " ++ quoteRune (leadByte c) ++ " in -" ++ String.ofList cs)
  go group r rest

def readFlags (flags : List Flag) (words : List String) : Except String Reading :=
  let rec go : Nat → List String → Reading → Except String Reading
    | 0, _, r => .ok r
    | _, [], r => .ok r
    | fuel + 1, w :: ws, r =>
      if w.length ≤ 1 || !w.startsWith "-" then go fuel ws { r with args := r.args ++ [w] }
      else if w = "--" then .ok { r with args := r.args ++ ws }
      else if w.startsWith "--" then do
        let (r, ws) ← readLong flags w ws r
        go fuel ws r
      else do
        let (r, ws) ← readShort flags (w.toList.drop 1) ws r
        go fuel ws r
  go (words.length + 1) words {}

end BlockGraph.Cli
