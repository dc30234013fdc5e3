import BlockGraph.Decimal.Read
/-!
# TOML documents

A reader for TOML documents that builds tables leniently, so that implicit tables may be defined
again, and records every key in the order the document defines it.
-/

namespace BlockGraph.Toml

/-- A value of a document; tables hold their entries in the order they were defined. -/
inductive Node where
  | string (s : String)
  | integer (n : Int)
  | float (text : String)
  | boolean (b : Bool)
  | datetime (text : String)
  | array (items : List Node)
  | table (entries : List (String × Node))
  | tables (items : List (List (String × Node)))
  deriving Inhabited

/-- A value as it is written: a scalar, an array, or an inline table of pairs with dotted
keys, before any of it is put in the tree. -/
inductive Written where
  | scalar (n : Node)
  | array (items : List Written)
  | inline (pairs : List (List String × Written))
  deriving Inhabited

def setEntry (k : String) (v : Node) (es : List (String × Node)) : List (String × Node) :=
  es.map fun (k', v') => if k' = k then (k', v) else (k', v')

/-! ## Characters -/

def isBlank (c : Char) : Bool := c = ' ' || c = '\t'

def isBareChar (c : Char) : Bool :=
  ('A' ≤ c && c ≤ 'Z') || ('a' ≤ c && c ≤ 'z') || ('0' ≤ c && c ≤ '9') || c = '_' || c = '-'

def isControl (c : Char) : Bool := (c.toNat < 0x20 && c ≠ '\t') || c.toNat = 0x7F

def skipBlanks (s : List Char) : List Char := s.dropWhile isBlank

def hexValue (c : Char) : Option Nat :=
  if '0' ≤ c && c ≤ '9' then some (c.toNat - 48)
  else if 'a' ≤ c && c ≤ 'f' then some (c.toNat - 87)
  else if 'A' ≤ c && c ≤ 'F' then some (c.toNat - 55)
  else none

def hexNumber (ds : List Char) : Option Nat :=
  ds.foldlM (fun acc c => (hexValue c).map (acc * 16 + ·)) 0

def scalar? (n : Nat) : Option Char :=
  if n < 0xD800 || (0xDFFF < n && n < 0x110000) then some (Char.ofNat n) else none

def escape : List Char → Option (Char × List Char)
  | 'b' :: rest => some ('\x08', rest)
  | 't' :: rest => some ('\t', rest)
  | 'n' :: rest => some ('\n', rest)
  | 'f' :: rest => some ('\x0c', rest)
  | 'r' :: rest => some ('\r', rest)
  | '"' :: rest => some ('"', rest)
  | '\\' :: rest => some ('\\', rest)
  | 'u' :: rest => do
    let ds := rest.take 4
    if ds.length < 4 then none
    let c ← (hexNumber ds).bind scalar?
    some (c, rest.drop 4)
  | 'U' :: rest => do
    let ds := rest.take 8
    if ds.length < 8 then none
    let c ← (hexNumber ds).bind scalar?
    some (c, rest.drop 8)
  | _ => none

/-! ## Strings

Every reader below takes a fuel argument that bounds its steps; each step takes at least one
character, so fuel of the input's length never runs out. -/

def basicString : Nat → List Char → List Char → Option (String × List Char)
  | 0, _, _ => none
  | _ + 1, _, [] => none
  | _ + 1, acc, '"' :: rest => some (String.ofList acc.reverse, rest)
  | n + 1, acc, '\\' :: rest => do
    let (c, more) ← escape rest
    basicString n (c :: acc) more
  | n + 1, acc, c :: rest => if isControl c then none else basicString n (c :: acc) rest

def literalString (s : List Char) : Option (String × List Char) :=
  let body := s.takeWhile (· ≠ '\'')
  match s.drop body.length with
  | '\'' :: rest => if body.any isControl then none else some (String.ofList body, rest)
  | _ => none

def lineBreak : List Char → Option (List Char)
  | '\n' :: rest => some rest
  | '\r' :: '\n' :: rest => some rest
  | _ => none

def dropLineBreak (s : List Char) : List Char := (lineBreak s).getD s

def skipBlankLines : Nat → List Char → List Char
  | 0, s => s
  | n + 1, c :: rest => if isBlank c then skipBlankLines n rest else
      match lineBreak (c :: rest) with
      | some more => skipBlankLines n more
      | none => c :: rest
  | _ + 1, [] => []

def closingRun (q : Char) (s : List Char) : Option (Nat × List Char) :=
  let run := (s.takeWhile (· = q)).length
  if run < 3 then none else some (run - 3, s.drop run)

/-- A multi-line basic string, after its opening quotes and the line break that may follow
them. A backslash at the end of a line drops the line break and the blanks after it. -/
def multiBasic : Nat → List Char → List Char → Option (String × List Char)
  | 0, _, _ => none
  | _ + 1, _, [] => none
  | n + 1, acc, s@('"' :: rest) =>
    match closingRun '"' s with
    | some (extra, after) =>
      if extra > 2 then none
      else some (String.ofList (acc.reverse ++ List.replicate extra '"'), after)
    | none => multiBasic n ('"' :: acc) rest
  | n + 1, acc, '\\' :: rest =>
    let afterBlanks := skipBlanks rest
    match lineBreak afterBlanks with
    | some _ => multiBasic n acc (skipBlankLines (rest.length + 1) rest)
    | none => do
      let (c, more) ← escape rest
      multiBasic n (c :: acc) more
  | n + 1, acc, s@(c :: rest) =>
    match lineBreak s with
    | some more => multiBasic n ('\n' :: acc) more
    | none => if isControl c then none else multiBasic n (c :: acc) rest

def multiLiteral : Nat → List Char → List Char → Option (String × List Char)
  | 0, _, _ => none
  | _ + 1, _, [] => none
  | n + 1, acc, s@('\'' :: rest) =>
    match closingRun '\'' s with
    | some (extra, after) =>
      if extra > 2 then none
      else some (String.ofList (acc.reverse ++ List.replicate extra '\''), after)
    | none => multiLiteral n ('\'' :: acc) rest
  | n + 1, acc, s@(c :: rest) =>
    match lineBreak s with
    | some more => multiLiteral n ('\n' :: acc) more
    | none => if isControl c then none else multiLiteral n (c :: acc) rest

def stringValue (s : List Char) : Option (String × List Char) :=
  match s with
  | '"' :: '"' :: '"' :: rest => let r := dropLineBreak rest; multiBasic (r.length + 1) [] r
  | '"' :: rest => basicString (rest.length + 1) [] rest
  | '\'' :: '\'' :: '\'' :: rest => let r := dropLineBreak rest; multiLiteral (r.length + 1) [] r
  | '\'' :: rest => literalString rest
  | _ => none

/-! ## Keys -/

def keyPart (s : List Char) : Option (String × List Char) :=
  match s with
  | '"' :: rest => basicString (rest.length + 1) [] rest
  | '\'' :: rest => literalString rest
  | _ =>
    let bare := s.takeWhile isBareChar
    if bare.isEmpty then none else some (String.ofList bare, s.drop bare.length)

def dottedKey : Nat → List Char → Option (List String × List Char)
  | 0, _ => none
  | n + 1, s => do
    let (k, rest) ← keyPart (skipBlanks s)
    match skipBlanks rest with
    | '.' :: more =>
      let (ks, after) ← dottedKey n more
      some (k :: ks, after)
    | _ => some ([k], rest)

/-! ## Scalars -/

def digitsWell (isDigit : Char → Bool) (ds : List Char) : Bool :=
  match ds with
  | [] => false
  | c :: _ =>
    isDigit c && ds.getLast? != some '_' && ds.all (fun c => isDigit c || c = '_') &&
      !(ds.zip ds.tail).any (fun (a, b) => a = '_' && b = '_')

def digitsValue (base : Nat) (ds : List Char) : Nat :=
  ds.foldl (fun acc c => if c = '_' then acc else acc * base + ((hexValue c).getD 0)) 0

def isDecimal (c : Char) : Bool := '0' ≤ c && c ≤ '9'

def integralWell (ds : List Char) : Bool :=
  digitsWell isDecimal ds && (ds.length = 1 || ds.head? != some '0')

def unsign (t : List Char) : List Char × Bool :=
  match t with
  | '+' :: rest => (rest, false)
  | '-' :: rest => (rest, true)
  | _ => (t, false)

def integer? (t : List Char) : Option Int :=
  let inRange (v : Int) : Option Int := if -Int.pow 2 63 ≤ v && v < Int.pow 2 63 then some v else none
  match t with
  | '0' :: 'x' :: ds => if digitsWell (fun c => (hexValue c).isSome) ds then inRange (digitsValue 16 ds) else none
  | '0' :: 'o' :: ds => if digitsWell (fun c => '0' ≤ c && c ≤ '7') ds then inRange (digitsValue 8 ds) else none
  | '0' :: 'b' :: ds => if digitsWell (fun c => c = '0' || c = '1') ds then inRange (digitsValue 2 ds) else none
  | _ =>
    let (ds, negative) := unsign t
    if integralWell ds then
      let v := (digitsValue 10 ds : Int)
      inRange (if negative then -v else v)
    else none

def isFloat (t : List Char) : Bool :=
  let (body, _) := unsign t
  if body = "inf".toList || body = "nan".toList then true
  else
    let intPart := body.takeWhile fun c => c ≠ '.' && c ≠ 'e' && c ≠ 'E'
    let rest := body.drop intPart.length
    let (frac, rest) := match rest with
      | '.' :: more =>
        let f := more.takeWhile fun c => c ≠ 'e' && c ≠ 'E'
        (some f, more.drop f.length)
      | _ => (none, rest)
    let expOk := match rest with
      | [] => some false
      | e :: more => if e = 'e' || e = 'E' then some (digitsWell isDecimal (unsign more).1) else none
    integralWell intPart && (frac.all (digitsWell isDecimal)) &&
      match expOk with
      | some hasExp => frac.isSome || hasExp
      | none => false

/-- Whether a float token stands for a double: `inf` and `nan` do, and a literal does unless its
value rounds past the largest double. -/
def floatFits (t : List Char) : Bool :=
  let body := (unsign t).1
  body = "inf".toList || body = "nan".toList ||
    (Decimal.parseFloat? (String.ofList (t.filter (· ≠ '_')))).isSome

def fixedDigits (n : Nat) (s : List Char) : Option (Nat × List Char) :=
  let ds := s.take n
  if ds.length = n && ds.all isDecimal then some (digitsValue 10 ds, s.drop n) else none

def daysIn (year month : Nat) : Nat :=
  if month = 2 then (if year % 4 = 0 && (year % 100 ≠ 0 || year % 400 = 0) then 29 else 28)
  else if month = 4 || month = 6 || month = 9 || month = 11 then 30 else 31

def date? (s : List Char) : Option (List Char) := do
  let (y, s) ← fixedDigits 4 s
  let s ← match s with | '-' :: r => some r | _ => none
  let (m, s) ← fixedDigits 2 s
  let s ← match s with | '-' :: r => some r | _ => none
  let (d, s) ← fixedDigits 2 s
  if 1 ≤ m && m ≤ 12 && 1 ≤ d && d ≤ daysIn y m then some s else none

def hourDigits (s : List Char) : Option (Nat × List Char) :=
  match s with
  | a :: b :: r =>
    if !isDecimal a then none
    else if isDecimal b then some (digitsValue 10 [a, b], r)
    else some (digitsValue 10 [a], b :: r)
  | [a] => if isDecimal a then some (digitsValue 10 [a], []) else none
  | [] => none

def time? (s : List Char) : Option (List Char) := do
  let (h, s) ← hourDigits s
  let s ← match s with | ':' :: r => some r | _ => none
  let (m, s) ← fixedDigits 2 s
  let s ← match s with | ':' :: r => some r | _ => none
  let (sec, s) ← fixedDigits 2 s
  if h > 23 || m > 59 || sec > 59 then none
  match s with
  | '.' :: r =>
    let f := r.takeWhile isDecimal
    if f.isEmpty then none else some (r.drop f.length)
  | _ => some s

def offset? (s : List Char) : Option (List Char) :=
  match s with
  | 'Z' :: r => some r
  | c :: r =>
    if c = '+' || c = '-' then do
      let (h, r) ← fixedDigits 2 r
      let r ← match r with | ':' :: x => some x | _ => none
      let (m, r) ← fixedDigits 2 r
      if h > 24 || m > 60 then none else some r
    else none
  | [] => none

/-- Whether a token is a date, a time, or a date and time with an optional offset. The
separator `T` may be written `t` or a blank, and the offset `Z` as `z`. A time alone must not
start with `0:`, which is read as the number 0. -/
def isDateTime (t : List Char) : Bool :=
  let t := t.map fun c => if c = 'z' then 'Z' else if c = 't' || c = ' ' then 'T' else c
  match date? t with
  | some [] => true
  | some ('T' :: r) =>
    match time? r with
    | some [] => true
    | some more => (offset? more) == some []
    | none => false
  | some _ => false
  | none =>
    match t with
    | '0' :: ':' :: _ => false
    | _ => (time? t) == some []

def isTokenChar (c : Char) : Bool := isBareChar c || c = '+' || c = '.' || c = ':'

def isDateChar (c : Char) : Bool :=
  isDecimal c || c = '-' || c = ':' || c = 'T' || c = 't' || c = ' ' || c = '.' || c = 'Z' ||
    c = 'z' || c = '+'

/-- The token of a bare value. Digits followed by `-` or `:` begin a date or time, which runs
over every character a date or time may hold, blanks included, and ends before its trailing
blanks; any other token runs over the characters of numbers and words. -/
def bareToken (s : List Char) : List Char × List Char :=
  let lead := s.takeWhile isDecimal
  let opensDate := match s.drop lead.length with
    | c :: _ => !lead.isEmpty && (c = '-' || c = ':')
    | [] => false
  let t := if opensDate then
      ((s.takeWhile isDateChar).reverse.dropWhile (· = ' ')).reverse
    else s.takeWhile isTokenChar
  (t, s.drop t.length)

def scalar (s : List Char) : Option (Node × List Char) :=
  let (t, rest) := bareToken s
  if t.isEmpty then none
  else if t = "true".toList then some (.boolean true, rest)
  else if t = "false".toList then some (.boolean false, rest)
  else match integer? t with
    | some v => some (.integer v, rest)
    | none =>
      if isFloat t then (if floatFits t then some (.float (String.ofList t), rest) else none)
      else if isDateTime t then some (.datetime (String.ofList t), rest)
      else none

/-! ## Values -/

def skipArrayGaps : Nat → List Char → Option (List Char)
  | 0, s => some s
  | n + 1, s =>
    match s with
    | c :: rest =>
      if isBlank c then skipArrayGaps n rest
      else if c = '#' then
        let body := rest.takeWhile fun c => c ≠ '\n' && c ≠ '\r'
        if body.any isControl then none else skipArrayGaps n (rest.drop body.length)
      else match lineBreak s with
        | some more => skipArrayGaps n more
        | none => some s
    | [] => some []

mutual

def value : Nat → List Char → Option (Written × List Char)
  | 0, _ => none
  | n + 1, s =>
    match s with
    | '[' :: rest => do
      let (items, after) ← arrayItems n [] rest
      some (.array items, after)
    | '{' :: rest => inlineTable n rest
    | '"' :: _ => do
      let (str, after) ← stringValue s
      some (.scalar (.string str), after)
    | '\'' :: _ => do
      let (str, after) ← stringValue s
      some (.scalar (.string str), after)
    | _ => do
      let (v, after) ← scalar s
      some (.scalar v, after)

def arrayItems : Nat → List Written → List Char → Option (List Written × List Char)
  | 0, _, _ => none
  | n + 1, acc, s => do
    let s ← skipArrayGaps (s.length + 1) s
    match s with
    | ']' :: rest => some (acc.reverse, rest)
    | _ =>
      let (v, after) ← value n s
      let after ← skipArrayGaps (after.length + 1) after
      match after with
      | ',' :: more => arrayItems n (v :: acc) more
      | ']' :: more => some ((v :: acc).reverse, more)
      | _ => none

def inlineTable : Nat → List Char → Option (Written × List Char)
  | 0, _ => none
  | n + 1, s =>
    match skipBlanks s with
    | '}' :: rest => some (.inline [], rest)
    | _ => inlinePairs n [] s

def inlinePairs : Nat → List (List String × Written) → List Char → Option (Written × List Char)
  | 0, _, _ => none
  | n + 1, pairs, s => do
    let (key, rest) ← dottedKey (s.length + 1) s
    let rest ← match skipBlanks rest with | '=' :: r => some r | _ => none
    let (v, after) ← value n (skipBlanks rest)
    let pairs := pairs ++ [(key, v)]
    match skipBlanks after with
    | ',' :: more => inlinePairs n pairs more
    | '}' :: more => some (.inline pairs, more)
    | _ => none

end

/-! ## Building the tree -/

/-- The entries after applying `f` to the table that `path` leads to, with the paths of the
tables made on the way (each path from `start`) and what `f` answers. A missing table is made;
an array of tables is entered at its last table; any other value on the way fails. -/
def descend {α : Type} (f : List (String × Node) → Option (List (String × Node) × α))
    (start : List String) :
    List String → List (String × Node) → Option (List (String × Node) × List (List String) × α)
  | [], es => do
    let (es, a) ← f es
    some (es, [], a)
  | k :: rest, es =>
    let here := start ++ [k]
    match es.lookup k with
    | none => do
      let (sub, made, a) ← descend f here rest []
      some (es ++ [(k, .table sub)], here :: made, a)
    | some (.table sub) => do
      let (sub, made, a) ← descend f here rest sub
      some (setEntry k (.table sub) es, made, a)
    | some (.tables items) => do
      let last ← items.getLast?
      let (last, made, a) ← descend f here rest last
      some (setEntry k (.tables (items.dropLast ++ [last])) es, made, a)
    | some _ => none

/-- A document being built: the tree so far, the keys in the order they were defined, the
key paths that are implicit, the key paths whose latest value is an array, and the table that
the next pairs go to. -/
structure Builder where
  root : List (String × Node) := []
  keys : List (List String) := []
  implicit : List (List String) := []
  arrays : List (List String) := []
  context : List String := []

def Builder.typed (b : Builder) (path : List String) (array : Bool) : Builder :=
  let others := b.arrays.filter (· != path)
  { b with arrays := if array then others ++ [path] else others }

/-- The builder after putting `v` under `key` in the context table. A new key is added. A key
already there whose latest value is an array takes `v`; one that is implicit keeps its value.
Either way it stops being implicit. Any other key already there fails. -/
def Builder.setValue (b : Builder) (key : String) (v : Node) : Option Builder := do
  let full := b.context ++ [key]
  let put (es : List (String × Node)) : Option (List (String × Node) × Bool) :=
    match es.lookup key with
    | none => some (es ++ [(key, v)], false)
    | some _ =>
      if b.arrays.contains full then some (setEntry key v es, true)
      else if b.implicit.contains full then some (es, true) else none
  let (root, made, takenOver) ← descend put [] b.context b.root
  let implicit := b.implicit ++ made
  some { b with root, implicit := if takenOver then implicit.filter (· != full) else implicit }

/-- The builder with `path` as its context. The tables on the way are entered, or made
implicit. A table is then defined at `path` (or taken over); for an array of tables, a table is
appended to the array there, which is made when missing. -/
def Builder.enter (b : Builder) (path : List String) (array : Bool) : Option Builder := do
  let last ← path.getLast?
  let parent := path.dropLast
  if array then
    let extend (es : List (String × Node)) : Option (List (String × Node) × Unit) :=
      match es.lookup last with
      | none => some (es ++ [(last, .tables [[]])], ())
      | some (.tables items) => some (setEntry last (.tables (items ++ [[]])) es, ())
      | some _ => none
    let (root, made, _) ← descend extend [] parent b.root
    some { b with root, implicit := b.implicit ++ made, context := path }
  else
    let (root, made, _) ← descend (fun es => some (es, ())) [] parent b.root
    let b ← { b with root, implicit := b.implicit ++ made, context := parent }.setValue last (.table [])
    some { b with context := path }

def Builder.passThrough (b : Builder) (part : String) : Option Builder :=
  let path := b.context ++ [part]
  { b with implicit := b.implicit ++ [path] }.enter path false

mutual

/-- The value a written value stands for under `key` in the context table, and the builder
after it. An array is recorded as the key's latest value before its items are read. An inline
table is built in place, as an array of tables when it stands in an array; its value is a table
of the last parts of its keys. -/
def Builder.value (b : Builder) (key : String) (inArray : Bool) : Nat → Written → Option (Builder × Node)
  | 0, _ => none
  | _ + 1, .scalar v => some (b, v)
  | n + 1, .array items => do
    let (b, vs) ← (b.typed (b.context ++ [key]) true).items key n items
    some (b, .array vs)
  | n + 1, .inline pairs => do
    let outer := b.context
    let path := outer ++ [key]
    let b ← { b with implicit := b.implicit ++ [path] }.enter path inArray
    let (b, entries) ← b.inlinePairs n [] pairs
    some ({ b with context := outer }, .table entries)

def Builder.items (b : Builder) (key : String) : Nat → List Written → Option (Builder × List Node)
  | 0, _ => none
  | _ + 1, [] => some (b, [])
  | n + 1, w :: ws => do
    let (b, v) ← b.value key true n w
    let (b, vs) ← b.items key n ws
    some (b, v :: vs)

def Builder.inlinePairs (b : Builder) : Nat → List (String × Node) → List (List String × Written) →
    Option (Builder × List (String × Node))
  | 0, _, _ => none
  | _ + 1, acc, [] => some (b, acc)
  | n + 1, acc, (key, w) :: rest => do
    let (b, last, v) ← b.pair n key w
    let acc := if acc.any (·.1 == last) then setEntry last v acc else acc ++ [(last, v)]
    b.inlinePairs n acc rest

/-- The builder after a key/value pair in the context table, with the last part of the key and
the value; the context is left as it was. -/
def Builder.pair (b : Builder) : Nat → List String → Written → Option (Builder × String × Node)
  | 0, _, _ => none
  | n + 1, key, w => do
    let start := b.context
    let last ← key.getLast?
    let b ← key.dropLast.foldlM Builder.passThrough b
    let b := { b with keys := b.keys ++ [b.context ++ [last]] }
    let (b, v) ← b.value last false n w
    let b ← b.setValue last v
    let isArray := match w with | .array _ => true | _ => false
    let b := b.typed (b.context ++ [last]) isArray
    some ({ b with context := start }, last, v)

end

/-! ## Documents -/

structure Document where
  root : List (String × Node) := []
  keys : List (List String) := []
  deriving Inhabited

def statementEnd (s : List Char) : Option (List Char) :=
  let s := skipBlanks s
  match s with
  | [] => some []
  | '#' :: rest =>
    let body := rest.takeWhile fun c => c ≠ '\n' && c ≠ '\r'
    if body.any isControl then none
    else
      let after := rest.drop body.length
      if after.isEmpty then some [] else lineBreak after
  | _ => lineBreak s

def Builder.header (b : Builder) (path : List String) (array : Bool) : Option Builder := do
  let b ← b.enter path array
  some { b.typed path false with keys := b.keys ++ [path] }

def Builder.statement (b : Builder) (s : List Char) : Option (Builder × List Char) := do
  match skipBlanks s with
  | '[' :: '[' :: rest => do
    let (path, after) ← dottedKey (rest.length + 1) rest
    let after ← match skipBlanks after with | ']' :: ']' :: x => some x | _ => none
    let b ← b.header path true
    let after ← statementEnd after
    some (b, after)
  | '[' :: rest => do
    let (path, after) ← dottedKey (rest.length + 1) rest
    let after ← match skipBlanks after with | ']' :: x => some x | _ => none
    let b ← b.header path false
    let after ← statementEnd after
    some (b, after)
  | t => do
    let (key, rest) ← dottedKey (t.length + 1) t
    let rest ← match skipBlanks rest with | '=' :: x => some x | _ => none
    let (w, after) ← Toml.value (rest.length + 1) (skipBlanks rest)
    let (b, _) ← b.pair (rest.length + 2) key w
    let after ← statementEnd after
    some (b, after)

def readStatements : Nat → Builder → List Char → Option Document
  | 0, _, _ => none
  | n + 1, b, s =>
    let t := skipBlanks s
    match t with
    | [] => some { root := b.root, keys := b.keys }
    | '#' :: _ => do
      let after ← statementEnd t
      readStatements n b after
    | _ =>
      match lineBreak t with
      | some after => readStatements n b after
      | none => do
        let (b, after) ← b.statement t
        readStatements n b after

/-- Whether a text holds a character that no part of a document may hold: a control
character other than a tab or a line break, a carriage return not followed by a line feed, or
the replacement character `U+FFFD`, which is taken for a byte that is not UTF-8. -/
def hasStrayChar : List Char → Bool
  | [] => false
  | '\r' :: '\n' :: rest => hasStrayChar rest
  | '\r' :: _ => true
  | c :: rest => (c ≠ '\n' && isControl c) || c = '\uFFFD' || hasStrayChar rest

def Document.read (text : String) : Option Document :=
  let cs := text.toList
  if hasStrayChar cs then none
  else readStatements (cs.length + 1) {} cs

def keyText (path : List String) : String :=
  let escapeChar (c : Char) : String :=
    if c = '"' then "\\\"" else if c = '\\' then "\\\\"
    else if c = '\x08' then "\\b" else if c = '\t' then "\\t" else if c = '\n' then "\\n"
    else if c = '\x0c' then "\\f" else if c = '\r' then "\\r"
    else if c.toNat < 0x20 || c.toNat = 0x7F then
      "\\u00" ++ String.ofList [hexDigitOf (c.toNat / 16), hexDigitOf (c.toNat % 16)]
    else c.toString
  ".".intercalate <| path.map fun k =>
    if k = "" then "\"\""
    else if k.toList.all isBareChar then k
    else "\"" ++ String.join (k.toList.map escapeChar) ++ "\""
where
  hexDigitOf (n : Nat) : Char := if n < 10 then Char.ofNat (48 + n) else Char.ofNat (87 + n)

end BlockGraph.Toml
