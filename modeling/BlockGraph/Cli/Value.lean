import BlockGraph.Text.Quoted

namespace BlockGraph.Cli

inductive NumberFault where
  | malformed
  | outOfRange
  deriving DecidableEq, Inhabited

def NumberFault.describe (reader text : String) : NumberFault → String
  | .malformed => "strconv." ++ reader ++ ": parsing " ++ Text.quote text ++ ": invalid syntax"
  | .outOfRange => "strconv." ++ reader ++ ": parsing " ++ Text.quote text ++ ": value out of range"

def wordMax : Nat := Nat.pow 2 64 - 1

/-- A character with the case bit set, as case-blind comparisons of ASCII letters use it. -/
def caseless (c : Char) : Char := if 'A' ≤ c ∧ c ≤ 'Z' then Char.ofNat (c.toNat + 32) else c

def digitValue (c : Char) : Option Nat :=
  if '0' ≤ c ∧ c ≤ '9' then some (c.toNat - 48)
  else if 'a' ≤ caseless c ∧ caseless c ≤ 'z' then some ((caseless c).toNat - 87)
  else none

/-- The magnitude of digits in `base`, accumulated into `n`; underscores are passed over when
`separated`. Whether any was passed over is returned too. -/
def readDigits (base : Nat) (separated : Bool) : List Char → Nat × Bool → Except NumberFault (Nat × Bool)
  | [], acc => .ok acc
  | c :: cs, (n, seen) =>
    if c = '_' ∧ separated then readDigits base separated cs (n, true)
    else
      match digitValue c with
      | none => .error .malformed
      | some d =>
        if base ≤ d then .error .malformed
        else if wordMax / base + 1 ≤ n then .error .outOfRange
        else
          let next := n * base + d
          if wordMax < next then .error .outOfRange else readDigits base separated cs (next, seen)

def underscoresPlaced (s : List Char) : Bool :=
  let s := match s with
    | '-' :: r => r
    | '+' :: r => r
    | _ => s
  let (start, hex, body) : Char × Bool × List Char := match s with
    | '0' :: b :: r =>
      if caseless b = 'b' ∨ caseless b = 'o' ∨ caseless b = 'x' then ('0', caseless b = 'x', r)
      else ('^', false, s)
    | _ => ('^', false, s)
  let step (saw : Option Char) (c : Char) : Option Char := do
    let saw ← saw
    if ('0' ≤ c ∧ c ≤ '9') ∨ (hex ∧ 'a' ≤ caseless c ∧ caseless c ≤ 'f') then some '0'
    else if c = '_' then (if saw = '0' then some '_' else none)
    else if saw = '_' then none
    else some '!'
  match body.foldl step (some start) with
  | some saw => saw ≠ '_'
  | none => false

def readMagnitude (s : List Char) : Except NumberFault Nat := do
  if s.isEmpty then throw .malformed
  let (base, digits) : Nat × List Char := match s with
    | '0' :: b :: r@(_ :: _) =>
      if caseless b = 'b' then (2, r)
      else if caseless b = 'o' then (8, r)
      else if caseless b = 'x' then (16, r)
      else (8, b :: r)
    | '0' :: r => (8, r)
    | _ => (10, s)
  let (n, seen) ← readDigits base true digits (0, false)
  if seen ∧ !underscoresPlaced s then throw .malformed
  return n

def readInteger (text : String) : Except NumberFault Int := do
  let cs := text.toList
  if cs.isEmpty then throw .malformed
  let (negative, rest) := match cs with
    | '+' :: r => (false, r)
    | '-' :: r => (true, r)
    | _ => (false, cs)
  let n ← readMagnitude rest
  if !negative ∧ Nat.pow 2 63 ≤ n then throw .outOfRange
  if negative ∧ Nat.pow 2 63 < n then throw .outOfRange
  return if negative then -(n : Int) else n

def readTruth (text : String) : Option Bool :=
  if ["1", "t", "T", "TRUE", "true", "True"].contains text then some true
  else if ["0", "f", "F", "FALSE", "false", "False"].contains text then some false
  else none

example : readInteger "0x1F" = .ok 31 := by rfl
example : readInteger "1_000" = .ok 1000 := by rfl
example : readInteger "_1" = .error .malformed := by rfl
example : readInteger "9223372036854775808" = .error .outOfRange := by rfl

end BlockGraph.Cli
