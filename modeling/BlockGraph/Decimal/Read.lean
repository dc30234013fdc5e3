
namespace BlockGraph.Decimal

/-- A literal split into sign, the digits as one natural number, and the power of ten that
scales them. -/
structure Scientific where
  negative : Bool
  mantissa : Nat
  exponent : Int
  digitCount : Nat
  deriving Inhabited

def digitsValue (ds : List Char) : Nat :=
  ds.foldl (fun acc c => acc * 10 + (c.toNat - 48)) 0

def allDigits (ds : List Char) : Bool := !ds.isEmpty && ds.all Char.isDigit

def Scientific.parse? (s : String) : Option Scientific :=
  let cs := s.toList
  let (negative, cs) := match cs with
    | '-' :: r => (true, r)
    | '+' :: r => (false, r)
    | r => (false, r)
  let intPart := cs.takeWhile Char.isDigit
  let cs := cs.dropWhile Char.isDigit
  let (fracPart, cs) := match cs with
    | '.' :: r => (r.takeWhile Char.isDigit, r.dropWhile Char.isDigit)
    | r => ([], r)
  let expo : Option Int := match cs with
    | [] => some 0
    | e :: r =>
      if e = 'e' ∨ e = 'E' then
        match r with
        | '-' :: ds => if allDigits ds then some (-(digitsValue ds : Int)) else none
        | '+' :: ds => if allDigits ds then some (digitsValue ds) else none
        | ds => if allDigits ds then some (digitsValue ds) else none
      else none
  if intPart.isEmpty && fracPart.isEmpty then none
  else expo.map fun x =>
    { negative, mantissa := digitsValue (intPart ++ fracPart),
      exponent := x - fracPart.length, digitCount := (intPart ++ fracPart).length }

def roundDiv (n d : Nat) : Nat :=
  let q := n / d
  let r := n % d
  if 2 * r < d then q
  else if 2 * r > d then q + 1
  else if q % 2 = 0 then q else q + 1

/-- The bits of the nearest non-negative double to `num / den` (`den > 0`), or none when it
overflows. -/
def nearestBits (num den : Nat) : Option Nat :=
  if num = 0 then some 0
  else
    -- `b` is the binary exponent of the leading bit: `2^b ≤ num/den < 2^(b+1)`
    let b0 : Int := (num.log2 : Int) - (den.log2 : Int)
    let atLeast (k : Int) : Bool :=
      if k ≥ 0 then num ≥ den * Nat.pow 2 k.toNat else num * Nat.pow 2 (-k).toNat ≥ den
    let b : Int := if atLeast b0 then b0 else b0 - 1
    let e : Int := max (b - 52) (-1074)
    let m := if e ≥ 0 then roundDiv num (den * Nat.pow 2 e.toNat) else roundDiv (num * Nat.pow 2 (-e).toNat) den
    let (m, e) := if m = Nat.pow 2 53 then (Nat.pow 2 52, e + 1) else (m, e)
    if m < Nat.pow 2 52 then some m
    else
      let biased := e + 1075
      if biased > 2046 then none else some (biased.toNat * Nat.pow 2 52 + (m - Nat.pow 2 52))

def Scientific.toFloat? (x : Scientific) : Option Float :=
  let sign := if x.negative then Nat.pow 2 63 else 0
  let bits? : Option Nat :=
    if x.mantissa = 0 then some 0
    else
      let magnitude : Int := (toString x.mantissa).length + x.exponent
      if magnitude < -330 then some 0
      else if magnitude > 311 then none
      else if x.exponent ≥ 0 then nearestBits (x.mantissa * Nat.pow 10 x.exponent.toNat) 1
      else nearestBits x.mantissa (Nat.pow 10 (-x.exponent).toNat)
  bits?.map fun bits => Float.ofBits (UInt64.ofNat (sign + bits))

def parseFloat? (s : String) : Option Float := (Scientific.parse? s).bind Scientific.toFloat?

/-- Whether a literal is written as an integer: digits, a minus sign at most. -/
def isIntegerLiteral (s : String) : Bool :=
  match s.toList with
  | '-' :: ds => allDigits ds
  | ds => allDigits ds

def parseInt64? (s : String) : Option Int :=
  if !isIntegerLiteral s then none
  else match s.toList with
    | '-' :: ds =>
      let v := digitsValue ds
      if v ≤ Nat.pow 2 63 then some (-(v : Int)) else none
    | ds =>
      let v := digitsValue ds
      if v < Nat.pow 2 63 then some v else none

def parseUnsigned? (bits : Nat) (s : String) : Option Nat :=
  let ds := s.toList
  if !allDigits ds then none
  else
    let v := digitsValue ds
    if v < Nat.pow 2 bits then some v else none

end BlockGraph.Decimal
