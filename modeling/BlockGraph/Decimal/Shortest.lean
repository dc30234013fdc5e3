
namespace BlockGraph.Decimal

/-- A double taken apart: sign, and for finite values the integer mantissa `m`, the binary
exponent `e` with `|v| = m · 2^e`, and whether the gap below is half the gap above (a power of
two that is not subnormal). -/
inductive Parts where
  | nan
  | infinite (negative : Bool)
  | finite (negative : Bool) (m : Nat) (e : Int) (narrowBelow : Bool)

def Parts.of (x : Float) : Parts :=
  let bits := x.toBits.toNat
  let negative := bits ≥ Nat.pow 2 63
  let biased : Nat := bits / Nat.pow 2 52 % 2048
  let fraction : Nat := bits % Nat.pow 2 52
  if biased = 2047 then (if fraction = 0 then .infinite negative else .nan)
  else if biased = 0 then .finite negative fraction (-1074) false
  else .finite negative (fraction + Nat.pow 2 52) ((biased : Int) - 1075) (fraction = 0 ∧ biased > 1)

def compareScaled (a : Nat) (p : Int) (b : Nat) (q : Int) : Ordering :=
  let lhs := a * Nat.pow 2 p.toNat * Nat.pow 10 (-q).toNat
  let rhs := b * Nat.pow 10 q.toNat * Nat.pow 2 (-p).toNat
  compare lhs rhs

def floorScaled (a : Nat) (p : Int) (q : Int) : Nat :=
  (a * Nat.pow 2 p.toNat * Nat.pow 10 (-q).toNat) / (Nat.pow 10 q.toNat * Nat.pow 2 (-p).toNat)

/-- The decimal exponent of the leading digit of `a · 2^p` (`a > 0`): the `x` with
`10^x ≤ a · 2^p < 10^(x+1)`, found from an estimate by at most `fuel` corrections. -/
def leadingExponent (a : Nat) (p : Int) : Nat → Int → Int
  | 0, x => x
  | fuel + 1, x =>
    if compareScaled a p 1 x == .lt then leadingExponent a p fuel (x - 1)
    else if compareScaled a p 1 (x + 1) != .lt then leadingExponent a p fuel (x + 1)
    else x

/-- Digits `0.d₁…dₙ · 10^point`: no trailing zero digit, `d₁ ≠ 0` unless there are none. -/
structure Digits where
  digits : List Nat
  point : Int
  deriving Inhabited, BEq

def natDigits (n : Nat) : List Nat := (toString n).toList.map (fun c => c.toNat - 48)

def Digits.ofScaled (d : Nat) (q : Int) : Digits :=
  let ds := natDigits d
  let kept := (ds.reverse.dropWhile (· == 0)).reverse
  { digits := kept, point := ds.length + q }

def shortestDigits (m : Nat) (e : Int) (narrowBelow : Bool) : Digits :=
  -- everything is counted in quarters of `2^e`: v = 4m, bounds 4m ± 2 (4m - 1 below a
  -- narrow gap)
  let p := e - 2
  let v := 4 * m
  let hi := v + 2
  let lo := if narrowBelow then v - 1 else v - 2
  let inclusive := m % 2 = 0
  let inside (d : Nat) (q : Int) : Bool :=
    let above := compareScaled lo p d q
    let below := compareScaled hi p d q
    (above == .lt || (inclusive && above == .eq)) && (below == .gt || (inclusive && below == .eq))
  let est : Int := (((Nat.log2 m : Int) + e) * 30103) / 100000
  let lead := leadingExponent v p 8 est
  let pick (k : Nat) : Option (Nat × Int) :=
    let q := lead - k + 1
    let dLow := floorScaled v p q
    let dHigh := dLow + 1
    let lowOk := inside dLow q
    let highOk := inside dHigh q
    if lowOk && highOk then
      -- the nearer of the two; a tie goes to the even one
      -- compare v - dLow·10^q with dHigh·10^q - v, i.e. 2v with (dLow + dHigh)·10^q
      match compareScaled (2 * v) p (dLow + dHigh) q with
      | .lt => some (dLow, q)
      | .gt => some (dHigh, q)
      | .eq => if dLow % 2 = 0 then some (dLow, q) else some (dHigh, q)
    else if lowOk then some (dLow, q)
    else if highOk then some (dHigh, q)
    else none
  match (List.range 17).findSome? (fun i => pick (i + 1)) with
  | some (d, q) => Digits.ofScaled d q
  | none => Digits.ofScaled (floorScaled v p (lead - 16)) (lead - 16)

def digitText (ds : List Nat) : String := String.ofList (ds.map fun d => Char.ofNat (48 + d))

def exponentText (x : Int) : String :=
  let sign := if x < 0 then "-" else "+"
  let n := x.natAbs
  "e" ++ sign ++ (if n < 10 then "0" else "") ++ toString n

def Digits.scientific (d : Digits) : String :=
  match d.digits with
  | [] => "0e+00"
  | first :: rest =>
    digitText [first] ++ (if rest.isEmpty then "" else "." ++ digitText rest) ++
      exponentText (d.point - 1)

def Digits.positional (d : Digits) : String :=
  let n := d.digits.length
  if d.point ≤ 0 then
    if n = 0 then "0"
    else "0." ++ String.ofList (List.replicate d.point.natAbs '0') ++ digitText d.digits
  else
    let p := d.point.toNat
    let intPart := digitText (d.digits.take p) ++ String.ofList (List.replicate (p - n) '0')
    let fracPart := d.digits.drop p
    intPart ++ (if fracPart.isEmpty then "" else "." ++ digitText fracPart)

def formatGeneral (x : Float) : String :=
  match Parts.of x with
  | .nan => "NaN"
  | .infinite neg => if neg then "-Inf" else "+Inf"
  | .finite neg m e narrow =>
    let sign := if neg then "-" else ""
    if m = 0 then sign ++ "0"
    else
      let d := shortestDigits m e narrow
      let x := d.point - 1
      if x < -4 ∨ x ≥ 6 then sign ++ d.scientific else sign ++ d.positional

end BlockGraph.Decimal
