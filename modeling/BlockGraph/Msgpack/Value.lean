
namespace BlockGraph.Msgpack

/-- A MessagePack value. -/
inductive Value where
  | nil
  | bool (b : Bool)
  | integer (v : Int)
  | float (f : Float)
  | bytes (bs : List UInt8)
  | ext (type : UInt8) (data : List UInt8)
  | array (items : List Value)
  | map (entries : List (Value × Value))
  deriving Inhabited

def Value.isNil : Value → Bool
  | .nil => true
  | _ => false

def ofBigEndian (bs : List UInt8) : Nat := bs.foldl (fun acc b => acc * 256 + b.toNat) 0

def bigEndian : Nat → Nat → List UInt8
  | 0, _ => []
  | n + 1, v => UInt8.ofNat (v / Nat.pow 256 n % 256) :: bigEndian n v

def takeExactly (n : Nat) (bs : List UInt8) : Option (List UInt8 × List UInt8) :=
  if bs.length < n then none else some (bs.take n, bs.drop n)

def readNumber (n : Nat) (bs : List UInt8) : Option (Nat × List UInt8) :=
  (takeExactly n bs).map fun (b, rest) => (ofBigEndian b, rest)

def signed (bytes v : Nat) : Int :=
  if v < Nat.pow 2 (8 * bytes - 1) then v else (v : Int) - Int.pow 2 (8 * bytes)

def readBytes (lenBytes : Nat) (bs : List UInt8) : Option (List UInt8 × List UInt8) := do
  let (n, rest) ← readNumber lenBytes bs
  takeExactly n rest

/-- An extension with a length spelled in `lenBytes` bytes (or of fixed length `fixed`). -/
def readExt (size : Sum Nat Nat) (bs : List UInt8) : Option (Value × List UInt8) := do
  let (n, rest) ← match size with
    | .inl fixed => some (fixed, bs)
    | .inr lenBytes => readNumber lenBytes bs
  match rest with
  | [] => none
  | t :: rest =>
    let (data, rest) ← takeExactly n rest
    pure (.ext t data, rest)

mutual

def readValue : Nat → List UInt8 → Option (Value × List UInt8)
  | 0, _ => none
  | _ + 1, [] => none
  | fuel + 1, c :: bs =>
    let n := c.toNat
    if n ≤ 0x7F then some (.integer n, bs)
    else if n ≤ 0x8F then readEntries fuel (n - 0x80) bs []
    else if n ≤ 0x9F then readItems fuel (n - 0x90) bs []
    else if n ≤ 0xBF then (takeExactly (n - 0xA0) bs).map fun (s, r) => (.bytes s, r)
    else if n ≥ 0xE0 then some (.integer ((n : Int) - 256), bs)
    else match n with
      | 0xC0 => some (.nil, bs)
      | 0xC2 => some (.bool false, bs)
      | 0xC3 => some (.bool true, bs)
      | 0xC4 => (readBytes 1 bs).map fun (s, r) => (.bytes s, r)
      | 0xC5 => (readBytes 2 bs).map fun (s, r) => (.bytes s, r)
      | 0xC6 => (readBytes 4 bs).map fun (s, r) => (.bytes s, r)
      | 0xC7 => readExt (.inr 1) bs
      | 0xC8 => readExt (.inr 2) bs
      | 0xC9 => readExt (.inr 4) bs
      | 0xCA => (readNumber 4 bs).map fun (v, r) =>
          (.float (Float32.ofBits (UInt32.ofNat v)).toFloat, r)
      | 0xCB => (readNumber 8 bs).map fun (v, r) => (.float (Float.ofBits (UInt64.ofNat v)), r)
      | 0xCC => (readNumber 1 bs).map fun (v, r) => (.integer v, r)
      | 0xCD => (readNumber 2 bs).map fun (v, r) => (.integer v, r)
      | 0xCE => (readNumber 4 bs).map fun (v, r) => (.integer v, r)
      | 0xCF => (readNumber 8 bs).map fun (v, r) => (.integer v, r)
      | 0xD0 => (readNumber 1 bs).map fun (v, r) => (.integer (signed 1 v), r)
      | 0xD1 => (readNumber 2 bs).map fun (v, r) => (.integer (signed 2 v), r)
      | 0xD2 => (readNumber 4 bs).map fun (v, r) => (.integer (signed 4 v), r)
      | 0xD3 => (readNumber 8 bs).map fun (v, r) => (.integer (signed 8 v), r)
      | 0xD4 => readExt (.inl 1) bs
      | 0xD5 => readExt (.inl 2) bs
      | 0xD6 => readExt (.inl 4) bs
      | 0xD7 => readExt (.inl 8) bs
      | 0xD8 => readExt (.inl 16) bs
      | 0xD9 => (readBytes 1 bs).map fun (s, r) => (.bytes s, r)
      | 0xDA => (readBytes 2 bs).map fun (s, r) => (.bytes s, r)
      | 0xDB => (readBytes 4 bs).map fun (s, r) => (.bytes s, r)
      | 0xDC => (readNumber 2 bs).bind fun (k, r) => readItems fuel k r []
      | 0xDD => (readNumber 4 bs).bind fun (k, r) => readItems fuel k r []
      | 0xDE => (readNumber 2 bs).bind fun (k, r) => readEntries fuel k r []
      | 0xDF => (readNumber 4 bs).bind fun (k, r) => readEntries fuel k r []
      | _ => none

/-- `count` more items of an array; `acc` holds those read (latest first). -/
def readItems : Nat → Nat → List UInt8 → List Value → Option (Value × List UInt8)
  | _, 0, bs, acc => some (.array acc.reverse, bs)
  | 0, _ + 1, _, _ => none
  | fuel + 1, count + 1, bs, acc => do
    let (v, rest) ← readValue fuel bs
    readItems fuel count rest (v :: acc)

/-- `count` more entries of a map; `acc` holds those read (latest first). -/
def readEntries : Nat → Nat → List UInt8 → List (Value × Value) → Option (Value × List UInt8)
  | _, 0, bs, acc => some (.map acc.reverse, bs)
  | 0, _ + 1, _, _ => none
  | fuel + 1, count + 1, bs, acc => do
    let (k, rest) ← readValue fuel bs
    let (v, rest) ← readValue fuel rest
    readEntries fuel count rest ((k, v) :: acc)

end

/-- The first value of the bytes, and the bytes after it. Each value read takes at least one
byte, so fuel of twice the length plus one is never the limit. -/
def readFirst (bs : List UInt8) : Option (Value × List UInt8) := readValue (2 * bs.length + 2) bs

def stringHeader (n : Nat) : List UInt8 :=
  if n < 32 then [UInt8.ofNat (0xA0 + n)]
  else if n < 256 then [0xD9, UInt8.ofNat n]
  else if n < 65536 then 0xDA :: bigEndian 2 n
  else 0xDB :: bigEndian 4 n

def encodeString (bs : List UInt8) : List UInt8 := stringHeader bs.length ++ bs

def arrayHeader (n : Nat) : List UInt8 :=
  if n < 16 then [UInt8.ofNat (0x90 + n)]
  else if n < 65536 then 0xDC :: bigEndian 2 n
  else 0xDD :: bigEndian 4 n

def mapHeader (n : Nat) : List UInt8 :=
  if n < 16 then [UInt8.ofNat (0x80 + n)]
  else if n < 65536 then 0xDE :: bigEndian 2 n
  else 0xDF :: bigEndian 4 n

def encodeBool (b : Bool) : List UInt8 := if b then [0xC3] else [0xC2]

def encodeWord (v : Nat) : List UInt8 := 0xCE :: bigEndian 4 v

def encodeInt64 (v : Int) : List UInt8 := 0xD3 :: bigEndian 8 (v % Int.pow 2 64).toNat

def encodeFloat (f : Float) : List UInt8 := 0xCB :: bigEndian 8 f.toBits.toNat

end BlockGraph.Msgpack
