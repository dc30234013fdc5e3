
namespace BlockGraph.Utf8

def replacement : Char := '�'

def isTail (b : UInt8) : Bool := 0x80 ≤ b && b ≤ 0xBF

def tailBits (b : UInt8) : Nat := b.toNat % 64

/-- The character that a sequence starting with `b0` encodes, and how many of the following
bytes `rest` belong to it. A byte that starts no well-formed sequence gives the replacement
character and takes nothing from `rest`. -/
def lead (b0 : UInt8) (rest : List UInt8) : Char × Nat :=
  let b := b0.toNat
  match rest with
  | b1 :: tl =>
    if 0xC2 ≤ b ∧ b ≤ 0xDF ∧ isTail b1 then
      (Char.ofNat ((b % 32) * 64 + tailBits b1), 1)
    else
      let ok1 :=
        if b = 0xE0 then 0xA0 ≤ b1 ∧ b1 ≤ 0xBF
        else if b = 0xED then 0x80 ≤ b1 ∧ b1 ≤ 0x9F
        else if 0xE1 ≤ b ∧ b ≤ 0xEF then isTail b1
        else if b = 0xF0 then 0x90 ≤ b1 ∧ b1 ≤ 0xBF
        else if b = 0xF4 then 0x80 ≤ b1 ∧ b1 ≤ 0x8F
        else if 0xF1 ≤ b ∧ b ≤ 0xF3 then isTail b1
        else False
      match tl with
      | b2 :: tl2 =>
        if ok1 ∧ 0xE0 ≤ b ∧ b ≤ 0xEF ∧ isTail b2 then
          (Char.ofNat ((b % 16) * 4096 + tailBits b1 * 64 + tailBits b2), 2)
        else
          match tl2 with
          | b3 :: _ =>
            if ok1 ∧ 0xF0 ≤ b ∧ b ≤ 0xF4 ∧ isTail b2 ∧ isTail b3 then
              (Char.ofNat ((b % 8) * 262144 + tailBits b1 * 4096 + tailBits b2 * 64 + tailBits b3), 3)
            else if b < 0x80 then (Char.ofNat b, 0) else (replacement, 0)
          | [] => if b < 0x80 then (Char.ofNat b, 0) else (replacement, 0)
      | [] => if b < 0x80 then (Char.ofNat b, 0) else (replacement, 0)
  | [] => if b < 0x80 then (Char.ofNat b, 0) else (replacement, 0)

def decode : List UInt8 → List Char
  | [] => []
  | b0 :: tl => (lead b0 tl).1 :: decode (tl.drop (lead b0 tl).2)
termination_by bs => bs.length
decreasing_by simp only [List.length_drop, List.length_cons]; omega

def toText (bs : List UInt8) : String := String.ofList (decode bs)

def encode (s : String) : List UInt8 := s.toList.flatMap String.utf8EncodeChar

/-! ## Kept texts -/

def keepMark : Char := Char.ofNat 0x10FE00

def isReserved (c : Char) : Bool := 0x10FE00 ≤ c.toNat && c.toNat ≤ 0x10FEFF

def byteChar (b : UInt8) : Char := Char.ofNat (0x10FE00 + b.toNat)

def keptByte? (c : Char) : Option UInt8 :=
  if 0x10FE80 ≤ c.toNat ∧ c.toNat ≤ 0x10FEFF then some (UInt8.ofNat (c.toNat - 0x10FE00)) else none

def keepChar (c : Char) : List Char := if isReserved c then [keepMark, c] else [c]

def keepText (s : String) : String := String.ofList (s.toList.flatMap keepChar)

/-- The characters of a kept text for a byte sequence: each well-formed sequence gives its
character, written as `keepChar` writes it, and each byte that starts none is kept. -/
def decodeKeeping : List UInt8 → List Char
  | [] => []
  | b0 :: tl =>
    (if (lead b0 tl).2 = 0 ∧ 0x80 ≤ b0 then [byteChar b0] else keepChar (lead b0 tl).1) ++
      decodeKeeping (tl.drop (lead b0 tl).2)
termination_by bs => bs.length
decreasing_by simp only [List.length_drop, List.length_cons]; omega

def toTextKeeping (bs : List UInt8) : String := String.ofList (decodeKeeping bs)

inductive Item where
  | char (c : Char)
  | byte (b : UInt8)
  deriving DecidableEq, Inhabited

/-- The items the characters of a kept text stand for. A mark at the very end, which no kept
text holds, stands for itself. -/
def items : List Char → List Item
  | [] => []
  | c :: rest =>
    if c = keepMark then
      match rest with
      | d :: more => .char d :: items more
      | [] => [.char c]
    else
      (match keptByte? c with
        | some b => .byte b
        | none => .char c) :: items rest

def Item.bytes : Item → List UInt8
  | .char c => String.utf8EncodeChar c
  | .byte b => [b]

def Item.shown : Item → Char
  | .char c => c
  | .byte _ => replacement

def encodeKept (s : String) : List UInt8 := (items s.toList).flatMap Item.bytes

def shownKept (s : String) : String := String.ofList ((items s.toList).map Item.shown)

example : decodeKeeping [0x61, 0xFF, 0xC3, 0xA9] = ['a', byteChar 0xFF, 'é'] := by decide +kernel
example : encodeKept (toTextKeeping [0x6C, 0x80]) = [0x6C, 0x80] := by decide +kernel
example : encodeKept (toTextKeeping [0xF4, 0x8F, 0xBA, 0x80, 0x80]) = [0xF4, 0x8F, 0xBA, 0x80, 0x80] := by
  decide +kernel
example : shownKept (keepText (String.ofList [Char.ofNat 0x10FE80])) = String.ofList [Char.ofNat 0x10FE80] := by
  decide +kernel

/-- The pieces of a byte sequence as the reader sees them: each well-formed sequence with its
character, and each other byte alone, paired with the replacement character. -/
def pieces : List UInt8 → List (Char × List UInt8)
  | [] => []
  | b0 :: tl => ((lead b0 tl).1, b0 :: tl.take (lead b0 tl).2) :: pieces (tl.drop (lead b0 tl).2)
termination_by bs => bs.length
decreasing_by simp only [List.length_drop, List.length_cons]; omega

def bytesLE : List UInt8 → List UInt8 → Bool
  | [], _ => true
  | _ :: _, [] => false
  | x :: xs, y :: ys => if x = y then bytesLE xs ys else x < y

def textLE (a b : String) : Bool := bytesLE (encode a) (encode b)

/-- Whether kept text `a` comes no later than kept text `b` when both are compared as the bytes
they stand for: a kept byte sorts by its byte value, before every character whose encoding
starts with a greater byte. -/
def keptLE (a b : String) : Bool := bytesLE (encodeKept a) (encodeKept b)

example : keptLE (toTextKeeping [0x80]) (keepText "é") = true := by decide +kernel
example : keptLE (toTextKeeping [0xFF]) (keepText "日") = false := by decide +kernel

end BlockGraph.Utf8
