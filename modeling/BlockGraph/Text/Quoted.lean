import BlockGraph.Unicode.Table
import BlockGraph.Unicode.PrintableData
import BlockGraph.Text.Utf8

namespace BlockGraph.Text

def printableRanges : Unicode.RangeTable := Unicode.RangeTable.ofText Unicode.printableText

/-- Whether a character is shown as it is inside a quoted text. -/
def isPrintable (c : Char) : Bool :=
  let n := c.toNat
  if n < 0x7F then 0x20 ≤ n
  else if n ≤ 0xFF then 0xA1 ≤ n && n != 0xAD
  else printableRanges.contains n

def hexDigit (n : Nat) : Char := if n < 10 then Char.ofNat (48 + n) else Char.ofNat (87 + n)

/-- The `width` lowest hexadecimal digits of `n`, most significant first. -/
def hexDigits (width n : Nat) : List Char :=
  (List.range width).reverse.map fun i => hexDigit (n / Nat.pow 16 i % 16)

def hexOfBytes (bs : List UInt8) : String := String.ofList (bs.flatMap fun b => hexDigits 2 b.toNat)

def quoteChar (c : Char) : List Char :=
  let n := c.toNat
  if c = '"' ∨ c = '\\' then ['\\', c]
  else if isPrintable c then [c]
  else if n = 7 then ['\\', 'a']
  else if n = 8 then ['\\', 'b']
  else if n = 12 then ['\\', 'f']
  else if n = 10 then ['\\', 'n']
  else if n = 13 then ['\\', 'r']
  else if n = 9 then ['\\', 't']
  else if n = 11 then ['\\', 'v']
  else if n < 0x20 ∨ n = 0x7F then '\\' :: 'x' :: hexDigits 2 n
  else if n < 0x10000 then '\\' :: 'u' :: hexDigits 4 n
  else '\\' :: 'U' :: hexDigits 8 n

def quote (s : String) : String :=
  String.ofList ('"' :: s.toList.flatMap quoteChar ++ ['"'])

def quoteItem : Utf8.Item → List Char
  | .char c => quoteChar c
  | .byte b => '\\' :: 'x' :: hexDigits 2 b.toNat

def quoteKept (s : String) : String :=
  String.ofList ('"' :: (Utf8.items s.toList).flatMap quoteItem ++ ['"'])

end BlockGraph.Text
