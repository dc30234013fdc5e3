import BlockGraph.Unicode.Grapheme

namespace BlockGraph.Unicode

def silentCharacters : RangeTable :=
  RangeTable.ofText "0-1F;7F-9F;AD;70F;180B-180E;200B-200F;2028-202E;206A-206F;D800-DFFF;FEFF;FFF9-FFFB;FFFE-FFFF"

def combiningMarks : RangeTable := RangeTable.ofText combiningText

def wideCharacters : RangeTable := RangeTable.ofText wideText

def laterWideCharacters : RangeTable := RangeTable.ofText laterWideText

def emojiPresented : RangeTable := RangeTable.ofText emojiPresentationText

def charWidth (c : Char) : Nat :=
  let n := c.toNat
  if n < 0x20 ∨ (0x7F ≤ n ∧ n ≤ 0x9F) ∨ n = 0xAD then 0
  else if n < 0x300 then 1
  else if silentCharacters.contains n ∨ combiningMarks.contains n then 0
  else if wideCharacters.contains n ∨ laterWideCharacters.contains n then 2
  else 1

def clusterWidth (bs : List UInt8) : Nat :=
  ((Utf8.decode bs).find? (charWidth · ≠ 0)).elim 0 charWidth

def displayWidth (bs : List UInt8) : Nat := (clusters bs).foldr (fun c w => clusterWidth c + w) 0

def fitClusters (w : Nat) : List (List UInt8) → List UInt8
  | [] => []
  | c :: cs => if clusterWidth c ≤ w then c ++ fitClusters (w - clusterWidth c) cs else []

/-- A text cut to at most `w` columns: a text that fits is kept whole, one that does not keeps
the clusters that fit beside `tail` and ends in `tail`. -/
def truncate (s : String) (w : Nat) (tail : String) : String :=
  let bs := Utf8.encode s
  if displayWidth bs ≤ w then s
  else
    let room := w - displayWidth (Utf8.encode tail)
    String.ofList (Utf8.decode (fitClusters room (clusters bs))) ++ tail

/-! ## Cells of styled text -/

/-- The cells a character takes by its class: none for controls, line ends, extending marks and
joiners; two for a regional indicator and for a pictograph shown as emoji, one for any other
pictograph; three and four for the two- and three-em dashes; two for a Wide or Fullwidth
character and one otherwise. -/
def charCells (c : Nat) (u : UnitClass) : Nat :=
  match u.brk with
  | .control | .cr | .lf | .extend | .zwj => 0
  | .regionalIndicator => 2
  | _ =>
    if u.pictographic then (if emojiPresented.contains c then 2 else 1)
    else if c = 0x2E3A then 3
    else if c = 0x2E3B then 4
    else if wideCharacters.contains c then 2
    else 1

/-- The cells a cluster takes: those of its first character, to which every later character
adds its own, except after a regional indicator or a leading Hangul consonant, which stand for
the whole cluster, and after a pictograph, whose cluster a text presentation selector makes one
cell wide and an emoji presentation selector two. -/
def clusterCells : List Char → Nat
  | [] => 0
  | c :: rest =>
    let u := UnitClass.ofCode c.toNat
    let step (w : Nat) (d : Char) : Nat :=
      if u.pictographic then (if d.toNat = 0xFE0E then 1 else if d.toNat = 0xFE0F then 2 else w)
      else if u.brk = .regionalIndicator ∨ u.brk = .l then w
      else w + charCells d.toNat (UnitClass.ofCode d.toNat)
    rest.foldl step (charCells c.toNat u)

/-- Where a scan of styled text stands: in plain text, after an escape character, among the
intermediate bytes of an escape sequence, inside a control sequence, or inside a string that a
string terminator or a bell ends. -/
inductive EscapeState where
  | ground
  | escape
  | intermediate
  | control
  | string
  deriving DecidableEq, Inhabited

def EscapeState.next (s : EscapeState) (b : UInt8) : EscapeState :=
  if b = 0x1B then .escape
  else if (b = 0x18 ∨ b = 0x1A) ∧ s ≠ .string then .ground
  else
    match s with
    | .ground => .ground
    | .escape =>
      if b = 0x5B then .control
      else if b = 0x5D ∨ b = 0x50 ∨ b = 0x58 ∨ b = 0x5E ∨ b = 0x5F then .string
      else if 0x20 ≤ b ∧ b ≤ 0x2F then .intermediate
      else if 0x30 ≤ b ∧ b ≤ 0x7E then .ground
      else .escape
    | .intermediate => if 0x30 ≤ b ∧ b ≤ 0x7E then .ground else .intermediate
    | .control => if 0x40 ≤ b ∧ b ≤ 0x7E then .ground else .control
    | .string => if b = 0x07 then .ground else .string

def cellsFrom (s : EscapeState) (bs : List UInt8) : Nat :=
  match bs with
  | [] => 0
  | b :: rest =>
    if s = .ground ∧ b ≠ 0x1B then
      if b < 0x80 then (if 0x20 ≤ b ∧ b < 0x7F then 1 else 0) + cellsFrom .ground rest
      else
        let n := firstCluster (b :: rest)
        clusterCells (Utf8.decode ((b :: rest).take n)) + cellsFrom .ground ((b :: rest).drop n)
    else cellsFrom (s.next b) rest
termination_by bs.length
decreasing_by
  all_goals
    have hpos := firstCluster_pos b rest
    simp only [List.length_drop, List.length_cons]
    omega

def textCells (s : String) : Nat := cellsFrom .ground (Utf8.encode s)

end BlockGraph.Unicode
