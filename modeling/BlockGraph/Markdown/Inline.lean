import BlockGraph.Markdown.Html
import BlockGraph.Markdown.Reference

namespace BlockGraph.Markdown

/-- One line of a block's inline content, and the character standing before it in the
document. -/
structure Span where
  chars : List Char
  before : Char
  deriving Inhabited

inductive Piece where
  | text (cs : List Char)
  | run (c : Char) (left orig : Nat) (canOpen canClose : Bool)
  | opener (image : Bool) (bottom : Option Nat) (labelStart : Nat)
  | link
  | hidden
  deriving Inhabited

def Piece.shown : Piece → List Char
  | .text cs => cs
  | .run c left _ _ _ => List.replicate left c
  | .opener image _ _ => if image then ['!', '['] else ['[']
  | .link => []
  | .hidden => []

def Piece.isRun : Piece → Bool
  | .run .. => true
  | _ => false

def Piece.isOpener : Piece → Bool
  | .opener .. => true
  | _ => false

/-- A block's inline content laid out as one array of characters. -/
structure Source where
  chars : Array Char
  prev : Array Char
  labels : List String

def Source.ofSpans (spans : List Span) (labels : List String) : Source :=
  let chars := spans.flatMap (·.chars)
  let prevOf (i : Nat) (sp : Span) : List Char :=
    match sp.chars with
    | [] => []
    | _ => (if i = 0 then '\n' else sp.before) :: sp.chars.dropLast
  { chars := chars.toArray, prev := (spans.zipIdx.flatMap fun (sp, i) => prevOf i sp).toArray, labels }

def Source.before (src : Source) (i : Nat) : Char := src.prev[i]?.getD '\n'

def lastRun (ps : Array Piece) : Option Nat :=
  (List.range ps.size).reverse.find? fun k => (ps[k]?.map Piece.isRun).getD false

def settleRun (ps : Array Piece) (k : Nat) : Array Piece :=
  match ps[k]? with
  | some (.run c left _ _ _) => ps.setIfInBounds k (.text (List.replicate left c))
  | _ => ps

def runsAfter (ps : Array Piece) (bottom : Option Nat) : List Nat :=
  (List.range ps.size).filter fun k =>
    (ps[k]?.map Piece.isRun).getD false && (match bottom with | some b => b < k | none => true)

def pairTakes (opener closer : Piece) : Nat :=
  match opener, closer with
  | .run _ ol oo oOpen oClose, .run _ cl co cOpen _ =>
    let _ := oOpen
    if (oClose || cOpen) && (oo + co) % 3 = 0 && co % 3 ≠ 0 then 0
    else if 2 ≤ ol && 2 ≤ cl then 2 else 1
  | _, _ => 0

def Piece.spend (p : Piece) (n : Nat) : Piece :=
  match p with
  | .run c left orig o cl => .run c (left - n) orig o cl
  | other => other

def Piece.left : Piece → Nat
  | .run _ l _ _ _ => l
  | _ => 0

/-- The opener a closer pairs with, searching back from the closer: the first run of the
same character that can open and that the rule of three lets pair, with how many characters
the pair takes; and whether any run could have opened. -/
def findOpener (ps : Array Piece) (candidates : List Nat) (closer : Piece) : Option (Nat × Nat) × Bool :=
  match closer with
  | .run c _ _ _ _ =>
    let step (acc : Option (Nat × Nat) × Bool) (k : Nat) : Option (Nat × Nat) × Bool :=
      match acc with
      | (some found, seen) => (some found, seen)
      | (none, seen) =>
        match ps[k]? with
        | some o@(.run oc _ _ true _) =>
          if oc = c then
            let n := pairTakes o closer
            if 0 < n then (some (k, n), true) else (none, true)
          else (none, seen)
        | _ => (none, seen)
    candidates.foldl step (none, false)
  | _ => (none, false)

def pairRuns (bottom : Option Nat) : Nat → Array Piece → Option Nat → Array Piece
  | 0, ps, _ => (runsAfter ps bottom).foldl settleRun ps
  | _, ps, none => (runsAfter ps bottom).foldl settleRun ps
  | fuel + 1, ps, some ci =>
    let runs := runsAfter ps bottom
    let nextAfter (k : Nat) : Option Nat := runs.find? (k < ·)
    match ps[ci]? with
    | some closer@(.run _ _ _ canOpen canClose) =>
      if !canClose then pairRuns bottom fuel ps (nextAfter ci)
      else
        match findOpener ps (runs.filter (· < ci)).reverse closer with
        | (none, seen) =>
          let ps := if !seen && !canOpen then settleRun ps ci else ps
          pairRuns bottom fuel ps (nextAfter ci)
        | (some (oi, n), _) =>
          let ps := ps.modify oi (·.spend n)
          let ps := ps.modify ci (·.spend n)
          let ps := (runs.filter fun k => oi < k && k < ci).foldl settleRun ps
          let ps := if (ps[oi]?.map Piece.left).getD 0 = 0 then ps.setIfInBounds oi .hidden else ps
          if (ps[ci]?.map Piece.left).getD 0 = 0 then
            pairRuns bottom fuel (ps.setIfInBounds ci .hidden) (nextAfter ci)
          else pairRuns bottom fuel ps (some ci)
    | _ => pairRuns bottom fuel ps (nextAfter ci)

def settleEmphasis (ps : Array Piece) (bottom : Option Nat) : Array Piece :=
  let fuel := ps.foldl (fun n p => n + 1 + p.left) 1
  pairRuns bottom fuel ps (runsAfter ps bottom).head?

def linkAfter (ps : Array Piece) (k : Nat) : Bool :=
  (List.range ps.size).any fun j => k < j && (match ps[j]? with | some .link => true | _ => false)

def runLength (s : Array Char) (c : Char) (i : Nat) : Nat :=
  ((s.toList.drop i).takeWhile (· = c)).length

def codeSpan (s : Array Char) (i : Nat) : Piece × Nat :=
  let n := runLength s '`' i
  let rec close (fuel j : Nat) : Option Nat :=
    match fuel with
    | 0 => none
    | fuel + 1 =>
      if h : j < s.size then
        if s[j] = '`' then
          let m := runLength s '`' j
          if m = n then some j else close fuel (j + m)
        else close fuel (j + 1)
      else none
  match close s.size (i + n) with
  | some j =>
    let content := between s (i + n) j
    let edge (c : Char) : Bool := c = ' ' || c = '\n'
    let trimmed :=
      if !isBlank content && (content.head?.map edge).getD false && (content.getLast?.map edge).getD false
      then (content.drop 1).dropLast else content
    (.text trimmed, j + n)
  | none => (.text (List.replicate n '`'), i + n)

def emphasisRun (src : Source) (i : Nat) : Piece × Nat :=
  let s := src.chars
  let c := (charAt s i).getD '*'
  let n := runLength s c i
  let before := src.before i
  let after := (charAt s (i + n)).getD ' '
  let beforePunct := isPunctuation before
  let beforeWhite := isWhite before
  let afterPunct := isPunctuation after
  let afterWhite := isWhite after
  let left := !afterWhite && (!afterPunct || beforeWhite || beforePunct)
  let right := !beforeWhite && (!beforePunct || afterWhite || afterPunct)
  let (canOpen, canClose) :=
    if c = '_' then (left && (!right || beforePunct), right && (!left || afterPunct))
    else (left, right)
  (.run c n n canOpen canClose, i + n)

def inlineLinkEnd (s : Array Char) (i : Nat) : Option Nat := do
  let j := skipBlanks s (i + 1)
  if charAt s j = some ')' then return j + 1
  let d ← destinationEnd s j
  let j := skipBlanks s d
  if charAt s j = some ')' then return j + 1
  let t ← titleEnd s j
  let j := skipBlanks s t
  if charAt s j = some ')' then return j + 1
  none

def Source.defines (src : Source) (label : List Char) : Bool := src.labels.contains (labelKey label)

/-- What a `]` leads to: where reading goes on when a link is made, `none` when it is not, and
whether the opener then falls to text. -/
inductive Closing where
  | made (next : Nat)
  | refused

def Piece.markStart : Piece → Nat
  | .opener image _ labelStart => labelStart - (if image then 2 else 1)
  | _ => 0

def Piece.markStop : Piece → Nat
  | .opener _ _ labelStart => labelStart
  | _ => 0

/-- Whether the openers still waiting besides the one at `k` span too much for a `]` to close
it: more than 998 bytes from the start of the first to the end of the nearest before `k`. -/
def openersTooWide (s : Array Char) (ps : Array Piece) (k : Nat) : Bool :=
  let waiting := (List.range k).filter fun j => (ps[j]?.map Piece.isOpener).getD false
  match waiting.head?, waiting.getLast? with
  | some first, some last =>
    let start := (ps[first]?.map Piece.markStart).getD 0
    let stop := (ps[last]?.map Piece.markStop).getD 0
    998 < byteCount (between s start stop)
  | _, _ => false

def closeLink (src : Source) (labelStart i : Nat) : Closing :=
  let s := src.chars
  let label := between s labelStart i
  let shortcut : Closing :=
    if 999 < byteCount label then .refused
    else if src.defines label then .made (i + 1) else .refused
  match charAt s (i + 1) with
  | some '(' =>
    match inlineLinkEnd s (i + 1) with
    | some e => .made e
    | none => shortcut
  | some '[' =>
    match closingMark s '[' ']' (i + 2) with
    | some r =>
      let named := between s (i + 2) r
      let key := if isBlank named then label else named
      if 999 < byteCount key then .refused
      else if src.defines key then .made (r + 1) else .refused
    | none => shortcut
  | _ => shortcut

def emailLength (cs : List Char) : Option Nat :=
  let isLocal (c : Char) : Bool :=
    isAlnum c || ".!#$%&*+/=?^_`|~-".toList.contains c || c.toNat = 39 || c.toNat = 123 || c.toNat = 125
  let localPart := cs.takeWhile isLocal
  let rest := cs.drop localPart.length
  if localPart.isEmpty then none
  else match rest with
    | '@' :: domain =>
      -- a label: a letter or digit, then up to 62 more of letters, digits and hyphens ending
      -- in a letter or digit; labels joined by dots
      let labelLength (d : List Char) : Option Nat :=
        match d with
        | c :: more =>
          if isAlnum c then
            let body := (more.takeWhile fun x => isAlnum x || x = '-').take 62
            let kept := (body.reverse.dropWhile (· = '-')).reverse
            some (1 + kept.length)
          else none
        | [] => none
      let rec labels (fuel : Nat) (d : List Char) (acc : Nat) : Nat :=
        match fuel with
        | 0 => acc
        | fuel + 1 =>
          match d with
          | '.' :: more =>
            match labelLength more with
            | some k => labels fuel (more.drop k) (acc + 1 + k)
            | none => acc
          | _ => acc
      match labelLength domain with
      | some k => some (localPart.length + 1 + labels domain.length (domain.drop k) k)
      | none => none
    | _ => none

/-- The end of a URL autolink's body after `<`, if one reads: a scheme of two to thirty-two
letters, digits, `+`, `.` or `-` starting with a letter, a colon, and characters other than
controls, space, `<` and `>`. -/
def urlLength (cs : List Char) : Option Nat :=
  let isSchemeChar (c : Char) : Bool := isAlnum c || c = '+' || c = '.' || c = '-'
  match cs with
  | c :: more =>
    if !isLetter c then none
    else
      let scheme := 1 + (more.takeWhile isSchemeChar).length
      let rest := cs.drop scheme
      if scheme = 1 || 33 < scheme then none
      else match rest with
        | ':' :: body =>
          let isUrlChar (x : Char) : Bool := 32 < x.toNat && x.toNat ≠ 127 && x ≠ '<' && x ≠ '>'
          some (scheme + 1 + (body.takeWhile isUrlChar).length)
        | _ => none
  | [] => none

def autolinkEnd (s : Array Char) (i : Nat) : Option Nat :=
  let rest := restOfLine s i
  let body := rest.drop 1
  match (emailLength body).orElse fun _ => urlLength body with
  | some k => if rest[k + 1]? = some '>' then some (i + k + 2) else none
  | none => none

def isTrigger (c : Char) : Bool :=
  c = '`' || c = '*' || c = '_' || c = '[' || c = '!' || c = ']' || c = '<'

def tryInline (src : Source) (ps : Array Piece) (i : Nat) : Array Piece × Option Nat :=
  let s := src.chars
  match charAt s i with
  | some '`' => let (p, j) := codeSpan s i; (ps.push p, some j)
  | some '*' | some '_' => let (p, j) := emphasisRun src i; (ps.push p, some j)
  | some '[' => (ps.push (.opener false (lastRun ps) (i + 1)), some (i + 1))
  | some '!' =>
    if charAt s (i + 1) = some '[' then (ps.push (.opener true (lastRun ps) (i + 2)), some (i + 2))
    else (ps, none)
  | some ']' =>
    match (List.range ps.size).reverse.find? fun k => (ps[k]?.map Piece.isOpener).getD false with
    | none => (ps, none)
    | some k =>
      match ps[k]? with
      | some opener@(.opener image bottom labelStart) =>
        let fall := ps.setIfInBounds k (.text opener.shown)
        if openersTooWide s ps k then (fall, none)
        else if !image && linkAfter ps k then (fall, none)
        else
          match closeLink src labelStart i with
          | .refused => (fall, none)
          | .made next =>
            let ps := (settleEmphasis ps bottom).setIfInBounds k .hidden
            (if image then ps else ps.push .link, some next)
      | _ => (ps, none)
  | some '<' =>
    match autolinkEnd s i with
    | some j => (ps.push .hidden, some j)
    | none =>
      match rawHtmlEnd s i with
      | some j => (ps.push .hidden, some j)
      | none => (ps, none)
  | _ => (ps, none)

/-- How a line's end is read: how many of its characters hold text, and whether the text keeps
its trailing blanks (a backslash break). -/
def lineBody (line : List Char) : Nat × Bool :=
  let n := line.length
  let charOf (k : Nat) : Char := line.getD k ' '
  let newline := n ≥ 1 && charOf (n - 1) = '\n'
  if newline && ((n ≥ 3 && charOf (n - 2) = '\\' && charOf (n - 3) ≠ '\\') || (n = 2 && charOf 0 = '\\')) then
    (n - 2, true)
  else if newline && ((n ≥ 4 && charOf (n - 3) = '\\' && charOf (n - 2) = '\r' && charOf (n - 4) ≠ '\\') ||
      (n = 3 && charOf 0 = '\\' && charOf 1 = '\r')) then (n - 3, true)
  else if newline && n ≥ 3 && charOf (n - 3) = ' ' && charOf (n - 2) = ' ' then (n - 3, false)
  else if newline && n ≥ 4 && charOf (n - 4) = ' ' && charOf (n - 3) = ' ' && charOf (n - 2) = '\r' then
    (n - 4, false)
  else (n, false)

/-- Reads inline content from position `j` on: the current text run starts at `start`, the
line's text ends at `limit` and the line at `stop`; `escaped` when a backslash before `j`
keeps it from starting anything. -/
def readInline (src : Source) : Nat → Array Piece → Nat → Nat → Nat → Nat → Bool → Bool → Array Piece
  | 0, ps, _, _, _, _, _, _ => ps
  | fuel + 1, ps, start, j, limit, stop, keep, escaped =>
    let s := src.chars
    let finish : Array Piece :=
      let run := between s start j
      ps.push (.text (if keep then run else trimRight run))
    let fromHere (ps : Array Piece) (next : Nat) : Array Piece :=
      let line := restOfLine s next
      let (body, keep) := lineBody line
      readInline src fuel ps next next (next + body) (next + line.length) keep false
    if h : j < s.size then
      if limit ≤ j || s[j] = '\n' then
        if stop < s.size then fromHere finish stop else finish
      else
        let c := s[j]
        if isPunct c && isTrigger c && !escaped then
          let ps := if start < j then ps.push (.text (between s start j)) else ps
          match tryInline src ps j with
          | (ps, some next) => fromHere ps next
          | (ps, none) => readInline src fuel ps j (j + 1) limit stop keep false
        else readInline src fuel ps start (j + 1) limit stop keep (!escaped && c = '\\')
    else finish

def inlineText (labels : List String) (spans : List Span) : String :=
  let src := Source.ofSpans spans labels
  let s := src.chars
  let line := restOfLine s 0
  let (body, keep) := lineBody line
  let ps := readInline src (4 * s.size + 4) #[] 0 0 body line.length keep false
  let ps := settleEmphasis ps none
  String.ofList (ps.toList.flatMap Piece.shown)

end BlockGraph.Markdown
