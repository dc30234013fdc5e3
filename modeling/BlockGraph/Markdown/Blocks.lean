import BlockGraph.Markdown.Html
import BlockGraph.Markdown.Inline
/-!
# Markdown blocks

The block structure of a markdown document, as far as its headings and fenced code go, read line
by line over the path of open blocks.
-/

namespace BlockGraph.Markdown

inductive Block where
  | heading (level : Nat) (text : String)
  | fence (info : String) (firstLine : Option Nat) (content : String)
  deriving Inhabited

def language (info : String) : String := String.ofList (info.toList.takeWhile (· ≠ ' '))

inductive Leaf where
  | heading (level : Nat) (spans : List Span)
  | fence (info : String) (firstLine : Option Nat) (content : String)
  deriving Inhabited

/-- A line of the document: its characters with the line feed ending it, if any, and its
number counting from 1. -/
structure Row where
  chars : Array Char
  number : Nat
  final : Bool

/-- A place in a line: the characters passed, and the columns of a split tab still to come,
shown as spaces. -/
structure Cursor where
  pos : Nat := 0
  pad : Nat := 0

def Row.view (r : Row) (c : Cursor) : List Char :=
  List.replicate c.pad ' ' ++ r.chars.toList.drop c.pos

def Row.atEnd (r : Row) (c : Cursor) : Bool := r.final && r.chars.size ≤ c.pos

def columnsOf (cs : List Char) : Nat :=
  cs.foldl (fun col c => if c = '\t' then col + tabWidth col else col + 1) 0

def Row.column (r : Row) (c : Cursor) : Nat := columnsOf (r.chars.toList.take c.pos) - c.pad

def Row.advance (r : Row) (c : Cursor) (n : Nat) : Cursor :=
  if n ≤ c.pad then { c with pad := c.pad - n }
  else { pos := min (c.pos + (n - c.pad)) r.chars.size, pad := 0 }

def Row.advancePadded (r : Row) (c : Cursor) (n pad : Nat) : Cursor :=
  let c := r.advance c n
  if c.pad < pad then { c with pad } else c

def Row.span (r : Row) (c : Cursor) : Span :=
  let rest := r.chars.toList.drop c.pos
  let lead := leadingSpaces rest
  let start := c.pos + lead
  { chars := rest.drop lead, before := if start = 0 then '\n' else r.chars[start - 1]?.getD '\n' }

inductive Node where
  | quote
  | list (marker : Char) (ordered : Bool) (lastOffset lastChildren : Nat)
  | item (offset children : Nat)
  | paragraph (lines : Array Span)
  | heading
  | rule
  | fence (char : Char) (length indent slot : Nat)
  | code
  | html (ending : HtmlEnd) (single firstEnds : Bool)
  deriving Inhabited

structure Reader where
  stack : Array Node := #[]
  leaves : Array Leaf := #[]
  labels : List String := []
  skipList : Bool := false
  emptyItemBlank : Bool := false
  deriving Inhabited

def parentOf (k : Nat) : Option Nat := if k = 0 then none else some (k - 1)

def Reader.lastItem (rd : Reader) (k : Nat) : Nat × Nat :=
  match rd.stack[k + 1]?, rd.stack[k]? with
  | some (.item off ch), _ => (off, ch)
  | _, some (.list _ _ off ch) => (off, ch)
  | _, _ => (0, 0)

def Reader.adopt (rd : Reader) (parent : Option Nat) (n : Node) : Reader :=
  let stack := match parent with
    | some p =>
      rd.stack.modify p fun
        | .item off ch => .item off (ch + 1)
        | .list m o _ _ => match n with
          | .item off _ => .list m o off 0
          | _ => .list m o 0 0
        | other => other
    | none => rd.stack
  { rd with stack := stack.push n }

/-! ## Recognising line starts -/

def isThematicBreak (line : List Char) (col : Nat) : Bool :=
  let (w, k) := indentWidth line col
  if 3 < w then false
  else
    let marks := (line.drop k).filter (!isSpace ·)
    match marks with
    | m :: _ => (m = '*' || m = '-' || m = '_') && marks.all (· = m) && 3 ≤ marks.length
    | [] => false

def setextBar (line : List Char) : Option Char :=
  let lead := (line.takeWhile (· = ' ')).length
  let t := trimRight (line.drop lead)
  if 3 < lead then none
  else match t with
    | '=' :: _ => if t.all (· = '=') then some '=' else none
    | '-' :: _ => if t.all (· = '-') then some '-' else none
    | _ => none

structure Marker where
  lead : Nat
  markEnd : Nat
  char : Char
  ordered : Bool
  start : Nat
  empty : Bool

/-- The list item marker a line starts with: up to three spaces, a bullet `-`, `+`, `*` or one
to nine digits and `.` or `)`, then a blank or the line's end. -/
def listMarker (line : List Char) : Option Marker :=
  let lead := (line.takeWhile (· = ' ')).length
  let rest := line.drop lead
  if 3 < lead then none
  else
    let found : Option (Nat × Char × Bool × Nat) :=
      match rest with
      | c :: _ =>
        if c = '-' || c = '*' || c = '+' then some (lead + 1, c, false, 0)
        else
          let digits := rest.takeWhile isDigit
          if digits.isEmpty || 9 < digits.length then none
          else match rest.drop digits.length with
            | d :: _ =>
              if d = '.' || d = ')' then
                some (lead + digits.length + 1, d, true,
                  digits.foldl (fun n x => n * 10 + (x.toNat - 48)) 0)
              else none
            | [] => none
      | [] => none
    match found with
    | none => none
    | some (markEnd, char, ordered, start) =>
      let after := line.drop markEnd
      let spaced := match after with
        | [] => true
        | '\n' :: _ => true
        | _ => 0 < (indentWidth after 0).1
      if spaced then some { lead, markEnd, char, ordered, start, empty := isBlank after } else none

/-- The text of a heading line after its opening `#` run: trimmed, and without a closing run of
`#` that stands after a blank or alone. -/
def atxText (rest : List Char) : List Char :=
  let t := trim rest
  let body := (t.reverse.dropWhile (· = '#')).reverse
  if body.length = t.length then t
  else if body.isEmpty then []
  else if isSpace (body.getLastD 'x') then trim body
  else t

def atxHeading (line : List Char) (k : Nat) : Option (Nat × List Char) :=
  let t := line.drop k
  let level := (t.takeWhile (· = '#')).length
  let rest := t.drop level
  if level = 0 || 6 < level then none
  else match rest with
    | [] => some (level, [])
    | c :: _ => if isSpace c then some (level, atxText rest) else none

/-- An opening fence at position `k`: its character, length and info string. The info string is
read only when at least two bytes follow the fence (a line feed counts, and so does a single
character of two bytes or more), and may hold no backtick after backticks. -/
def fenceStart (line : List Char) (k : Nat) : Option (Char × Nat × String) :=
  match line.drop k with
  | [] => none
  | c :: _ =>
    let len := ((line.drop k).takeWhile (· = c)).length
    let i := k + len
    if len < 3 then none
    else if 2 ≤ byteCount (line.drop i) then
      let value := trim (line.drop i)
      if value.isEmpty then some (c, len, "")
      else if c = '`' && value.contains '`' then none
      else some (c, len, String.ofList value)
    else some (c, len, "")

/-! ## Opening blocks -/

/-- A block that starts on a line: what is open, whether it may hold blocks starting on the
same line, where the line goes on, and the heading or fence it yields. -/
structure Start where
  node : Node
  nested : Bool
  cursor : Cursor
  leaf : Option Leaf := none

inductive Starter where
  | setext | rule | list | item | code | atx | fence | quote | html | paragraph
  deriving DecidableEq

def startersFor (c : Option Char) : List Starter :=
  let free := [Starter.code, .paragraph]
  match c with
  | some '-' => [.setext, .rule, .list, .item] ++ free
  | some '=' => .setext :: free
  | some '*' => [.rule, .list, .item] ++ free
  | some '_' => .rule :: free
  | some '+' => [.list, .item] ++ free
  | some '#' => .atx :: free
  | some '`' => .fence :: free
  | some '~' => .fence :: free
  | some '>' => .quote :: free
  | some '<' => .html :: free
  | some d => if isDigit d then [.list, .item] ++ free else free
  | none => free

def Starter.interrupts : Starter → Bool
  | .code | .paragraph => false
  | _ => true

def Starter.indented : Starter → Bool
  | .code => true
  | _ => false

def quoteMark (row : Row) (cur : Cursor) : Option Cursor :=
  let view := row.view cur
  let (w, k) := indentWidth view (row.column cur)
  if 3 < w || view[k]? ≠ some '>' then none
  else
    let k := k + 1
    let cur := row.advance cur k
    match view[k]? with
    | none | some '\n' => some cur
    | some c =>
      if c = ' ' then some (row.advancePadded cur 1 0)
      else if c = '\t' then some (row.advancePadded cur 1 (tabWidth (row.column cur) - 1))
      else some cur

def Starter.start (s : Starter) (rd : Reader) (row : Row) (cur : Cursor) (parent : Option Nat)
    (offset : Option Nat) : Reader × Option Start :=
  let view := row.view cur
  let top := rd.stack.back?
  let topIsParagraph := match top with | some (.paragraph _) => true | _ => false
  let interrupting := topIsParagraph && parentOf (rd.stack.size - 1) = parent
  match s with
  | .rule =>
    if isThematicBreak view (row.column cur) then (rd, some { node := .rule, nested := false, cursor := cur })
    else (rd, none)
  | .list =>
    let topIsList := match top with | some (.list ..) => true | _ => false
    if topIsList || rd.skipList then ({ rd with skipList := false }, none)
    else match listMarker view with
      | none => (rd, none)
      | some m =>
        if interrupting && ((m.ordered && m.start ≠ 1) || m.empty) then (rd, none)
        else ({ rd with emptyItemBlank := false },
          some { node := .list m.char m.ordered 0 0, nested := true, cursor := cur })
  | .item =>
    match parent.bind (fun p => rd.stack[p]?) with
    | some (.list ..) =>
      let offset := (rd.lastItem (parent.getD 0)).1
      match listMarker view with
      | none => (rd, none)
      | some m =>
        if offset + 3 < m.lead then (rd, none)
        else
          let rd := { rd with emptyItemBlank := false }
          let after := view.drop m.markEnd
          let itemOffset :=
            if m.empty then 1
            else
              let w := (indentWidth after m.markEnd).1
              if 4 < w then 1 else w
          let node := Node.item (m.markEnd + itemOffset) 0
          if m.empty then (rd, some { node, nested := false, cursor := cur })
          else
            let (k, pad) := (indentPosition after m.markEnd 0 itemOffset).getD (0, 0)
            (rd, some { node, nested := true, cursor := row.advancePadded cur (m.markEnd + k) pad })
    | _ => (rd, none)
  | .code =>
    if (indentPosition view (row.column cur) 0 4).isSome && !isBlank view then
      (rd, some { node := .code, nested := false, cursor := cur })
    else (rd, none)
  | .atx =>
    match offset.bind (atxHeading view) with
    | some (level, text) =>
      (rd, some { node := .heading, nested := false, cursor := cur,
                  leaf := some (.heading level [⟨text, '\n'⟩]) })
    | none => (rd, none)
  | .fence =>
    match offset with
    | some k =>
      match fenceStart view k with
      | some (c, len, info) =>
        (rd, some { node := .fence c len k rd.leaves.size, nested := false, cursor := cur,
                    leaf := some (.fence info none "") })
      | none => (rd, none)
    | none => (rd, none)
  | .quote =>
    match quoteMark row cur with
    | some c => (rd, some { node := .quote, nested := true, cursor := c })
    | none => (rd, none)
  | .html =>
    match offset with
    | some k =>
      if view[k]? ≠ some '<' then (rd, none)
      else match htmlStart view topIsParagraph with
        | some e => (rd, some { node := .html e true (e.endsAt view), nested := false, cursor := cur })
        | none => (rd, none)
    | none => (rd, none)
  | .paragraph =>
    let sp := row.span cur
    if isBlank sp.chars then (rd, none)
    else (rd, some { node := .paragraph #[sp], nested := false, cursor := cur })
  | .setext => (rd, none)

/-- The lines of a paragraph when it closes: without the reference definitions it starts with,
the last line without trailing blanks; with the keys of the labels those define. -/
def closeParagraph (lines : Array Span) : List Span × List String :=
  let text := (lines.toList.flatMap (·.chars)).toArray
  let defs := readDefinitions text (text.size + 1) 0
  let kept := withoutDefinitions lines.toList defs
  let trimmedLast := match kept.getLast? with
    | some last => kept.dropLast ++ [{ last with chars := trimRight last.chars }]
    | none => []
  (trimmedLast, defs.map fun d => labelKey d.label)

inductive Opening where
  | nothing
  | opened
  | lazy
  deriving DecidableEq

inductive Attempt where
  | none (rd : Reader)
  | leaf (rd : Reader) (cur : Cursor)
  | container (rd : Reader) (cur : Cursor) (parent : Nat)
  | again (rd : Reader)

/-- Tries the starts in order on the rest of a line under `parent`; `w` is the line's
indentation and `offset` where its first character stands, if it has one. -/
def tryStarts (row : Row) (cur : Cursor) (parent : Option Nat) (continuable : Bool)
    (res : Opening) (w : Nat) (offset : Option Nat) : List Starter → Reader → Attempt
  | [], rd => .none rd
  | s :: more, rd =>
    if continuable && res = .nothing && !s.interrupts then tryStarts row cur parent continuable res w offset more rd
    else if 3 < w && !s.indented then tryStarts row cur parent continuable res w offset more rd
    else if s = .setext then
      let t := rd.stack.size - 1
      match rd.stack.back?, setextBar (row.view cur) with
      | some (.paragraph lines), some bar =>
        if parentOf t = parent then
          let (kept, keys) := closeParagraph lines
          let rd := { rd with stack := rd.stack.pop, labels := rd.labels ++ keys }
          match kept with
          | [] => .again rd
          | first :: rest =>
            let level := if bar = '=' then 1 else 2
            let rd := rd.adopt parent .heading
            .leaf { rd with leaves := rd.leaves.push (.heading level ({ first with before := '\n' } :: rest)) } cur
        else tryStarts row cur parent continuable res w offset more rd
      | _, _ => tryStarts row cur parent continuable res w offset more rd
    else
      match s.start rd row cur parent offset with
      | (rd, none) => tryStarts row cur parent continuable res w offset more rd
      | (rd, some st) =>
        let rd := rd.adopt parent st.node
        let rd := match st.leaf with
          | some l => { rd with leaves := rd.leaves.push l }
          | none => rd
        if st.nested then .container rd st.cursor (rd.stack.size - 1) else .leaf rd st.cursor

/-- Opens blocks on the rest of a line under `parent`: the reader, the place reached, how it
came out, and whether the open paragraph was taken into a heading. When nothing starts and the
last open block is a paragraph (`continuable`), a line that is not blank continues it lazily. -/
def openBlocks (row : Row) : Nat → Reader → Cursor → Option Nat → Bool → Opening → Bool →
    Reader × Cursor × Opening × Bool
  | 0, rd, cur, _, _, res, taken => (rd, cur, res, taken)
  | fuel + 1, rd, cur, parent, continuable, res, taken =>
    let view := row.view cur
    let lazily (rd : Reader) : Reader × Cursor × Opening × Bool :=
      if res = .nothing && continuable then
        match rd.stack.back? with
        | some (.paragraph lines) =>
          if isBlank view then (rd, cur, res, taken)
          else
            ({ rd with stack := rd.stack.pop.push (.paragraph (lines.push (row.span cur))) },
              cur, .lazy, taken)
        | _ => (rd, cur, res, taken)
      else (rd, cur, res, taken)
    if row.atEnd cur || view.head? = some '\n' then lazily rd
    else
      let (w, k) := indentWidth view (row.column cur)
      let offset := if view.length ≤ w then none else some k
      match tryStarts row cur parent continuable res w offset (startersFor (view[k]?)) rd with
      | .none rd => lazily rd
      | .leaf rd cur => (rd, cur, .opened, taken)
      | .container rd cur p => openBlocks row fuel rd cur (some p) continuable .opened taken
      | .again rd => openBlocks row fuel rd cur parent false res true

/-! ## Continuing blocks -/

inductive Verdict where
  | close
  | keep (nested : Bool)

def continueBlock (rd : Reader) (row : Row) (cur : Cursor) (i : Nat) (n : Node) :
    Reader × Cursor × Verdict :=
  let view := row.view cur
  let col := row.column cur
  match n with
  | .quote =>
    match quoteMark row cur with
    | some c => (rd, c, .keep true)
    | none => (rd, cur, .close)
  | .list marker ordered _ _ =>
    let (offset, children) := rd.lastItem i
    if isBlank view then
      ((if children = 0 then { rd with emptyItemBlank := true } else rd), cur, .keep true)
    else
      let lastIsEmpty := children = 0
      let indent := (indentWidth view col).1
      let listed : Option Verdict :=
        if indent < offset || lastIsEmpty then
          let asItem : Option Verdict :=
            if indent < 4 then
              match listMarker view with
              | some m =>
                if m.lead < offset + 4 then
                  if m.char ≠ marker || m.ordered ≠ ordered then some .close
                  else
                    let tail := view.drop (m.markEnd - 1)
                    if isThematicBreak tail 0 then
                      let heading := (match rd.stack.back? with | some (.paragraph _) => true | _ => false)
                        && setextBar tail = some '-'
                      if heading then some (.keep true) else some .close
                    else some (.keep true)
                else none
              | none => none
            else none
          match asItem with
          | some v => some v
          | none => if !lastIsEmpty then some .close else none
        else none
      match listed with
      | some v => (rd, cur, v)
      | none =>
        if lastIsEmpty && indent < offset then (rd, cur, .close)
        else if rd.emptyItemBlank then (rd, cur, .close)
        else (rd, cur, .keep true)
  | .item offset children =>
    if isBlank view then (rd, row.advance cur (view.length - 1), .keep true)
    else
      let isEmpty := children = 0 && rd.emptyItemBlank
      let indent := (indentWidth view col).1
      let ends : Option (Reader × Cursor × Verdict) :=
        if (isEmpty || indent < offset) && indent < 4 then
          if (listMarker view).isSome then some ({ rd with skipList := true }, cur, .close)
          else if !isEmpty then some (rd, cur, .close)
          else none
        else none
      match ends with
      | some r => r
      | none =>
        match indentPosition view col 0 offset with
        | some (k, pad) => (rd, row.advancePadded cur k pad, .keep true)
        | none => (rd, cur, .keep true)
  | .fence char length indent slot =>
    let (w, k) := indentWidth view col
    let run := ((view.drop k).takeWhile (· = char)).length
    if w < 4 && length ≤ run && isBlank (view.drop (k + run)) then
      (rd, row.advance cur (view.length - (if view.getLast? = some '\n' then 1 else 0)), .close)
    else
      let (k, pad) := match indentPosition view col cur.pad indent with
        | some r => r
        | none =>
          let lead := (view.takeWhile fun c => c = ' ' || c = '\t').length
          (if view[lead]? = some '\n' || view.length ≤ lead then 0 else lead, 0)
      let start := cur.pos + k
      let (start, pad) :=
        if pad ≠ 0 && columnsOf (row.chars.toList.take (cur.pos - 1)) = col + indent && 0 < cur.pos
        then (start - 1, 0) else (start, pad)
      let text := List.replicate pad ' ' ++ row.chars.toList.drop start
      let line := String.ofList text ++ (if row.final then "\n" else "")
      let leaves := rd.leaves.modify slot fun
        | .fence info first content => .fence info (first.orElse fun _ => some row.number) (content ++ line)
        | other => other
      ({ rd with leaves }, row.advance cur (view.length - 1), .keep false)
  | .code =>
    if isBlank view then (rd, cur, .keep false)
    else if (indentPosition view col 0 4).isSome then (rd, cur, .keep false)
    else (rd, cur, .close)
  | .html ending single firstEnds =>
    let consumed := row.advance cur (view.length - 1)
    match ending with
    | .blankLine =>
      if isBlank view then (rd, cur, .close)
      else ({ rd with stack := rd.stack.modify i fun _ => .html ending false firstEnds }, consumed, .keep false)
    | _ =>
      if single && firstEnds then (rd, cur, .close)
      else if ending.endsAt view then (rd, consumed, .close)
      else ({ rd with stack := rd.stack.modify i fun _ => .html ending false firstEnds }, consumed, .keep false)
  | .paragraph _ | .heading | .rule => (rd, cur, .close)

def closeBlocks (rd : Reader) (lo hi : Nat) : Reader :=
  let closing := (List.range (hi - lo)).reverse.map (lo + ·)
  let rd := closing.foldl (fun rd k =>
    match rd.stack[k]? with
    | some (.paragraph lines) => { rd with labels := rd.labels ++ (closeParagraph lines).2 }
    | some (.item off ch) =>
      if 0 < k then
        { rd with stack := rd.stack.modify (k - 1) fun
            | .list m o _ _ => .list m o off ch
            | other => other }
      else rd
    | _ => rd) rd
  { rd with stack := rd.stack.extract 0 lo ++ rd.stack.extract hi rd.stack.size }

def readLine (row : Row) (last : Nat) : Nat → Reader → Cursor → Nat → Reader
  | 0, rd, _, _ => rd
  | fuel + 1, rd, cur, i =>
    if last < i then rd
    else if row.atEnd cur then closeBlocks rd 0 rd.stack.size
    else
      let fallBack (rd : Reader) (cur : Cursor) : Reader :=
        let continuable := match rd.stack.back? with | some (.paragraph _) => true | _ => false
        let (rd, _, res, taken) :=
          openBlocks row (2 * row.chars.size + 4) rd cur (parentOf i) continuable .nothing false
        if res = .lazy then rd
        else closeBlocks rd i (if taken then last else last + 1)
      match rd.stack[i]? with
      | some (.paragraph _) => fallBack rd cur
      | some n =>
        match continueBlock rd row cur i n with
        | (rd, cur, .keep nested) =>
          if nested && i = last then
            (openBlocks row (2 * row.chars.size + 4) rd cur (some i) false .nothing false).1
          else readLine row last fuel rd cur (i + 1)
        | (rd, cur, .close) => fallBack rd cur
      | none => rd

def readRows : List Row → Reader → Reader
  | [], rd => closeBlocks rd 0 rd.stack.size
  | row :: rest, rd =>
    if rd.stack.isEmpty then
      if isBlank row.chars.toList then readRows rest rd
      else readRows rest (openBlocks row (2 * row.chars.size + 4) rd {} none false .nothing false).1
    else
      let n := rd.stack.size
      readRows rest (readLine row (n - 1) (n + 1) rd {} 0)

def rowsOf (doc : String) : List Row :=
  let pieces := doc.splitOn "\n"
  let count := pieces.length
  (pieces.zipIdx.filter fun (s, i) => !(i + 1 = count && s.isEmpty)).map fun (s, i) =>
    let final := i + 1 = count
    { chars := (if final then s.toList else s.toList ++ ['\n']).toArray, number := i + 1, final }

def blocks (doc : String) : List Block :=
  let rd := readRows (rowsOf doc) {}
  rd.leaves.toList.map fun
    | .heading level spans => .heading level (inlineText rd.labels spans)
    | .fence info first content => .fence info first content

end BlockGraph.Markdown
