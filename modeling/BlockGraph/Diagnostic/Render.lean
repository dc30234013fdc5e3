import BlockGraph.Diagnostic.Basic
import BlockGraph.Source.Files
import BlockGraph.Unicode.Width
import BlockGraph.Json.Value

namespace BlockGraph

inductive PathMode where
  | auto
  | relative
  | basename
  deriving BEq, Inhabited, Repr

namespace FileSet

def pathIn (fs : FileSet) (id : Nat) (mode : PathMode) : String :=
  match fs.get? id, mode with
  | none, _ => "<unknown>"
  | some _, .auto => fs.displayPath id
  | some f, .relative =>
    if fs.baseDir = "" then f.path else (Path.rel fs.baseDir f.path).getD f.path
  | some f, .basename => Path.base f.path

def locates (fs : FileSet) (s : Span) : Bool := s != Span.none && (fs.get? s.file).isSome

def location (fs : FileSet) (s : Span) (mode : PathMode) : String :=
  let start := (fs.resolve s).1
  fs.pathIn s.file mode ++ ":" ++ toString start.line ++ ":" ++ toString start.col

end FileSet

structure Style where
  params : List Nat
  deriving Inhabited

namespace Style

def bold : Style := ⟨[1]⟩
def error : Style := ⟨[31, 1]⟩
def warning : Style := ⟨[33, 1]⟩
def info : Style := ⟨[34, 1]⟩
def note : Style := ⟨[36]⟩
def caret : Style := ⟨[32, 1]⟩
def gutter : Style := ⟨[34]⟩

/-- The text in the style when `enabled`: the parameters, the text, then a reset of each
parameter (22 ends bold, 0 ends the rest). -/
def paint (st : Style) (enabled : Bool) (s : String) : String :=
  if !enabled then s
  else
    let codes (ps : List Nat) := ";".intercalate (ps.map toString)
    "\x1b[" ++ codes st.params ++ "m" ++ s ++ "\x1b[" ++
      codes (st.params.map fun p => if p = 1 then 22 else 0) ++ "m"

def ofSeverity (s : Severity) : Style :=
  if s.level = Severity.error.level then error
  else if s.level = Severity.warning.level then warning
  else info

end Style

structure PrettyOptions where
  color : Bool := false
  context : Int := 1
  pathMode : PathMode := .auto
  showNotes : Bool := true
  deriving Inhabited

def expandTabs (bs : List UInt8) : List UInt8 :=
  bs.flatMap fun b => if b == 0x09 then [0x20, 0x20, 0x20, 0x20] else [b]

def padLeft (width : Nat) (s : String) : String :=
  String.ofList (List.replicate (width - s.length) ' ') ++ s

/-- Why a finding cannot be shown: its span starts at column 0, which only a column that
wrapped round past `2^32 - 1` reaches, so the caret line would cut its source line one byte
before the line starts. -/
inductive RenderFault where
  | columnBeforeLine
  deriving Inhabited, BEq

def RenderFault.message : RenderFault → String
  | .columnBeforeLine => "runtime error: slice bounds out of range [:-1]"

def firstShownLine (line : Nat) (context : Int) : Nat :=
  line - if context ≤ 0 then 0 else min context.toNat (line - 1)

/-- A source line as a snippet shows it: the gutter with the line's number right-aligned in
`width` columns, then its bytes with tabs made spaces. -/
def gutterLine (color : Bool) (width ln : Nat) (bytes : List UInt8) : String :=
  " " ++ Style.gutter.paint color (padLeft width (toString ln) ++ " |") ++ " " ++
    Utf8.toTextKeeping (expandTabs bytes) ++ "\n"

/-- The bytes of a source line under the caret, from the first to one past the last: from the
start column, to the end column when the span ends on the same line and to the end of the line
otherwise; a column past the line stands for its end. -/
def caretRange (line : List UInt8) (start stop : LineCol) : Nat × Nat :=
  let col := min (start.col - 1) line.length
  (col, if stop.line = start.line then min (max (stop.col - 1) col) line.length else line.length)

def caretLine (color : Bool) (width pad marks : Nat) : String :=
  " " ++ Style.gutter.paint color (padLeft width "" ++ " |") ++ " " ++
    String.ofList (List.replicate pad ' ') ++
    Style.caret.paint color ("^" ++ String.ofList (List.replicate (marks - 1) '~')) ++ "\n"

/-- The source lines of a span, from `context` lines above its first line down to it, and a
caret line under the span: `^` then `~` for each further column it covers (at least the `^`),
placed and counted in terminal columns. Empty when the file is empty; a span that starts at
column 0 cannot be shown. -/
def snippet (fs : FileSet) (f : SourceFile) (s : Span) (context : Int) (color : Bool) :
    Except RenderFault String :=
  if f.content.isEmpty then pure ""
  else
    let (start, stop) := fs.resolve s
    if start.col = 0 then throw .columnBeforeLine else
    let width := (toString start.line).length
    let first := firstShownLine start.line context
    let line := f.lineBytes start.line
    let (col, last) := caretRange line start stop
    let pad := Unicode.displayWidth (expandTabs (line.take col))
    let marks := max (Unicode.displayWidth (expandTabs ((line.take last).drop col))) 1
    pure <| String.join ((List.range' first (start.line + 1 - first)).map fun ln =>
        gutterLine color width ln (f.lineBytes ln)) ++ caretLine color width pad marks

def Severity.lowerName (s : Severity) : String := s.name.toLower

/-- One finding in the pretty form: `path:line:col: severity CODE: message`, the source
snippet, then its notes (shown when asked, and always for timings). -/
def Diagnostic.pretty (d : Diagnostic) (fs : FileSet) (o : PrettyOptions) :
    Except RenderFault String := do
  let located := fs.locates d.primary
  let header :=
    (if located then Style.bold.paint o.color (fs.location d.primary o.pathMode) ++ ": " else "") ++
      (Style.ofSeverity d.severity).paint o.color d.severity.lowerName ++ " " ++ d.code.id ++ ": " ++
      d.message ++ "\n"
  let source ← match located, fs.get? d.primary.file with
    | true, some f => snippet fs f d.primary o.context o.color
    | _, _ => pure ""
  let notes :=
    if o.showNotes || d.code == Code.timings then
      String.join <| d.notes.map fun n =>
        "  " ++ Style.note.paint o.color "note" ++ ": " ++
          (if fs.locates n.span then fs.location n.span o.pathMode ++ ": " else "") ++ n.message ++ "\n"
    else ""
  return header ++ source ++ notes

def Bag.pretty (b : Bag) (fs : FileSet) (o : PrettyOptions) : Except RenderFault String :=
  String.join <$> b.items.mapM (·.pretty fs o)

def Bag.short (b : Bag) (fs : FileSet) (mode : PathMode) : String :=
  String.join <| b.items.map fun d =>
    (if fs.locates d.primary then fs.location d.primary mode else "-") ++ ": " ++
      d.severity.lowerName ++ " " ++ d.code.id ++ ": " ++ d.message ++ "\n"

structure JsonOptions where
  positions : Bool := true
  pathMode : PathMode := .auto
  max : Int := 0
  notes : Bool := true
  deriving Inhabited

/-- The JSON location of a span, when it has one: file, byte offsets, and (when asked) the
lines and columns that are not zero. -/
def FileSet.locationJson (fs : FileSet) (s : Span) (o : JsonOptions) : Option Json.Value :=
  if !fs.locates s then none
  else
    let (start, stop) := fs.resolve s
    let positions := if !o.positions then [] else
      [("start_line", start.line), ("start_col", start.col), ("end_line", stop.line),
        ("end_col", stop.col)].filterMap fun (k, v) => if v = 0 then none else some (k, Json.Value.ofNat v)
    some <| .object <|
      [("file", .string (fs.pathIn s.file o.pathMode)), ("start_byte", .ofNat s.start),
        ("end_byte", .ofNat s.stop)] ++ positions

def Diagnostic.toJson (d : Diagnostic) (fs : FileSet) (o : JsonOptions) : Json.Value :=
  let location := match fs.locationJson d.primary o with
    | some l => [("location", l)]
    | none => []
  let notes :=
    if (o.notes || d.code == Code.timings) && !d.notes.isEmpty then
      [("notes", .array <| d.notes.map fun n =>
        .object <| ("message", .string n.message) ::
          match fs.locationJson n.span o with
          | some l => [("location", l)]
          | none => [])]
    else []
  .object <|
    [("severity", .string d.severity.name), ("code", .string d.code.id),
      ("title", .string d.code.title), ("message", .string d.message)] ++ location ++ notes

def Bag.toJsonItems (b : Bag) (fs : FileSet) (o : JsonOptions) : List Json.Value :=
  let items := if 0 < o.max ∧ o.max < b.items.length then b.items.take o.max.toNat else b.items
  items.map (·.toJson fs o)

def Bag.toJson (b : Bag) (fs : FileSet) (o : JsonOptions) : Json.Value :=
  let items := b.toJsonItems fs o
  .object [("diagnostics", .array items), ("count", .ofNat items.length)]

end BlockGraph
