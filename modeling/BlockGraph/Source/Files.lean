import BlockGraph.Source.Path
import BlockGraph.Source.Span
import BlockGraph.Text.Utf8

namespace BlockGraph

structure SourceFile where
  id : Nat
  path : String
  content : List UInt8
  lineFeeds : List Nat
  isVirtual : Bool
  hadCrlf : Bool
  deriving Inhabited

structure LineCol where
  line : Nat
  col : Nat
  deriving BEq, Inhabited, Repr

def dropCrBeforeLf : List UInt8 → List UInt8
  | [] => []
  | 0x0D :: 0x0A :: rest => 0x0A :: dropCrBeforeLf rest
  | b :: rest => b :: dropCrBeforeLf rest

def lineFeedOffsets (base : Nat) : List UInt8 → List Nat
  | [] => []
  | b :: rest => if b == 0x0A then base :: lineFeedOffsets (base + 1) rest else lineFeedOffsets (base + 1) rest

/-- The first index in `[lo, hi)` whose line feed is not before `off`, or `hi`, found by
halving the range; in a file's ordered feeds, from `[0, length)`, the number of feeds before
`off`. -/
def firstFeedFrom (lineFeeds : List Nat) (off lo hi : Nat) (hhi : hi ≤ lineFeeds.length) : Nat :=
  if h : lo < hi then
    if lineFeeds.get ⟨(lo + hi) / 2, by omega⟩ < off then
      firstFeedFrom lineFeeds off ((lo + hi) / 2 + 1) hi hhi
    else firstFeedFrom lineFeeds off lo ((lo + hi) / 2) (by omega)
  else lo
termination_by hi - lo

/-- The position of a byte offset: a search of the line feeds for the first one not before
the offset gives the line, and the column counts bytes from the start of that line (as a 32-bit
number, so the column after `2^32 - 1` bytes wraps to 0). -/
def lineColAt (lineFeeds : List Nat) (off : Nat) : LineCol :=
  let lo := firstFeedFrom lineFeeds off 0 lineFeeds.length (Nat.le_refl _)
  let lineStart := if lo > 0 then (lineFeeds[lo - 1]?).getD 0 + 1 else 0
  { line := lo + 1, col := (off + 1 - lineStart) % Nat.pow 2 32 }

namespace SourceFile

def lineBytes (f : SourceFile) (n : Nat) : List UInt8 :=
  let size := f.content.length
  let start? : Option Nat :=
    if n = 0 then none
    else if n = 1 then some 0
    else (f.lineFeeds[n - 2]?).map (· + 1)
  match start? with
  | none => []
  | some start =>
    let stop := min size ((f.lineFeeds[n - 1]?).getD size)
    if start ≥ size then [] else (f.content.drop start).take (stop - start)

def line (f : SourceFile) (n : Nat) : String := Utf8.toText (f.lineBytes n)

end SourceFile

structure FileSet where
  files : List SourceFile := []
  baseDir : String := ""
  deriving Inhabited

namespace FileSet

def size (fs : FileSet) : Nat := fs.files.length

def get? (fs : FileSet) (id : Nat) : Option SourceFile := fs.files[id]?

def findPath? (fs : FileSet) (path : String) : Option SourceFile :=
  let p := Path.clean path
  fs.files.reverse.find? (·.path == p)

def add (fs : FileSet) (path : String) (content : List UInt8) (isVirtual : Bool) : FileSet × Nat :=
  let normal := dropCrBeforeLf content
  let id := fs.files.length
  let file : SourceFile :=
    { id, path := Path.clean path, content := normal, lineFeeds := lineFeedOffsets 0 normal,
      isVirtual, hadCrlf := normal.length != content.length }
  ({ fs with files := fs.files ++ [file] }, id)

def resolve (fs : FileSet) (s : Span) : LineCol × LineCol :=
  match fs.get? s.file with
  | none => (⟨1, 1⟩, ⟨1, 1⟩)
  | some f => (lineColAt f.lineFeeds s.start, lineColAt f.lineFeeds s.stop)

/-- The path of a file as diagnostics show it: relative to the base directory when both are
absolute, else as stored; `<unknown>` for a number that names no file. -/
def displayPath (fs : FileSet) (id : Nat) : String :=
  match fs.get? id with
  | none => "<unknown>"
  | some f =>
    if fs.baseDir = "" ∨ !Path.isAbs f.path then f.path
    else (Path.rel fs.baseDir f.path).getD f.path

end FileSet

end BlockGraph
