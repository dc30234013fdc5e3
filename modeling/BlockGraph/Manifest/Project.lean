import BlockGraph.Manifest.Toml
import BlockGraph.Disk.Tree
import BlockGraph.Text.Case
import BlockGraph.Text.Utf8

namespace BlockGraph.Manifest

open Toml

structure Config where
  name : String := ""
  inputs : List String := []
  output : String := ""
  maxDiagnostics : Int := 0
  jobs : Int := 0
  deriving Inhabited

/-- A manifest found on disk: its path, the directory it stands in, and its contents. -/
structure Manifest where
  path : String
  root : String
  config : Config
  deriving Inhabited

inductive ManifestError where
  | unreadable (reason : String)
  | noPackage
  | noName
  | unknownKey (key : String)
  | negativeMaxDiagnostics
  | negativeJobs
  deriving Inhabited

def ManifestError.message (path : String) : ManifestError → String
  | .unreadable r => path ++ ": failed to parse TOML: " ++ r
  | .noPackage => path ++ ": missing [package]"
  | .noName => path ++ ": missing [package].name"
  | .unknownKey k => path ++ ": unknown key " ++ k
  | .negativeMaxDiagnostics => path ++ ": [build].max_diagnostics must not be negative"
  | .negativeJobs => path ++ ": [build].jobs must not be negative"

def fieldFor (fields : List String) (key : String) : Option String :=
  if fields.contains key then some key else fields.find? (Text.foldKey · == Text.foldKey key)

def tableEntries? : Node → Option (List (String × Node))
  | .table es => some es
  | _ => none

/-- A manifest being decoded: the fields filled and the key paths used. -/
structure Decoding where
  config : Config := {}
  used : List (List String) := []

def mismatch (key : List String) : ManifestError := .unreadable ("type mismatch for " ++ keyText key)

def textOf (key : List String) : Node → Except ManifestError String
  | .string s => .ok s
  | _ => .error (mismatch key)

def integerOf (key : List String) : Node → Except ManifestError Int
  | .integer n => .ok n
  | _ => .error (mismatch key)

def textsOf (key : List String) : Node → Except ManifestError (List String)
  | .array items => items.mapM (textOf key)
  | _ => .error (mismatch key)

def Decoding.package (d : Decoding) (outer : String) (es : List (String × Node)) :
    Except ManifestError Decoding :=
  es.foldlM (fun d (k, v) =>
    match fieldFor ["name"] k with
    | some _ => do
      let name ← textOf [outer, k] v
      pure { d with config.name := name, used := d.used ++ [[outer, k]] }
    | none => pure d) d

def Decoding.build (d : Decoding) (outer : String) (es : List (String × Node)) :
    Except ManifestError Decoding :=
  es.foldlM (fun d (k, v) => do
    let key := [outer, k]
    let d := match fieldFor ["inputs", "output", "max_diagnostics", "jobs"] k with
      | some _ => { d with used := d.used ++ [key] }
      | none => d
    match fieldFor ["inputs", "output", "max_diagnostics", "jobs"] k with
    | some "inputs" => return { d with config.inputs := ← textsOf key v }
    | some "output" => return { d with config.output := ← textOf key v }
    | some "max_diagnostics" => return { d with config.maxDiagnostics := ← integerOf key v }
    | some "jobs" => return { d with config.jobs := ← integerOf key v }
    | _ => pure d) d

def decode (doc : Document) : Except ManifestError Decoding :=
  doc.root.foldlM (fun d (k, v) =>
    match fieldFor ["package", "build"] k with
    | some field => do
      let es ← match tableEntries? v with
        | some es => pure es
        | none => throw (mismatch [k])
      let d := { d with used := d.used ++ [[k]] }
      if field = "package" then d.package k es else d.build k es
    | none => pure d) {}

def isSpace (c : Char) : Bool :=
  c = ' ' || c = '\t' || c = '\n' || c.toNat = 11 || c.toNat = 12 || c = '\r' || c.toNat = 0x85 ||
    c.toNat = 0xA0 || c.toNat = 0x1680 || (0x2000 ≤ c.toNat && c.toNat ≤ 0x200A) ||
    c.toNat = 0x2028 || c.toNat = 0x2029 || c.toNat = 0x202F || c.toNat = 0x205F || c.toNat = 0x3000

def trimSpace (s : String) : String :=
  String.ofList ((s.toList.dropWhile isSpace).reverse.dropWhile isSpace).reverse

/-- The bytes after a leading byte order mark: that of UTF-16 in either byte order (which some
tools write before UTF-8 text), or that of UTF-8. -/
def dropByteOrderMark : List UInt8 → List UInt8
  | 0xFF :: 0xFE :: rest => rest
  | 0xFE :: 0xFF :: rest => rest
  | 0xEF :: 0xBB :: 0xBF :: rest => rest
  | bs => bs

def Config.read (bytes : List UInt8) : Except ManifestError Config := do
  let text := dropByteOrderMark bytes
  let s := Utf8.toText text
  if Utf8.encode s != text then throw (.unreadable "invalid UTF-8")
  let some doc := Document.read s | throw (.unreadable "syntax error")
  let d ← decode doc
  let package := doc.root.lookup "package"
  if package.isNone then throw .noPackage
  let named := (package.bind tableEntries? |>.bind (·.lookup "name")).isSome
  if !named || trimSpace d.config.name = "" then throw .noName
  match doc.keys.find? (fun k => !d.used.contains k) with
  | some k => throw (.unknownKey (keyText k))
  | none => pure ()
  if d.config.maxDiagnostics < 0 then throw .negativeMaxDiagnostics
  if d.config.jobs < 0 then throw .negativeJobs
  return d.config

def fileName : String := "blockc.toml"

/-- The manifest in the directory `dir` or the nearest one above it, searching up to the root:
its path, or none. -/
def find (t : Disk.Tree) (dir : String) : Nat → Option String
  | 0 => none
  | n + 1 =>
    let candidate := Path.join dir fileName
    match t.stat [] candidate with
    | .ok _ => some candidate
    | .error _ =>
      let parent := Path.dir dir
      if parent = dir then none else find t parent n

def load (t : Disk.Tree) (cwd : Disk.Location) : Except String (Option Manifest) :=
  let dir := Path.clean (Disk.Location.text cwd)
  match find t dir (cwd.length + 2) with
  | none => .ok none
  | some path =>
    match t.readFile [] path with
    | .error e => .error ((ManifestError.unreadable e).message path)
    | .ok text =>
      match Config.read text with
      | .error e => .error (e.message path)
      | .ok config => .ok (some { path, root := Path.dir path, config })

/-- The output directory: the manifest's, trimmed, else `build`; a relative one is taken from
the manifest's directory. -/
def Manifest.outputDir (m : Manifest) : String :=
  let out := trimSpace m.config.output
  let out := if out = "" then "build" else out
  if Path.isAbs out then out else Path.join m.root out

end BlockGraph.Manifest
