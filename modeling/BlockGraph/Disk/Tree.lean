import BlockGraph.Source.Path
import BlockGraph.Text.Utf8

namespace BlockGraph.Disk

abbrev Location := List String

def Location.text (l : Location) : String := "/" ++ "/".intercalate l

structure Tree where
  dirs : List Location
  files : List (Location × List UInt8)
  deriving Inhabited

inductive Fault where
  | missing
  | notDirectory
  | isDirectory
  | exists
  deriving DecidableEq, Inhabited

def Fault.message : Fault → String
  | .missing => "no such file or directory"
  | .notDirectory => "not a directory"
  | .isDirectory => "is a directory"
  | .exists => "file exists"

def Fault.describe (f : Fault) (op path : String) : String :=
  op ++ " " ++ path ++ ": " ++ f.message

namespace Tree

def isDir (t : Tree) (l : Location) : Bool := t.dirs.contains l

def fileAt? (t : Tree) (l : Location) : Option (List UInt8) := (t.files.find? (·.1 == l)).map (·.2)

def isFile (t : Tree) (l : Location) : Bool := t.files.any (·.1 == l)

def withDir (t : Tree) (l : Location) : Tree :=
  let above := (List.range (l.length + 1)).map l.take
  { t with dirs := t.dirs ++ above.filter fun d => !t.dirs.contains d }

/-- The tree with a file of these bytes at a location, replacing one that was there, and with
the directories above it. -/
def withFile (t : Tree) (l : Location) (bytes : List UInt8) : Tree :=
  let t := t.withDir l.dropLast
  if t.isFile l then { t with files := t.files.map fun (k, v) => if k == l then (k, bytes) else (k, v) }
  else { t with files := t.files ++ [(l, bytes)] }

def enter (t : Tree) (here : Location) : List String → Except Fault Location
  | [] => .ok here
  | n :: rest =>
    if n = "" || n = "." then t.enter here rest
    else if n = ".." then t.enter here.dropLast rest
    else
      let next := here ++ [n]
      if t.isDir next then t.enter next rest
      else if t.isFile next then .error .notDirectory
      else .error .missing

def startOf (cwd : Location) (path : String) : Location := if Path.isAbs path then [] else cwd

def parentOf (t : Tree) (cwd : Location) (path : String) : Except Fault (Location × String) := do
  if path = "" then throw .missing
  let names := Path.elements path
  let dir ← t.enter (startOf cwd path) names.dropLast
  return (dir, names.getLastD "")

def locate (t : Tree) (cwd : Location) (path : String) : Except Fault Location := do
  let (dir, last) ← t.parentOf cwd path
  if last = "" || last = "." then return dir
  if last = ".." then return dir.dropLast
  let l := dir ++ [last]
  if t.isDir l || t.isFile l then return l
  throw .missing

def stat (t : Tree) (cwd : Location) (path : String) : Except Fault Bool := do
  let l ← t.locate cwd path
  return t.isDir l

def readFile (t : Tree) (cwd : Location) (path : String) : Except String (List UInt8) :=
  match t.locate cwd path with
  | .error f => .error (f.describe "open" path)
  | .ok l =>
    match t.fileAt? l with
    | some bytes => .ok bytes
    | none => .error (Fault.isDirectory.describe "read" path)

def creatable (t : Tree) (cwd : Location) (path : String) : Except Fault Location := do
  let (dir, last) ← t.parentOf cwd path
  if last = "" || last = "." || last = ".." then throw .isDirectory
  let l := dir ++ [last]
  if t.isDir l then throw .isDirectory
  return l

/-- The tree after writing a file, made if it is new and replaced if not; the error text names
the failed operation. -/
def writeFile (t : Tree) (cwd : Location) (path : String) (bytes : List UInt8) : Except String Tree :=
  match t.creatable cwd path with
  | .error f => .error (f.describe "open" path)
  | .ok l => .ok (t.withFile l bytes)

def mkdir (t : Tree) (cwd : Location) (path : String) : Except String Tree :=
  let trimmed := String.ofList (path.toList.reverse.dropWhile (· = '/')).reverse
  let named := if trimmed = "" && path ≠ "" then "/" else trimmed
  match t.parentOf cwd named with
  | .error f => .error (f.describe "mkdir" path)
  | .ok (dir, last) =>
    if last = "" || last = "." || last = ".." then .ok t
    else
      let l := dir ++ [last]
      if t.isDir l then .ok t
      else if t.isFile l then .error (Fault.exists.describe "mkdir" path)
      else .ok (t.withDir l)

/-- The text of a path up to the separator before its last element, trailing separators
ignored; the rest of the path after that separator is dropped, and so is the separator. -/
def parentText (p : List Char) : List Char :=
  match (p.reverse.dropWhile (· = '/')).dropWhile (· ≠ '/') with
  | [] => []
  | _ :: rest => rest.reverse

theorem parentText_length_le (p : List Char) : (parentText p).length ≤ p.length - 1 := by
  unfold parentText
  split
  · simp
  · rename_i rest h
    have h1 : ((p.reverse.dropWhile (· = '/')).dropWhile (· ≠ '/')).length ≤ p.length :=
      Nat.le_trans (List.dropWhile_suffix _).length_le
        (Nat.le_trans (List.dropWhile_suffix _).length_le (by simp))
    rw [h] at h1
    simp only [List.length_cons] at h1
    simp only [List.length_reverse]
    omega

set_option linter.unusedVariables false in
/-- The tree after making a directory and every missing directory above it, the way a path's
parents are made one by one from the first that is missing. Fails at the first path, the
path itself or one of its parents, that names a file. -/
def mkdirAll (t : Tree) (cwd : Location) (p : List Char) : Except String Tree :=
  match t.stat cwd (String.ofList p) with
  | .ok true => .ok t
  | .ok false => .error (Fault.notDirectory.describe "mkdir" (String.ofList p))
  | .error _ =>
    if hp : parentText p = [] then t.mkdir cwd (String.ofList p)
    else
      match t.mkdirAll cwd (parentText p) with
      | .error e => .error e
      | .ok t => t.mkdir cwd (String.ofList p)
termination_by p.length
decreasing_by
  have h1 := parentText_length_le p
  have h2 : (parentText p).length ≠ 0 := by simpa [List.length_eq_zero_iff] using hp
  omega

def clearBelow (t : Tree) (l : Location) : Tree :=
  let below (k : Location) : Bool := k.length > l.length && k.take l.length == l
  { dirs := t.dirs.filter (!below ·), files := t.files.filter (!below ·.1) }

def entries (t : Tree) (l : Location) : List (String × Bool) :=
  let child (k : Location) : Option String :=
    if k.length = l.length + 1 && k.take l.length == l then k.getLast? else none
  let names := (t.dirs.filterMap child).map (·, true) ++ (t.files.filterMap (child ·.1)).map (·, false)
  names.mergeSort fun a b => Utf8.textLE a.1 b.1

/-- The files below a directory in walk order, named by joining the names to `text`: the
entries of a directory in name order, a directory's entries right after it. A directory for
which `skip` holds is not entered. -/
def walkFiles (t : Tree) (skip : String → Bool) : Nat → Location → String → List String
  | 0, _, _ => []
  | fuel + 1, l, text =>
    (t.entries l).flatMap fun (name, isDir) =>
      let path := Path.join text name
      if isDir then (if skip name then [] else t.walkFiles skip fuel (l ++ [name]) path)
      else [path]

/-- The files below a directory, in walk order, named from `text`; directories below it whose
name `skip` holds for are passed over. -/
def filesBelow (t : Tree) (l : Location) (text : String) (skip : String → Bool) : List String :=
  t.walkFiles skip (t.dirs.length + 1) l text

def changedSince (after before : Tree) : List (Location × List UInt8) :=
  after.files.filter fun (l, bytes) => before.fileAt? l != some bytes

def removedSince (after before : Tree) : List Location :=
  (before.files.filter fun (l, _) => !after.isFile l).map (·.1)

end Tree

end BlockGraph.Disk
