import BlockGraph.Manifest.Project
import BlockGraph.Disk.Glob
import BlockGraph.Text.Quoted
import BlockGraph.Text.Case

namespace BlockGraph.Batch

open Manifest

def outputSuffix : String := ".blocks.json"

def isDump (path : String) : Bool :=
  let e := Text.lower (Path.ext path)
  e = ".mp" || e = ".msgpack" || e = ".json"

/-- The dumps a path stands for: the path itself when it names a file, every dump below it, in
order, when it names a directory. Fails when the path names nothing. -/
def collectDumps (t : Disk.Tree) (cwd : Disk.Location) (path : String) :
    Except String (List String) :=
  match t.locate cwd path with
  | .error f => .error ("failed to stat " ++ Text.quote path ++ ": " ++ f.describe "stat" path)
  | .ok l =>
    if !t.isDir l then .ok [path]
    else
      let skip (name : String) : Bool := name.startsWith "." || name = "build"
      let files := t.filesBelow l path skip
      .ok ((files.filter fun p => isDump p && !p.endsWith outputSuffix).mergeSort Utf8.textLE)

def sortedUnique (ps : List String) : List String :=
  (ps.mergeSort Utf8.textLE).eraseDups

def manifestInputs (m : Manifest) (t : Disk.Tree) (cwd : Disk.Location) :
    Except String (List String) := do
  let patterns := if m.config.inputs.isEmpty then ["."] else m.config.inputs
  let files ← patterns.foldlM (fun files pattern => do
    let some found := t.glob cwd (Path.join m.root pattern)
      | throw (m.path ++ ": bad input pattern " ++ Text.quote pattern ++ ": syntax error in pattern")
    if found.isEmpty then throw (m.path ++ ": input " ++ Text.quote pattern ++ " matches nothing")
    found.foldlM (fun files p => return files ++ (← collectDumps t cwd p)) files) []
  return sortedUnique files

def noManifestMessage : String :=
  "no blockc.toml found\nplease pass the dumps explicitly, e.g.:\n  blockc build path/to/game.ast.mp"

/-- The dumps a command works on, and the manifest that governs the working directory: the
dumps named, or without names the manifest's. A manifest that cannot be read is an error even
when dumps are named. -/
def resolveInputs (t : Disk.Tree) (cwd : Disk.Location) (args : List String) :
    Except String (List String × Option Manifest) := do
  let manifest ← Manifest.load t cwd
  if args.isEmpty then
    match manifest with
    | none => throw noManifestMessage
    | some m => return (← manifestInputs m t cwd, manifest)
  let files ← args.foldlM (fun files arg => return files ++ (← collectDumps t cwd arg)) []
  if files.isEmpty then throw ("no dumps found in " ++ ", ".intercalate args)
  return (sortedUnique files, manifest)

def displayPath (base path : String) : String :=
  if base = "" || path = "" then path
  else
    match Path.rel base path with
    | some r => if r.startsWith ".." then path else r
    | none => path

end BlockGraph.Batch
