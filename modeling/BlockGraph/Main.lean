import BlockGraph.Cli.Run

namespace BlockGraph.Tool

def absolute (cwd : Disk.Location) (path : String) : String :=
  if Path.isAbs path then Path.clean path else Path.join (Disk.Location.text cwd) path

/-- The picture with what stands at a path: a file with its bytes, a directory, or nothing. -/
def look (cwd : Disk.Location) (t : Disk.Tree) (path : String) : IO Disk.Tree := do
  if path = "" then return t
  let full := absolute cwd path
  let place := Path.cleanElements full
  try
    let bytes ← IO.FS.readBinFile full
    return t.withFile place bytes.toList
  catch e =>
    match e with
    | .inappropriateType .. => return t.withDir place
    | _ => return t

def lookAround (cwd : Disk.Location) (t : Disk.Tree) (path : String) : IO Disk.Tree := do
  let t ← look cwd t (Path.dir (absolute cwd path))
  look cwd t path

/-- The manifests of the working directory and the directories above it, with the plain
inputs of each that reads. -/
def lookAtManifests (cwd : Disk.Location) (t : Disk.Tree) : IO Disk.Tree := do
  let mut t := t
  for n in List.range (cwd.length + 1) do
    let dir := Disk.Location.text (cwd.take n)
    let path := Path.join dir Manifest.fileName
    t ← look cwd t path
    match t.readFile [] path with
    | .ok bytes =>
      match Manifest.Config.read bytes with
      | .ok config =>
        for input in config.inputs do
          if !Disk.hasMeta input then t ← look cwd t (Path.join dir input)
      | .error _ => pure ()
    | .error _ => pure ()
  return t

def picture (cwd : Disk.Location) (cacheDir : Option String) (words : List String) : IO Disk.Tree := do
  let mut t : Disk.Tree := ({ dirs := [], files := [] } : Disk.Tree).withDir cwd
  t ← lookAtManifests cwd t
  for w in words do
    t ← lookAround cwd t w
  if let some dir := cacheDir then
    t ← lookAround cwd t (Path.join dir "graphs")
    for (_, bytes) in t.files do
      t ← look cwd t (Path.join (Path.join dir "graphs") (Batch.cacheKey bytes ++ ".mp"))
  return t

def settle (before after : Disk.Tree) : IO Unit := do
  for place in after.removedSince before do
    IO.FS.removeFile (Disk.Location.text place)
  for d in before.dirs do
    if !after.dirs.any (d.isPrefixOf ·) then IO.FS.removeDirAll (Disk.Location.text d)
  for d in after.dirs do
    if !before.dirs.contains d && !d.isEmpty then IO.FS.createDirAll (Disk.Location.text d)
  for (place, bytes) in after.changedSince before do
    IO.FS.writeBinFile (Disk.Location.text place) (ByteArray.mk bytes.toArray)

end BlockGraph.Tool

open BlockGraph BlockGraph.Tool in
def main (args : List String) : IO UInt32 := do
  let cwd := Path.cleanElements (toString (← IO.currentDir))
  let xdgCache ← IO.getEnv "XDG_CACHE_HOME"
  let home ← IO.getEnv "HOME"
  let cacheDir := (Batch.userCacheDir xdgCache home).toOption.map (Path.join · "blockc")
  let before ← picture cwd cacheDir args
  let env : Cli.Surroundings :=
    { cwd, xdgCache, home, origin := ⟨"00:00:00.000", "1970-01-01T00:00:00Z", 1⟩ }
  let t := Cli.run env args before []
  settle before t.tree
  (← IO.getStdout).write (ByteArray.mk (Utf8.encode t.out).toArray)
  (← IO.getStderr).write (ByteArray.mk (Utf8.encode t.err).toArray)
  return if t.error.isSome then 1 else 0
