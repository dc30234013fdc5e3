import BlockGraph.Digest.Sha256
import BlockGraph.Disk.Tree
import BlockGraph.Dump.FromMsgpack
import BlockGraph.Text.Quoted
import BlockGraph.Version

namespace BlockGraph.Batch

open Msgpack Dump

def cacheSchema : Nat := 1

/-- What a generation produced, counted: targets written and block ids handed out. -/
structure Stats where
  targets : Nat := 0
  nodes : Nat := 0
  deriving Inhabited, BEq

structure CacheEntry where
  name : String
  stats : Stats
  output : Option (List UInt8)
  deriving Inhabited

def cacheKey (dump : List UInt8) : String :=
  Text.hexOfBytes (Digest.sha256 (Utf8.encode Version.fingerprint ++ [0] ++ dump))

/-- A non-negative integer in the fewest bytes: a positive fixnum below 128, else the smallest
unsigned form. -/
def encodeCompact (n : Nat) : List UInt8 :=
  if n < 128 then [n.toUInt8]
  else if n < 256 then [0xCC, n.toUInt8]
  else if n < 65536 then 0xCD :: bigEndian 2 n
  else if n < Nat.pow 2 32 then 0xCE :: bigEndian 4 n
  else 0xCF :: bigEndian 8 n

def encodeBinary : Option (List UInt8) → List UInt8
  | none => [0xC0]
  | some bs =>
    let n := bs.length
    (if n < 256 then [0xC4, n.toUInt8] else if n < 65536 then 0xC5 :: bigEndian 2 n else 0xC6 :: bigEndian 4 n) ++ bs

def encodeKey (k : String) : List UInt8 := encodeString (Utf8.encode k)

def CacheEntry.encode (e : CacheEntry) : List UInt8 :=
  mapHeader 4 ++ encodeKey "Schema" ++ 0xCD :: bigEndian 2 cacheSchema ++
    encodeKey "Name" ++ encodeString (Utf8.encode e.name) ++
    encodeKey "Stats" ++ mapHeader 2 ++ encodeKey "Targets" ++ encodeCompact e.stats.targets ++
      encodeKey "Nodes" ++ encodeWord e.stats.nodes ++
    encodeKey "Output" ++ encodeBinary e.output

structure EntryReading where
  schema : Nat := 0
  entry : CacheEntry := { name := "", stats := {}, output := none }

def setStatsMember (s : Stats) (key : String) (v : Value) : MsgReading Stats :=
  if key = "Targets" then return { s with targets := (← msgInt v).toNat }
  else if key = "Nodes" then return { s with nodes := ← msgWord v }
  else pure s

def msgBinary : Value → MsgReading (Option (List UInt8))
  | .nil => pure none
  | .bytes bs => pure (some bs)
  | _ => throw (.mismatch "bytes")

def setEntryMember (r : EntryReading) (key : String) (v : Value) : MsgReading EntryReading :=
  if key = "Schema" then return { r with schema := ((← msgInt v) % 65536).toNat }
  else if key = "Name" then return { r with entry.name := ← msgText v }
  else if key = "Stats" then
    return { r with entry.stats := ← msgRecord ["Targets", "Nodes"] {} setStatsMember r.entry.stats v }
  else if key = "Output" then return { r with entry.output := ← msgBinary v }
  else pure r

def CacheEntry.decode? (bs : List UInt8) : Option CacheEntry := do
  let (v, _) ← readFirst bs
  let r ← (msgRecord ["Schema", "Name", "Stats", "Output"] {} setEntryMember {} v).toOption
  if r.schema = cacheSchema then some r.entry else none

structure Cache where
  dir : String
  deriving Inhabited

def userCacheDir (xdgCache home : Option String) : Except String String :=
  let fromHome : Except String String :=
    match home with
    | some h => if h = "" then .error "$HOME is not defined" else .ok (Path.join h ".cache")
    | none => .error "$HOME is not defined"
  match xdgCache with
  | some base => if base = "" then fromHome else .ok base
  | none => fromHome

/-- Opens the cache of an application under the user's cache directory, making its directory. -/
def Cache.open (app : String) (xdgCache home : Option String) (t : Disk.Tree) (cwd : Disk.Location) :
    Except String (Cache × Disk.Tree) := do
  let base ← userCacheDir xdgCache home
  let dir := Path.join base app
  let t ← t.mkdirAll cwd dir.toList
  return ({ dir }, t)

def Cache.pathFor (c : Cache) (key : String) : String := Path.join (Path.join c.dir "graphs") (key ++ ".mp")

def Cache.get? (c : Cache) (t : Disk.Tree) (cwd : Disk.Location) (key : String) : Option CacheEntry :=
  match t.readFile cwd (c.pathFor key) with
  | .ok bs => CacheEntry.decode? bs
  | .error _ => none

/-- The tree with an entry stored under a key; fails when its directory cannot be made or a
directory stands at its path. -/
def Cache.put (c : Cache) (t : Disk.Tree) (cwd : Disk.Location) (key : String) (e : CacheEntry) :
    Except String Disk.Tree := do
  let path := c.pathFor key
  let t ← t.mkdirAll cwd (Path.dir path).toList
  match t.creatable cwd path with
  | .ok l => return t.withFile l e.encode
  | .error f => throw (f.describe "rename" path)

def Cache.dropAll (c : Cache) (t : Disk.Tree) (cwd : Disk.Location) : Disk.Tree :=
  match t.locate cwd c.dir with
  | .ok l => t.clearBelow l
  | .error _ => t

end BlockGraph.Batch
