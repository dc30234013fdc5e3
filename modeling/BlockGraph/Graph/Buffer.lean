import BlockGraph.Storage
/-!
# An in-memory seekable buffer

A byte slice over a backing array whose length is its capacity, and a position; writing reslices
into spare capacity or moves to a larger array, and seeking counts in 64-bit integers.
-/

namespace BlockGraph.Graph

/-- A byte slice and a position: the backing array (its length is the capacity), the length of
the slice and the position. -/
structure Buffer where
  backing : List UInt8 := []
  len : Nat := 0
  pos : Nat := 0
  deriving Inhabited, DecidableEq

inductive SeekOrigin where
  | start | current | finish
  deriving BEq, Inhabited

inductive SeekError where
  | negativePosition
  | invalidWhence
  deriving BEq, Inhabited, DecidableEq

def SeekError.message : SeekError → String
  | .negativePosition => "codegen: negative position"
  | .invalidWhence => "codegen: invalid whence"

def SeekOrigin.ofWhence? : Int → Option SeekOrigin
  | 0 => some .start
  | 1 => some .current
  | 2 => some .finish
  | _ => none

def overwrite (xs : List UInt8) (i : Nat) (p : List UInt8) : List UInt8 :=
  xs.take i ++ p ++ xs.drop (i + p.length)

/-- The capacity `append` gives a byte slice of capacity `c` that must hold `n` bytes: the growth
rule of `Storage.grownCapacity`, rounded up to the storage handed out, which for plain bytes
carries no header. -/
def appendCap (c n : Nat) : Nat :=
  let target := if 2 * c < n then n else if c < 256 then 2 * c else Storage.growLarge n n c
  if target ≤ 32760 then (Storage.blockSizes.find? (target ≤ ·)).getD target
  else (target + 8191) / 8192 * 8192

namespace Buffer

def cap (b : Buffer) : Nat := b.backing.length

def bytes (b : Buffer) : List UInt8 := b.backing.take b.len

def regrow (b : Buffer) (c : Nat) : List UInt8 := b.bytes ++ List.replicate (c - b.len) 0

/-- The backing array a write ending at `finish` goes into: the slice's own, or, when the write
runs past both the length and the capacity, a new one of at least twice the capacity and at
least 512 bytes. -/
def arrayFor (b : Buffer) (finish : Nat) : List UInt8 :=
  if b.len < finish ∧ b.cap < finish then b.regrow (max finish (max (2 * b.cap) 512))
  else b.backing

def write (b : Buffer) (p : List UInt8) : Buffer :=
  let finish := b.pos + p.length
  { backing := overwrite (b.arrayFor finish) b.pos p, len := max b.len finish, pos := finish }

def appendZeros (b : Buffer) (k : Nat) : Buffer :=
  if b.len + k ≤ b.cap then
    { b with backing := overwrite b.backing b.len (List.replicate k 0), len := b.len + k }
  else { b with backing := b.regrow (appendCap b.cap (b.len + k)), len := b.len + k }

def fill (b : Buffer) (n : Nat) : Buffer := if b.len < n then b.appendZeros (n - b.len) else b

def seek (b : Buffer) (offset : Int64) (whence : Int) : Except SeekError (Buffer × Int64) :=
  match SeekOrigin.ofWhence? whence with
  | none => .error .invalidWhence
  | some origin =>
    let base : Int64 := match origin with
      | .start => 0
      | .current => Int64.ofNat b.pos
      | .finish => Int64.ofNat b.len
    let next := base + offset
    if next < 0 then .error .negativePosition
    else
      let n := next.toInt.toNat
      .ok ({ b.fill n with pos := n }, next)

end Buffer

end BlockGraph.Graph
