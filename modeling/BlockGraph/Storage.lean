
namespace BlockGraph.Storage

def blockSizes : List Nat :=
  [8, 16, 24, 32, 48, 64, 80, 96, 112, 128, 144, 160, 176, 192, 208, 224, 240, 256, 288, 320,
   352, 384, 416, 448, 480, 512, 576, 640, 704, 768, 896, 1024, 1152, 1280, 1408, 1536, 1792,
   2048, 2304, 2688, 3072, 3200, 3456, 4096, 4864, 5376, 6144, 6528, 6784, 6912, 8192, 9472,
   9728, 10240, 10880, 12288, 13568, 14336, 16384, 18432, 19072, 20480, 21760, 24576, 27264,
   28672, 32768]

/-- The usable bytes of the storage handed out for a request of `bytes` bytes: the smallest
block that holds the request, less the 8-byte header that requests above 512 bytes carry; or,
past the blocks, the request rounded up to whole pages of 8 KiB. -/
def storageBytes (bytes : Nat) : Nat :=
  if bytes ≤ 32760 then
    let request := if 512 < bytes then bytes + 8 else bytes
    match blockSizes.find? (request ≤ ·) with
    | some b => b - (request - bytes)
    | none => bytes
  else (bytes + 8191) / 8192 * 8192

def growLarge (needed : Nat) : Nat → Nat → Nat
  | 0, cap => cap
  | fuel + 1, cap => if needed ≤ cap then cap else growLarge needed fuel (cap + (cap + 768) / 4)

/-- The number of items a list's storage of `cap` items grows to when it must hold `needed`
items: twice as many, or `needed` if that is more, up to 256 items, more slowly past that;
then as many as the storage handed out holds. -/
def grownCapacity (itemSize cap needed : Nat) : Nat :=
  let target :=
    if 2 * cap < needed then needed
    else if cap < 256 then 2 * cap
    else growLarge needed needed cap
  if itemSize = 0 then target else storageBytes (target * itemSize) / itemSize

def reach {α : Type} (itemSize : Nat) (empty : α) (store : List α) (i : Nat) : List α :=
  if i < store.length then store
  else store.take i ++ List.replicate (grownCapacity itemSize store.length (i + 1) - i) empty

def refSize : Nat := 8

example : grownCapacity refSize 0 1 = 1 := by decide
example : grownCapacity refSize 2 3 = 4 := by decide
example : grownCapacity refSize 64 65 = 143 := by decide

end BlockGraph.Storage
