
namespace BlockGraph

/-- A byte range inside one source file. -/
structure Span where
  file : Nat := 0
  start : Nat := 0
  stop : Nat := 0
  deriving BEq, DecidableEq, Inhabited, Repr

namespace Span

/-- The span of nothing: file 0, bytes 0 to 0, given to nodes that no source text wrote. -/
def none : Span := {}

def len (s : Span) : Nat := (s.stop + Nat.pow 2 32 - s.start) % Nat.pow 2 32

def render (s : Span) : String := toString s.file ++ ":" ++ toString s.start ++ "-" ++ toString s.stop

def cover (s t : Span) : Span :=
  if s.file != t.file then s
  else { s with start := min s.start t.start, stop := max s.stop t.stop }

def lt (s t : Span) : Bool :=
  s.file < t.file || (s.file == t.file && (s.start < t.start || (s.start == t.start && s.stop < t.stop)))

end Span

end BlockGraph
