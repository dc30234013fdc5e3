import BlockGraph.Graph.Buffer

namespace BlockGraph.Graph

inductive Piece where
  | text (s : String)
  | stepBack
  deriving BEq, Inhabited, Repr

/-- Pieces written so far (latest first), and whether the last one ended with a comma. -/
structure Writer where
  pieces : List Piece := []
  comma : Bool := false
  deriving Inhabited

namespace Writer

def str (w : Writer) (s : String) : Writer :=
  if s = "" then w else { pieces := .text s :: w.pieces, comma := s.back == ',' }

def close (w : Writer) (closer : String) : Writer :=
  let w := if w.comma then { pieces := .stepBack :: w.pieces, comma := false } else w
  w.str (closer ++ ",")

def closeLast (w : Writer) (closer : String) : Writer :=
  let w := if w.comma then { pieces := .stepBack :: w.pieces, comma := false } else w
  w.str closer

def written (w : Writer) : List Piece := w.pieces.reverse

end Writer

/-- The text a buffer holds after the pieces, given the text before the last write (`done`)
and that last write (`last`); a step back shortens the last write. -/
def applyPieces (done last : String) : List Piece → String
  | [] => done ++ last
  | .text s :: ps => applyPieces (done ++ last) s ps
  | .stepBack :: ps =>
    if last = "" then applyPieces (done.dropEnd 1).toString "" ps
    else applyPieces done (last.dropEnd 1).toString ps

def textOf (ps : List Piece) : String := applyPieces "" "" ps

def textBytes (s : String) : List UInt8 := s.toUTF8.data.toList

/-- The buffer after a stream of pieces: each text is written at the position, each step back
seeks one byte back from it. The first seek that fails stops the stream. -/
def Buffer.play (b : Buffer) : List Piece → Except SeekError Buffer
  | [] => .ok b
  | .text s :: ps => (b.write (textBytes s)).play ps
  | .stepBack :: ps => do
    let (b', _) ← b.seek (-1) 1
    b'.play ps

def bytesWritten (ps : List Piece) : Nat :=
  ps.foldl (fun n p => match p with | .text s => n + s.utf8ByteSize | .stepBack => n) 0

end BlockGraph.Graph
