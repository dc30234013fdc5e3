import BlockGraph.Batch.Event
import BlockGraph.Unicode.Width

namespace BlockGraph.Progress

open Batch

def spinnerFrames : List String := ["⣾ ", "⣽ ", "⣻ ", "⢿ ", "⡿ ", "⣟ ", "⣯ ", "⣷ "]

structure Item where
  path : String
  status : String := "queued"
  stage : Option Stage := none
  finished : Bool := false
  deriving Inhabited

structure Board where
  title : String
  items : List Item
  frame : Nat := 0
  width : Nat := 80
  barWidth : Nat := 76
  done : Bool := false
  deriving Inhabited

def Board.new (title : String) (paths : List String) : Board :=
  { title, items := paths.map fun path => { path } }

def Item.update (it : Item) (e : Batch.Event) : Item :=
  let it := { it with stage := some e.stage }
  match e.status with
  | .queued => { it with status := "queued" }
  | .working => { it with status := e.stage.name }
  | .error => { it with status := "error", finished := true }
  | .cached => { it with status := "cached", finished := true }
  | .done => if e.stage = .codegen then { it with status := "done", finished := true } else it
  | .other _ => it

def lastIndexOf (items : List Item) (path : String) : Option Nat :=
  (items.zipIdx.filter (·.1.path == path)).getLast?.map (·.2)

def Board.apply (b : Board) (e : Batch.Event) : Board :=
  match lastIndexOf b.items e.file with
  | none => b
  | some i =>
    { b with items := b.items.modify i fun it => if it.finished then it else it.update e }

/-- The share of a build that a dump has done once it is in a stage, in tenths: load 1, scope 3,
resolve 4, lint 6, codegen 7; nothing before its first stage, or in a stage of another name. -/
def stageTenths : Option Stage → Nat
  | some .load => 1
  | some .scope => 3
  | some .resolve => 4
  | some .lint => 6
  | some .codegen => 7
  | _ => 0

/-- The share of a build that a dump has done, in tenths: all of it once the dump is finished. -/
def Item.tenths (it : Item) : Nat := if it.finished then 10 else stageTenths it.stage

/-- How far the build is: the mean of the shares its dumps have done, taken exactly. After each
event for a listed dump the bar is set to move there, a move only a running terminal shows. -/
def Board.percent (b : Board) : Rat :=
  mkRat (Int.ofNat (b.items.foldr (fun it n => it.tenths + n) 0)) (10 * b.items.length)

def Board.finish (b : Board) : Board := { b with done := true }

def Board.tick (b : Board) : Board :=
  if b.done then b else { b with frame := (b.frame + 1) % spinnerFrames.length }

def Board.resize (b : Board) (w : Int) : Board :=
  if w > 0 then { b with width := w.toNat, barWidth := max (w.toNat - 4) 10 } else b

def padLeft (width : Nat) (s : String) : String :=
  String.ofList (List.replicate (width - s.length) ' ') ++ s

def bar (width percent : Nat) : String :=
  let room := width - 5
  let filled := (room * percent + 50) / 100
  String.ofList (List.replicate filled '█' ++ List.replicate (room - filled) '░')
    ++ " " ++ padLeft 3 (toString percent) ++ "%"

/-- Text as a styled block lays it out: each tab becomes four blanks, and text of several lines
has each line padded on the right with blanks to the cells of the widest. -/
def styledBlock (header : String) : String :=
  let text := header.replace "\t" "    "
  match text.splitOn "\n" with
  | [_] => text
  | lines =>
    let widest := (lines.map Unicode.textCells).foldl max 0
    "\n".intercalate (lines.map fun l =>
      l ++ String.ofList (List.replicate (widest - Unicode.textCells l) ' '))

def Board.view (b : Board) : String :=
  if b.items.isEmpty then ""
  else
    let header :=
      if b.done then "done: " ++ b.title
      else spinnerFrames.getD b.frame "" ++ " " ++ b.title
    let nameWidth := max (b.width - 16) 20
    let lines := b.items.map fun it =>
      "  " ++ styledBlock (padLeft 12 it.status) ++ " " ++ Unicode.truncate it.path nameWidth "..." ++ "\n"
    styledBlock header ++ "\n\n" ++ String.join lines ++ "\n" ++ bar b.barWidth (if b.done then 100 else 0) ++ "\n"

end BlockGraph.Progress
