import BlockGraph.Json.Value

namespace BlockGraph.Timing

/-- One timed step of a build. -/
structure Phase where
  name : String
  start : Nat
  duration : Nat
  note : String
  deriving Inhabited

/-- The phases of one build, in the order they began. -/
structure Timer where
  phases : Array Phase := #[]
  deriving Inhabited

def Timer.begin (t : Timer) (name : String) (now : Nat) : Nat × Timer :=
  (t.phases.size, { phases := t.phases.push { name, start := now, duration := 0, note := "" } })

def Timer.finish (t : Timer) (i : Int) (note : String) (now : Nat) : Timer :=
  if i < 0 then t
  else { phases := t.phases.modify i.toNat fun p => { p with duration := now - p.start, note } }

def Timer.total (t : Timer) : Nat := t.phases.foldl (fun n p => n + p.duration) 0

/-- A duration in milliseconds, exactly, as a decimal without trailing zeros. -/
def millisText (ns : Nat) : String :=
  let whole := toString (ns / 1000000)
  let frac := toString (ns % 1000000 + 1000000) |>.drop 1 |>.toString
  let frac := String.ofList (frac.toList.reverse.dropWhile (· = '0')).reverse
  if frac.isEmpty then whole else whole ++ "." ++ frac

def millisFixed (ns : Nat) : String :=
  let h := (ns + 5000) / 10000
  toString (h / 100) ++ "." ++ (toString (h % 100 + 100) |>.drop 1 |>.toString)

def millisOnePlace (ns : Nat) : String :=
  let t := (ns + 50000) / 100000
  toString (t / 10) ++ "." ++ toString (t % 10)

def padRight (width : Nat) (s : String) : String :=
  s ++ String.ofList (List.replicate (width - s.length) ' ')

def padLeft (width : Nat) (s : String) : String :=
  String.ofList (List.replicate (width - s.length) ' ') ++ s

def summaryLine (name : String) (ns : Nat) : String :=
  "  " ++ padRight 12 name ++ " " ++ padLeft 8 (millisFixed ns) ++ " ms"

def Timer.summary (t : Timer) : String :=
  "timings:\n"
    ++ String.join (t.phases.toList.map fun p =>
      summaryLine p.name p.duration ++ (if p.note = "" then "" else "  // " ++ p.note) ++ "\n")
    ++ summaryLine "total" t.total ++ "\n"

def Phase.toJson (p : Phase) : Json.Value :=
  .object ([("name", .string p.name), ("duration_ms", .number (millisText p.duration))]
    ++ if p.note = "" then [] else [("note", .string p.note)])

def Timer.jsonMembers (t : Timer) : List (String × Json.Value) :=
  [("total_ms", .number (millisText t.total)),
    ("phases", if t.phases.isEmpty then .null else .array (t.phases.toList.map Phase.toJson))]

def Timer.toJson (t : Timer) : Json.Value := .object t.jsonMembers

end BlockGraph.Timing
