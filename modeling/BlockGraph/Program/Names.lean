
namespace BlockGraph.Names

def isValid (s : String) : Bool := !s.toList.any (fun c => c = '.' ∨ c = ':')

def structVar (base field : String) : String := base ++ "." ++ field

def localName (proc name : String) : String := proc ++ ":" ++ name

def qualify (proc base field : String) : String :=
  let s := if field = "" then base else structVar base field
  if proc = "" then s else localName proc s

/-- A struct variable's name split at its first `.`: the base, the field, and whether there was
a `.` at all (when not, the whole name is the base). -/
def splitStructVar (s : String) : String × String × Bool :=
  match s.splitOn "." with
  | [] | [_] => (s, "", false)
  | b :: rest => (b, ".".intercalate rest, true)

end BlockGraph.Names
