
namespace BlockGraph.Markdown

/-- A pattern over characters. -/
inductive Pattern where
  | empty
  | one (p : Char → Bool)
  | seq (a b : Pattern)
  | alt (a b : Pattern)
  | many (a : Pattern)

/-- The positions reached from `start` by any number of rounds of `step`, `start` included. -/
def reachAll (step : Nat → List Nat) : Nat → List Nat → List Nat → List Nat
  | 0, _, seen => seen
  | fuel + 1, frontier, seen =>
    let next := ((frontier.flatMap step).eraseDups).filter fun j => !seen.contains j
    if next.isEmpty then seen else reachAll step fuel next (seen ++ next)

def Pattern.ends : Pattern → Array Char → Nat → List Nat
  | .empty, _, i => [i]
  | .one p, s, i => if h : i < s.size then (if p s[i] then [i + 1] else []) else []
  | .seq a b, s, i => ((a.ends s i).flatMap fun j => b.ends s j).eraseDups
  | .alt a b, s, i => (a.ends s i ++ b.ends s i).eraseDups
  | .many a, s, i => reachAll (fun j => a.ends s j) (s.size + 1) [i] [i]

def Pattern.oneOrMore (a : Pattern) : Pattern := .seq a (.many a)

def Pattern.optional (a : Pattern) : Pattern := .alt a .empty

def Pattern.word (w : String) : Pattern := w.toList.foldr (fun c p => .seq (.one (· = c)) p) .empty

def Pattern.chain : List Pattern → Pattern
  | [] => .empty
  | [a] => a
  | a :: rest => .seq a (Pattern.chain rest)

def Pattern.firstEnd (p : Pattern) (s : Array Char) (i : Nat) : Option Nat :=
  (p.ends s i).min?

def Pattern.matchesAll (p : Pattern) (s : List Char) : Bool :=
  let a := s.toArray
  (p.ends a 0).contains a.size

example : (Pattern.oneOrMore (.one (· = 'a'))).matchesAll "aaa".toList = true := by decide
example : (Pattern.word "ab").matchesAll "abc".toList = false := by decide

end BlockGraph.Markdown
