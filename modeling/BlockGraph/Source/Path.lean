
namespace BlockGraph.Path

def elements (p : String) : List String := (p.toList.splitOn '/').map String.ofList

def isAbs (p : String) : Bool := p.startsWith "/"

/-- The elements that remain after `.` and empty elements are dropped and each `..` cancels
the element before it; at the root a `..` has nothing to cancel and is dropped. -/
def reduce (rooted : Bool) : List String → List String → List String
  | acc, [] => acc.reverse
  | acc, e :: es =>
    if e = "" ∨ e = "." then reduce rooted acc es
    else if e = ".." then
      match acc with
      | a :: rest => if a = ".." then reduce rooted (e :: acc) es else reduce rooted rest es
      | [] => if rooted then reduce rooted [] es else reduce rooted [e] es
    else reduce rooted (e :: acc) es

def clean (p : String) : String :=
  let rooted := isAbs p
  let body := "/".intercalate (reduce rooted [] (elements p))
  let out := if rooted then "/" ++ body else body
  if out = "" then "." else out

def beforeLastSlash (p : String) : Option String :=
  let cs := p.toList
  match (cs.reverse.dropWhile (· != '/')) with
  | [] => none
  | _ :: before => some (String.ofList before.reverse)

def afterLastSlash (p : String) : String :=
  String.ofList (p.toList.reverse.takeWhile (· != '/')).reverse

def dir (p : String) : String :=
  match beforeLastSlash p with
  | none => "."
  | some before => clean (before ++ "/")

def base (p : String) : String :=
  if p = "" then "."
  else
    let trimmed := String.ofList (p.toList.reverse.dropWhile (· == '/')).reverse
    if trimmed = "" then "/" else afterLastSlash trimmed

def ext (p : String) : String :=
  let last := (afterLastSlash p).toList
  match (last.reverse.span (· != '.')) with
  | (_, []) => ""
  | (after, _ :: _) => String.ofList ('.' :: after.reverse)

/-- `a` and `b` joined by one separator, cleaned; an empty part is left out, and two empty
parts join to the empty path. -/
def join (a b : String) : String :=
  if a = "" then (if b = "" then "" else clean b)
  else if b = "" then clean a else clean (a ++ "/" ++ b)

def cleanElements (p : String) : List String :=
  let c := clean p
  if c = "." then [] else (elements c).filter (· != "")

/-- The path that leads from `basePath` to `target`: `..` once for each element of
`basePath` past their common start, then the rest of `target`, where a target that cleans to
`.` keeps that one element (from `a` to `.` is `../.`). None when one is absolute and the
other is not, or when `basePath` goes up (`..`) past the common start. -/
def rel (basePath target : String) : Option String :=
  let b := clean basePath
  let t := clean target
  if t = b then some "."
  else if isAbs b != isAbs t then none
  else
    let bs := cleanElements b
    let ts := if t = "." then ["."] else cleanElements t
    let common := ((bs.zip ts).takeWhile (fun (x, y) => x = y)).length
    let bRest := bs.drop common
    let tRest := ts.drop common
    match bRest with
    | ".." :: _ => none
    | _ => some ("/".intercalate (bRest.map (fun _ => "..") ++ tRest))

end BlockGraph.Path
