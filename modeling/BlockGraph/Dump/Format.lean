import BlockGraph.Source.Path
import BlockGraph.Text.Case

namespace BlockGraph.Dump

/-- The encoding of a dump. -/
inductive Format where
  | msgpack
  | json
  deriving BEq, DecidableEq, Inhabited, Repr

def Format.name : Format → String
  | .msgpack => "msgpack"
  | .json => "json"

def Format.ofPath? (path : String) : Option Format :=
  match Text.lower (Path.ext path) with
  | ".mp" | ".msgpack" => some .msgpack
  | ".json" => some .json
  | _ => none

def dropSuffix (s suffix : String) : String :=
  if s.endsWith suffix then String.ofList (s.toList.take (s.length - suffix.length)) else s

def outputName (path : String) : String :=
  let base := Path.base path
  dropSuffix (dropSuffix base (Path.ext base)) ".ast"

end BlockGraph.Dump
