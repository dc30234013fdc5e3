import BlockGraph.Cli.Command
import BlockGraph.Text.Quoted

namespace BlockGraph.Cli

def Flag.kindWord (f : Flag) : String :=
  match f.default with
  | .truth _ => ""
  | .integer _ => "int"
  | .text _ => "string"

def Flag.shownDefault (f : Flag) : Option String :=
  match f.default with
  | .truth b => if b then some "true" else none
  | .integer n => if n = 0 then none else some (toString n)
  | .text s => if s = "" then none else some (Text.quote s)

def Flag.namesColumn (f : Flag) : String :=
  let names := match f.short with
    | some c => "  -" ++ String.singleton c ++ ", --" ++ f.name
    | none => "      --" ++ f.name
  if f.kindWord = "" then names else names ++ " " ++ f.kindWord

def flagLines (flags : List Flag) : String :=
  let sorted := flags.mergeSort fun a b => a.name ≤ b.name
  let width := sorted.foldl (fun w f => max w (f.namesColumn.utf8ByteSize + 1)) 0
  String.join <| sorted.map fun f =>
    let names := f.namesColumn
    let shown := match f.shownDefault with
      | some d => " (default " ++ d ++ ")"
      | none => ""
    names ++ " " ++ String.ofList (List.replicate (width - names.utf8ByteSize) ' ') ++ " " ++ f.usage ++
      shown ++ "\n"

def trimEnd (s : String) : String :=
  String.ofList (s.toList.reverse.dropWhile (fun c => c = ' ' || c = '\n' || c = '\t' || c = '\r')).reverse

/-- How a command is called, with `[flags]` added when its text has none, unless the command
leaves it out. -/
def Verb.useLine (v : Verb) : String :=
  let line := if v = .top then v.use else v.parentPath ++ " " ++ v.use
  if !v.flagsInUse || (line.splitOn "[flags]").length > 1 then line else line ++ " [flags]"

def padName (s : String) : String :=
  s ++ String.ofList (List.replicate (11 - s.length) ' ')

/-- The usage of a command, with the flags it has at the moment it is shown: `local` and the
tool's ones it takes. -/
def usageText (v : Verb) (localFlags inherited : List Flag) : String :=
  let children := v.children.mergeSort fun a b => a.1 ≤ b.1
  "Usage:" ++
    (if v.runnable then "\n  " ++ v.useLine else "") ++
    (if children.isEmpty then "" else "\n  " ++ v.path ++ " [command]") ++
    (if children.isEmpty then "" else
      "\n\nAvailable Commands:" ++ String.join (children.map fun (n, d) => "\n  " ++ padName n ++ " " ++ d)) ++
    (if localFlags.isEmpty then "" else "\n\nFlags:\n" ++ trimEnd (flagLines localFlags)) ++
    (if inherited.isEmpty then "" else "\n\nGlobal Flags:\n" ++ trimEnd (flagLines inherited)) ++
    (if children.isEmpty then "" else
      "\n\nUse \"" ++ v.path ++ " [command] --help\" for more information about a command.") ++
    "\n"

def helpText (v : Verb) : String :=
  let about := if v.long = "" then v.short else v.long
  (if about = "" then "" else trimEnd about ++ "\n\n") ++
    (if v.runnable || !v.children.isEmpty then usageText v v.localFlags v.inheritedFlags else "")

def backQuote (s : String) : String :=
  if s.toList.any (fun c => c = '`' || (c.toNat < 0x20 && c ≠ '\t') || c.toNat = 0x7F || c.toNat = 0xFEFF) then
    Text.quote s
  else "`" ++ s ++ "`"

/-- What the help command says of a topic it does not know, followed by the tool's usage with
the flags the tool has: its help and version flags only once it is registered. -/
def unknownTopic (registered : List Verb) (words : List String) : String :=
  "Unknown help topic [" ++ " ".intercalate (words.map backQuote) ++ "]\n" ++
    usageText .top (if registered.contains .top then Verb.top.localFlags else globalFlags) []

end BlockGraph.Cli
