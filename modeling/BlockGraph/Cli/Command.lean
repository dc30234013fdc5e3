import BlockGraph.Cli.Flags
import BlockGraph.Text.Case
import BlockGraph.Text.Utf8

namespace BlockGraph.Cli

/-- A shell the tool writes completion scripts for. -/
inductive Shell where
  | bash
  | zsh
  | fish
  | powershell
  deriving DecidableEq, Inhabited

def Shell.name : Shell → String
  | .bash => "bash"
  | .zsh => "zsh"
  | .fish => "fish"
  | .powershell => "powershell"

def Shell.all : List Shell := [.bash, .zsh, .fish, .powershell]

inductive Verb where
  | top
  | build
  | check
  | refs
  | clean
  | version
  | help
  | completion
  | completionFor (shell : Shell)
  deriving DecidableEq, Inhabited

def toolName : String := "blockc"

namespace Verb

def subcommands : List Verb := [.build, .check, .refs, .clean, .version, .help, .completion]

def name : Verb → String
  | .top => toolName
  | .build => "build"
  | .check => "check"
  | .refs => "refs"
  | .clean => "clean"
  | .version => "version"
  | .help => "help"
  | .completion => "completion"
  | .completionFor sh => sh.name

def parentPath : Verb → String
  | .completionFor _ => toolName ++ " completion"
  | _ => toolName

def path (v : Verb) : String := if v = .top then toolName else v.parentPath ++ " " ++ v.name

def use : Verb → String
  | .top => toolName
  | .build => "build [flags] [dump|dir...]"
  | .check => "check [flags] [dump|dir...]"
  | .refs => "refs [flags] <dump>"
  | .clean => "clean"
  | .version => "version"
  | .help => "help [command]"
  | .completion => "completion"
  | .completionFor sh => sh.name

/-- Whether a command's usage line gets `[flags]` added; not for the bash script's. -/
def flagsInUse : Verb → Bool
  | .completionFor .bash => false
  | _ => true

def short : Verb → String
  | .top => "Block graph compiler"
  | .build => "Compile parser dumps into block project JSON"
  | .check => "Run every pass and report diagnostics without writing output"
  | .refs => "Print the names every script and procedure references"
  | .clean => "Remove the blockc output cache"
  | .version => "Show blockc build fingerprint"
  | .help => "Help about any command"
  | .completion => "Generate the autocompletion script for the specified shell"
  | .completionFor sh => "Generate the autocompletion script for " ++ sh.name

/-- How to load the completion script for a shell, as its command's description says. -/
def shellLong : Shell → String
  | .bash =>
    "Generate the autocompletion script for the bash shell.\n\n" ++
    "This script depends on the 'bash-completion' package.\n" ++
    "If it is not installed already, you can install it via your OS's package manager.\n\n" ++
    "To load completions in your current shell session:\n\n" ++
    "\tsource <(" ++ toolName ++ " completion bash)\n\n" ++
    "To load completions for every new session, execute once:\n\n" ++
    "#### Linux:\n\n" ++
    "\t" ++ toolName ++ " completion bash > /etc/bash_completion.d/" ++ toolName ++ "\n\n" ++
    "#### macOS:\n\n" ++
    "\t" ++ toolName ++ " completion bash > $(brew --prefix)/etc/bash_completion.d/" ++ toolName ++ "\n\n" ++
    "You will need to start a new shell for this setup to take effect.\n"
  | .zsh =>
    "Generate the autocompletion script for the zsh shell.\n\n" ++
    "If shell completion is not already enabled in your environment you will need\n" ++
    "to enable it.  You can execute the following once:\n\n" ++
    "\techo \"autoload -U compinit; compinit\" >> ~/.zshrc\n\n" ++
    "To load completions in your current shell session:\n\n" ++
    "\tsource <(" ++ toolName ++ " completion zsh)\n\n" ++
    "To load completions for every new session, execute once:\n\n" ++
    "#### Linux:\n\n" ++
    "\t" ++ toolName ++ " completion zsh > \"$\x7bfpath[1]\x7d/_" ++ toolName ++ "\"\n\n" ++
    "#### macOS:\n\n" ++
    "\t" ++ toolName ++ " completion zsh > $(brew --prefix)/share/zsh/site-functions/_" ++ toolName ++ "\n\n" ++
    "You will need to start a new shell for this setup to take effect.\n"
  | .fish =>
    "Generate the autocompletion script for the fish shell.\n\n" ++
    "To load completions in your current shell session:\n\n" ++
    "\t" ++ toolName ++ " completion fish | source\n\n" ++
    "To load completions for every new session, execute once:\n\n" ++
    "\t" ++ toolName ++ " completion fish > ~/.config/fish/completions/" ++ toolName ++ ".fish\n\n" ++
    "You will need to start a new shell for this setup to take effect.\n"
  | .powershell =>
    "Generate the autocompletion script for powershell.\n\n" ++
    "To load completions in your current shell session:\n\n" ++
    "\t" ++ toolName ++ " completion powershell | Out-String | Invoke-Expression\n\n" ++
    "To load completions for every new session, add the output of the above command\n" ++
    "to your powershell profile.\n"

def long : Verb → String
  | .top => "blockc compiles parser dumps of a procedural sprite language into block-based project JSON"
  | .build =>
    "Compile every dump named on the command line, or the inputs listed in blockc.toml, and write <output>/<name>.blocks.json for each."
  | .help =>
    "Help provides help for any command in the application.\nSimply type " ++ toolName ++
      " help [path to command] for full details."
  | .completion =>
    "Generate the autocompletion script for " ++ toolName ++
      " for the specified shell.\nSee each sub-command's help for details on how to use the generated script.\n"
  | .completionFor sh => shellLong sh
  | _ => ""

def runnable : Verb → Bool
  | .top => false
  | .completion => false
  | _ => true

def children : Verb → List (String × String)
  | .top => subcommands.map fun v => (v.name, v.short)
  | .completion => Shell.all.map fun sh => (sh.name, (completionFor sh).short)
  | _ => []

end Verb

def textFlag (name default usage : String) (short : Option Char := none) : Flag :=
  { name, short, default := .text default, usage }

def truthFlag (name usage : String) (short : Option Char := none) : Flag :=
  { name, short, default := .truth false, usage }

def integerFlag (name : String) (default : Int) (usage : String) : Flag :=
  { name, default := .integer default, usage }

def globalFlags : List Flag :=
  [textFlag "color" "auto" "colorize output (auto|on|off)",
   truthFlag "quiet" "suppress non-essential output",
   truthFlag "timings" "show timing information",
   integerFlag "max-diagnostics" 100 "maximum number of diagnostics to keep per project",
   textFlag "trace" "" "trace output file (- for stderr)",
   textFlag "trace-level" "off" "trace level (off|error|phase|detail|debug)",
   textFlag "trace-mode" "ring" "trace storage (stream|ring|both)",
   integerFlag "trace-ring-size" 4096 "events kept by the ring tracer",
   textFlag "trace-format" "auto" "trace format (auto|text|ndjson)"]

def compileFlags : List Flag :=
  [integerFlag "jobs" 0 "max projects compiled in parallel (0=auto)",
   textFlag "format" "pretty" "diagnostics format (pretty|short|json)",
   textFlag "ui" "auto" "user interface (auto|on|off)"]

namespace Verb

def ownFlags : Verb → List Flag
  | .top => globalFlags
  | .build =>
    compileFlags ++ [textFlag "output" "" "output directory (default: [build].output or ./build)" (some 'o'),
      truthFlag "no-cache" "bypass the output cache"]
  | .check => compileFlags ++ [truthFlag "warnings-as-errors" "fail when any warning is reported"]
  | .refs => [textFlag "format" "text" "output format (text|json)"]
  | .version =>
    [truthFlag "full" "include commit and build date", textFlag "format" "pretty" "output format (pretty|json)"]
  | .completionFor _ => [truthFlag "no-descriptions" "disable completion descriptions"]
  | _ => []

def helpFlag (v : Verb) : Flag := truthFlag "help" ("help for " ++ v.name) (some 'h')

def versionFlag : Flag := truthFlag "version" ("version for " ++ toolName) (some 'v')

/-- The flags a command's own list shows: its own ones, its help flag, and for the tool its
version flag. -/
def localFlags (v : Verb) : List Flag :=
  v.ownFlags ++ [v.helpFlag] ++ (if v = .top then [versionFlag] else [])

def inheritedFlags (v : Verb) : List Flag := if v = .top then [] else globalFlags

def flags (v : Verb) : List Flag := v.localFlags ++ v.inheritedFlags

/-- The flags a command knows before it runs: its own ones and the tool's, and its help (and
for the tool its version) flag once it is registered. -/
def knownFlags (registered : List Verb) (v : Verb) : List Flag :=
  if registered.contains v then v.flags else v.ownFlags ++ v.inheritedFlags

end Verb

def namesTruthFlag (flags : List Flag) (name : String) : Bool :=
  (flags.find? (·.name == name)).any (·.isTruth)

/-- Whether a flag of the list is a truth flag with the short name that starts `rest`. -/
def namesTruthShort (flags : List Flag) (rest : List Char) : Bool :=
  match rest with
  | c :: _ => (flags.find? (·.short == some c)).any (·.isTruth)
  | [] => false

def takesNextWord (flags : List Flag) (w : String) : Bool :=
  !w.contains '=' &&
    ((w.startsWith "--" && !namesTruthFlag flags (w.drop 2).toString) ||
      (w.startsWith "-" && w.utf8ByteSize = 2 && !namesTruthShort flags (w.toList.drop 1)))

def commandWords (flags : List Flag) : List String → List String
  | [] => []
  | w :: ws =>
    if w = "--" then []
    else if takesNextWord flags w then
      match ws with
      | _ :: more => if more.isEmpty then [] else commandWords flags more
      | [] => []
    else if !w.isEmpty && !w.startsWith "-" then w :: commandWords flags ws
    else commandWords flags ws

/-- The command line without the first word equal to `x` that stands where a command would. -/
def withoutWord (flags : List Flag) (x : String) : List String → List String
  | [] => []
  | w :: ws =>
    if w = "--" then w :: ws
    else if takesNextWord flags w then
      match ws with
      | v :: more => w :: v :: withoutWord flags x more
      | [] => [w]
    else if !w.startsWith "-" && w = x then ws
    else w :: withoutWord flags x ws

def editDistance (s t : List UInt8) : Nat :=
  let first := List.range (t.length + 1)
  let row (prev : List Nat) (i : Nat) (a : UInt8) : List Nat :=
    let step (acc : List Nat × Nat) (j : Nat) : List Nat × Nat :=
      let (cur, left) := acc
      let b := t.getD j 0
      let diag := prev.getD j 0
      let up := prev.getD (j + 1) 0
      let v := if a = b then diag else min (min up left) diag + 1
      (cur ++ [v], v)
    (List.range t.length).foldl step ([i + 1], i + 1) |>.1
  (s.zipIdx.foldl (fun prev (a, i) => row prev i a) first).getD t.length 0

def suggestionsFor (word : String) : List String :=
  let typed := Text.lower word
  (Verb.subcommands.filter (· ≠ .help)).filterMap fun v =>
    let close := editDistance (Utf8.encode typed) (Utf8.encode (Text.lower v.name)) ≤ 2
    if close || (Text.lower v.name).startsWith typed then some v.name else none

def unknownCommand (word : String) : String :=
  let offered := suggestionsFor word
  "unknown command " ++ Text.quote word ++ " for " ++ Text.quote toolName ++
    (if offered.isEmpty then "" else
      "\n\nDid you mean this?\n" ++ String.join (offered.map fun s => "\t" ++ s ++ "\n"))

/-- The command a command line calls, and its words without the names that select it, the
`registered` commands knowing their help flags; fails when the first command word names no
subcommand. Below `completion` a word that names no shell is left to the arguments. -/
def findVerb (registered : List Verb) (words : List String) : Except String (Verb × List String) :=
  let topFlags := Verb.top.knownFlags registered
  match commandWords topFlags words with
  | [] => .ok (.top, words)
  | w :: _ =>
    match Verb.subcommands.find? (·.name == w) with
    | some .completion =>
      let rest := withoutWord topFlags w words
      let flags := Verb.completion.knownFlags registered
      match (commandWords flags rest).head?.bind fun w2 => Shell.all.find? (·.name == w2) with
      | some sh => .ok (.completionFor sh, withoutWord flags sh.name rest)
      | none => .ok (.completion, rest)
    | some v => .ok (v, withoutWord topFlags w words)
    | none => .error (unknownCommand w)

end BlockGraph.Cli
