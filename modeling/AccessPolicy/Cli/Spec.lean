import AccessPolicy.Number.Duration
/-!
# Command lines and their help

A program's command line is a tree of commands. Each command has a name (and perhaps shorter
aliases), a line of usage, flags, and subcommands; a command either does something or only
groups its subcommands. Every command also takes `--help`/`-h`, and the root takes
`--version`/`-v` and has the command `help` (alias `h`).

A flag has a long name and perhaps one-letter aliases, and is a switch, or takes a text, a list
of texts (given several times or separated by commas), an integer or a duration. Its usage line
may name its value in backquotes (`` Load from `FILE` ``); otherwise the value is named by its
kind (`string`, `int`, `duration`).

## Help

Help is a few titled sections. Within a section, lines of two columns are aligned: the first
column is padded to the widest first cell of the section plus two spaces. A flag's first cell
lists its names with their value, `--name value, -n value`, followed for a list flag by the same
again in brackets; its second cell is its usage and, for a flag that is not required and has a
default other than the zero of its kind, `(default: …)`.
-/

namespace AccessPolicy.Cli

inductive FlagKind where
  | switch
  | text
  | texts
  | integer
  | duration
  deriving Repr, DecidableEq, Inhabited

inductive FlagValue where
  | switch (on : Bool)
  | text (s : String)
  | texts (items : List String)
  | integer (n : Int)
  | duration (d : Int)
  deriving Repr, DecidableEq, Inhabited

structure Flag where
  name : String
  aliases : List String := []
  kind : FlagKind
  usage : String
  required : Bool := false
  initial : Option FlagValue := none
  deriving Repr, Inhabited

structure Command where
  name : String
  aliases : List String := []
  usage : String
  flags : List Flag := []
  commands : List Command := []
  acts : Bool := true
  deriving Repr, Inhabited

namespace FlagKind

def zero : FlagKind → FlagValue
  | .switch => .switch false
  | .text => .text ""
  | .texts => .texts []
  | .integer => .integer 0
  | .duration => .duration 0

def typeName : FlagKind → Option String
  | .switch => none
  | .text | .texts => some "string"
  | .integer => some "int"
  | .duration => some "duration"

end FlagKind

namespace Flag

def names (f : Flag) : List String := f.name :: f.aliases

def initialValue (f : Flag) : FlagValue := f.initial.getD f.kind.zero

def unquoteUsage (usage : String) : Option String × String :=
  match usage.splitOn "`" with
  | before :: name :: after :: rest => (some name, before ++ name ++ "`".intercalate (after :: rest))
  | _ => (none, usage)

def dashed (name : String) : String :=
  (if name.length == 1 then "-" else "--") ++ name

def defaultText : FlagValue → String
  | .switch on => if on then "true" else ""
  | .text s => if s.isEmpty then "" else "\"" ++ s ++ "\""
  | .texts _ => ""
  | .integer n => if n == 0 then "" else toString n
  | .duration d => Duration.text d

def helpLine (f : Flag) : String :=
  let (named, usage) := unquoteUsage f.usage
  let placeholder := match named with
    | some n => some n
    | none => f.kind.typeName
  let one := fun n => dashed n ++ (match placeholder with
    | some p => " " ++ p
    | none => "")
  let names := ", ".intercalate (f.names.map one)
  let names := if f.kind == .texts then names ++ " [ " ++ names ++ " ]" else names
  let shown := if f.required then "" else defaultText f.initialValue
  let usage := if shown.isEmpty then usage else usage ++ " (default: " ++ shown ++ ")"
  names ++ "\t" ++ usage

end Flag
def helpFlag : Flag := { name := "help", aliases := ["h"], kind := .switch, usage := "show help" }

def versionFlag : Flag :=
  { name := "version", aliases := ["v"], kind := .switch, usage := "print the version" }

def helpCommand : Command :=
  { name := "help", aliases := ["h"], usage := "Shows a list of commands or help for one command" }

def Command.names (c : Command) : List String := c.name :: c.aliases

def Command.find? (c : Command) (word : String) : Option Command :=
  c.commands.find? fun s => s.names.contains word

/-! ## Aligning columns -/

def padTo (width : Nat) (s : String) : String :=
  s ++ String.ofList (List.replicate (width - s.length) ' ')

def alignRun (run : List String) : List String :=
  let cells := run.map fun line => match line.splitOn "\t" with
    | first :: rest => (first, "\t".intercalate rest)
    | [] => ("", "")
  let width := cells.foldl (fun w c => max w c.1.length) 0 + 2
  cells.map fun (first, rest) => padTo width first ++ rest

def alignColumns (text : String) : String :=
  let lines := text.splitOn "\n"
  let (done, run) := lines.foldl (fun (acc : List String × List String) line =>
    if line.contains '\t' then (acc.1, acc.2 ++ [line])
    else (acc.1 ++ alignRun acc.2 ++ [line], [])) ([], [])
  "\n".intercalate (done ++ alignRun run)

/-! ## Help texts -/

def commandLines (cs : List Command) : String :=
  String.join (cs.map fun c => "\n   " ++ ", ".intercalate c.names ++ "\t" ++ c.usage)

def flagLines (fs : List Flag) : String :=
  String.join (fs.map fun f => "\n   " ++ f.helpLine)

def rootHelp (root : Command) (version : String) : String :=
  let commands := root.commands ++ [helpCommand]
  let flags := root.flags ++ [helpFlag, versionFlag]
  alignColumns ("NAME:\n   " ++ root.name ++ " - " ++ root.usage ++ "\n\nUSAGE:\n   " ++ root.name ++
    " [global options] [command [command options]]\n\nVERSION:\n   " ++ version ++
    "\n\nCOMMANDS:" ++ commandLines commands ++ "\n\nGLOBAL OPTIONS:" ++ flagLines flags ++ "\n")

/-- The help of a command below the root, named by its full path. Given the flags the command
inherits, a command without subcommands says it takes options and lists them as global. -/
def commandHelp (fullName : String) (c : Command) (inherited : Option (List Flag) := none) :
    String :=
  let global := if c.commands.isEmpty then inherited else none
  let usageLine := fullName ++ (if c.commands.isEmpty then "" else " [command [command options]]") ++
    (if global.isSome then " [options]" else "")
  let commands := if c.commands.isEmpty then "" else "\n\nCOMMANDS:" ++ commandLines c.commands
  let globals := match global with
    | some fs => if fs.isEmpty then "" else "\n\nGLOBAL OPTIONS:" ++ flagLines fs
    | none => ""
  alignColumns ("NAME:\n   " ++ fullName ++ " - " ++ c.usage ++ "\n\nUSAGE:\n   " ++ usageLine ++
    commands ++ "\n\nOPTIONS:" ++ flagLines (c.flags ++ [helpFlag]) ++ globals ++ "\n")

end AccessPolicy.Cli
