import AccessPolicy.Cli.Spec
import AccessPolicy.Value.Cast
import AccessPolicy.Text.Utf8
import AccessPolicy.Text.Quote
/-!
# Reading a command line

A command line is read one command at a time, from the root. Each command reads the words
given to it until one names a subcommand, which then reads the words after it:

* a word starting with `-` is a flag, with one dash or two, its value after `=` or in the next
  word (a switch takes a value only after `=`). A command knows its own flags, `--help`, and
  `--version` at the root or the root's flags below it; a flag it does not know, or a value
  that does not read, is an error of usage;
* `--`, a lone `-`, a dash before a character that is not a letter, and an empty word end the
  reading of flags;
* another word is an argument.

Once a command's words are read, its `--help` shows its help, or that of the subcommand its
first argument names; `--version` at the root shows the version; then the command's required
flags must be set. A command that only groups its subcommands shows its help when nothing
follows it, and reports that there is no help topic for the first argument otherwise.

Integer values are numerals as a program writes them: decimal, octal after `0`, or with a
`0b`, `0o` or `0x` prefix, with a sign and underscores between digits, within 64 bits.
-/

namespace AccessPolicy.Cli

inductive Request where
  | run (path : List Command) (values : List (String × FlagValue)) (args : List String)
  | help (path : List Command)
  /-- Show the help of the last command of the path, asked for by its own help flag with no
  argument after it. -/
  | ownHelp (path : List Command)
  | version
  | noTopic (word : String)
  | badUsage (message : String)
  | missing (path : List Command) (names : List String)
  deriving Repr, Inhabited

/-! ## Reading flag values -/

def maxWord : Nat := Nat.pow 2 64 - 1

/-- Whether the underscores of a numeral with its base prefix only stand between digits, the
prefix counting as one; a numeral read with underscores that break this is invalid. -/
def underscoresSeparate (cs : List Char) : Bool :=
  let (hex, start, body) := match cs with
    | '0' :: c :: r =>
      if c.toLower = 'b' ∨ c.toLower = 'o' ∨ c.toLower = 'x' then (c.toLower == 'x', '0', r)
      else (false, '^', cs)
    | _ => (false, '^', cs)
  let step : Option Char → Char → Option Char := fun saw c =>
    match saw with
    | none => none
    | some s =>
      if c.isDigit || (hex && 'a' ≤ c.toLower && c.toLower ≤ 'f') then some '0'
      else if c = '_' then (if s = '0' then some '_' else none)
      else if s = '_' then none
      else some '!'
  match body.foldl step (some start) with
  | some s => s ≠ '_'
  | none => false

def digitValue (c : Char) : Option Nat :=
  if '0' ≤ c ∧ c ≤ '9' then some (c.toNat - '0'.toNat)
  else if 'a' ≤ c.toLower ∧ c.toLower ≤ 'z' then some (c.toLower.toNat - 'a'.toNat + 10)
  else none

/-- Reads the digits of a numeral in a base onto `n`, noting underscores: the first digit out of
its base is invalid syntax, and a value past 64 bits is out of range, whichever comes first. -/
def readDigits (base : Nat) : List Char → Nat → Bool → Except String (Nat × Bool)
  | [], n, seen => .ok (n, seen)
  | c :: cs, n, seen =>
    if c = '_' then readDigits base cs n true
    else
      match digitValue c with
      | none => .error "invalid syntax"
      | some d =>
        if d ≥ base then .error "invalid syntax"
        else if n ≥ maxWord / base + 1 then .error "value out of range"
        else if n * base + d > maxWord then .error "value out of range"
        else readDigits base cs (n * base + d) seen

/-- Reads an unsigned numeral whose base its prefix gives: `0b`, `0o` or `0x` (with a digit
after it), a leading `0` for octal, or decimal. -/
def readUnsigned (cs : List Char) : Except String Nat := do
  if cs.isEmpty then throw "invalid syntax"
  let (base, body) := match cs with
    | '0' :: c :: r@(_ :: _) =>
      if c.toLower = 'b' then (2, r) else if c.toLower = 'o' then (8, r)
      else if c.toLower = 'x' then (16, r) else (8, c :: r)
    | '0' :: r => (8, r)
    | _ => (10, cs)
  let (n, seen) ← readDigits base body 0 false
  if seen ∧ !underscoresSeparate cs then throw "invalid syntax"
  pure n

/-- Reads a signed 64-bit numeral as a program literal, or says why it is none: `invalid syntax`
or `value out of range`. -/
def readInteger (s : String) : Except String Int := do
  let (neg, body) := match s.toList with
    | '-' :: rest => (true, rest)
    | '+' :: rest => (false, rest)
    | cs => (false, cs)
  if s.isEmpty then throw "invalid syntax"
  let n ← readUnsigned body
  if !neg ∧ n ≥ Nat.pow 2 63 then throw "value out of range"
  if neg ∧ n > Nat.pow 2 63 then throw "value out of range"
  pure (if neg then -(n : Int) else n)

/-- Sets a flag from the text of its value, the flag named as the command line writes it: the
values with it, or why the text does not do. A switch whose text is no boolean word says only
`parse error`; a number says what its reader found wrong. -/
def setFlag (f : Flag) (written : String) (values : List (String × FlagValue)) (text : String) :
    Except String (List (String × FlagValue)) :=
  let put := fun v => (values.filter (·.1 != f.name)) ++ [(f.name, v)]
  let invalid := fun (why : String) =>
    Except.error ("invalid value " ++ Quote.string text ++ " for flag -" ++ written ++ ": " ++ why)
  match f.kind with
  | .switch => match Value.boolWord? text with
    | some b => .ok (put (.switch b))
    | none => invalid "parse error"
  | .text => .ok (put (.text text))
  | .texts =>
    let before := match values.lookup f.name with
      | some (.texts xs) => xs
      | _ => []
    .ok (put (.texts (before ++ text.splitOn ",")))
  | .integer => match readInteger text with
    | .ok n => .ok (put (.integer n))
    | .error why => invalid ("strconv.ParseInt: parsing " ++ Quote.string text ++ ": " ++ why)
  | .duration => match Duration.parse text with
    | .ok d => .ok (put (.duration d))
    | .error why => invalid why

/-! ## Reading the words of a command -/

/-- What the words given to one command leave: the flag values, those of the commands above
included, and the arguments. -/
structure Reading where
  values : List (String × FlagValue)
  args : List String
  deriving Repr, Inhabited

/-- The character a check of the byte after a leading dash sees: the first byte of the UTF-8
form of the character there, read as a character. -/
def leadByte (c : Char) : Char :=
  match Utf8.encode (String.singleton c) with
  | b :: _ => Char.ofNat b.toNat
  | [] => c

def nameAndValue (body : List Char) : String × Option String :=
  match body.span (· ≠ '=') with
  | (name, []) => (String.ofList name, none)
  | (name, _ :: value) => (String.ofList name, some (String.ofList value))

/-- Reads the words given to a command, with the flags it knows and the names of its
subcommands. Each word is first trimmed of blanks.

* An empty word ends the reading, and the words after it are dropped; so does a lone `-`,
  which is an argument.
* `--`, and a word of a dash and a character that is not a letter, end the reading: they and
  every later word are arguments.
* A word naming a subcommand once trimmed ends the reading: it, as it was given, and every later
  word are arguments, for the subcommand to read; a word with blanks around it then names no
  command there.
* Any other word with a leading dash is a flag, its name after one dash or two. A switch takes
  a value only after `=`, `true` without one; any other flag takes the value after `=`, or else
  the next word, as it is.
* Any other word is an argument. -/
def readFlags (known : List Flag) (isSub : String → Bool) :
    List String → Reading → Except String Reading
  | [], r => .ok r
  | word :: rest, r =>
    let w := CharClass.trimBlank word
    let stopWith := fun (tail : List String) => Except.ok { r with args := r.args ++ tail }
    match w.toList with
    | [] => .ok r
    | ['-'] => stopWith ["-"]
    | ['-', '-'] => stopWith (w :: rest)
    | '-' :: second :: more =>
      if second ≠ '-' ∧ !CharClass.letter (leadByte second) then stopWith (w :: rest)
      else
        let (name, inline) := nameAndValue (if second = '-' then more else second :: more)
        match known.find? (·.names.contains name) with
        | none => .error ("flag provided but not defined: -" ++ name)
        | some f =>
          if f.kind == .switch then
            let text := (inline.getD "")
            match setFlag f name r.values (if text.isEmpty then "true" else text) with
            | .ok vs => readFlags known isSub rest { r with values := vs }
            | .error e => .error e
          else
            match inline with
            | some v =>
              if v.isEmpty then .error ("flag needs an argument: " ++ w)
              else
                match setFlag f name r.values v with
                | .ok vs => readFlags known isSub rest { r with values := vs }
                | .error e => .error e
            | none =>
              match rest with
              | [] => .error ("flag needs an argument: " ++ w)
              | v :: later =>
                match setFlag f name r.values v with
                | .ok vs => readFlags known isSub later { r with values := vs }
                | .error e => .error e
    | _ =>
      if isSub w then stopWith (word :: rest)
      else readFlags known isSub rest { r with args := r.args ++ [w] }
termination_by words _ => words.length
decreasing_by
  · exact Nat.lt_succ_self _
  · exact Nat.lt_succ_self _
  · exact Nat.lt_succ_of_lt (Nat.lt_succ_self _)
  · exact Nat.lt_succ_self _

def switchOn (values : List (String × FlagValue)) (name : String) : Bool :=
  match values.lookup name with
  | some (.switch b) => b
  | _ => false

def namesHelp (word : String) : Bool := word == "help" || word == "h"

/-- What the help command asks for, given the words after it: the root's help, or that of the
command its first argument names. It knows only the root's flags, and shows no help when one
cannot be read. -/
def readHelpCommand (root : Command) (values : List (String × FlagValue)) (words : List String) :
    Request :=
  match readFlags root.flags (fun _ => false) words ⟨values, []⟩ with
  | .error msg => .badUsage msg
  | .ok r =>
    match r.args with
    | [] => .help [root]
    | w :: _ => match root.find? w with
      | some c => .help [root, c]
      | none => .noTopic w

/-- Reads the words given to the command at the end of `path`. The command knows its own flags,
its help flag, and the version flag at the root or the root's flags below it. Once its words
are read: its help flag shows its help, or that of the subcommand its first argument names;
the version flag shows the version; then its required flags must be set; then a first argument
naming a subcommand hands the words after it to that subcommand. A command that only groups
its subcommands shows its help with no argument, and has no help topic for any other. Each
step goes one command down, so `fuel` as deep as the command tree is enough. -/
def readFrom (root : Command) : Nat → List Command → List (String × FlagValue) → List String →
    Request
  | 0, path, _, _ => .help path
  | fuel + 1, path, inherited, words =>
    let current := path.getLast?.getD root
    let atRoot := path.length ≤ 1
    let known := current.flags ++ [helpFlag] ++ (if atRoot then [versionFlag] else root.flags)
    let isSub := fun w => (current.find? w).isSome || (atRoot && namesHelp w)
    match readFlags known isSub words ⟨inherited, []⟩ with
    | .error msg => .badUsage msg
    | .ok r =>
      if switchOn r.values "help" then
        match r.args with
        | [] => .ownHelp path
        | w :: _ => match current.find? w with
          | some c => .help (path ++ [c])
          | none => .noTopic w
      else if atRoot && switchOn r.values "version" then .version
      else
        match current.flags.filter fun f => f.required && (r.values.lookup f.name).isNone with
        | _ :: _ =>
          .missing path ((current.flags.filter fun f =>
            f.required && (r.values.lookup f.name).isNone).map (·.name))
        | [] =>
          let values := r.values.filter fun (n, _) => n != "help" && n != "version"
          match r.args with
          | w :: later =>
            if atRoot && namesHelp w then readHelpCommand root values later
            else
              match current.find? w with
              | some c => readFrom root fuel (path ++ [c]) values later
              | none =>
                if !current.commands.isEmpty && !current.acts then .noTopic w
                else .run path values r.args
          | [] =>
            if !current.commands.isEmpty && !current.acts then .help path
            else .run path values []

def readCommandLine (root : Command) (words : List String) : Request :=
  readFrom root (words.length + 1) [root] [] words

def fullName (path : List Command) : String :=
  " ".intercalate (path.map (·.name))

/-- The help of the command at the end of a path. Asked for by the command's own help flag, the
help of a command without subcommands also lists the flags of the commands above it. -/
def helpOf (version : String) (path : List Command) (own : Bool := false) : String :=
  match path with
  | [] | [_] => match path.head? with
    | some root => rootHelp root version
    | none => ""
  | _ => match path.getLast? with
    | some c =>
      commandHelp (fullName path) c (if own then some (path.dropLast.flatMap (·.flags)) else none)
    | none => ""

def flagValue (path : List Command) (values : List (String × FlagValue)) (name : String) :
    FlagValue :=
  match values.lookup name with
  | some v => v
  | none =>
    match (path.flatMap (·.flags)).find? (·.name == name) with
    | some f => f.initialValue
    | none => .switch false

end AccessPolicy.Cli
