import AccessPolicy.Text.Printf
/-!
# Text templates

A template is literal text with actions between `{{` and `}}`; running it on a value writes the
text and what each action yields. This is the template language `strings.render_template`
fills its text with, run on a map of names to values in which a missing name is an error.

* **Text and trimming.** `{{- ` drops the blanks (space, tab, carriage return, line feed) that
  end the text before the action, and ` -}}` those that start the text after it. `{{/* … */}}`
  is a comment.
* **Pipelines.** An action holds a pipeline: commands joined by `|`, each the value of the one
  before passed to the next as its last argument. A command is an operand, or a function and
  its arguments. Operands are `.` (the cursor), fields `.a.b` of the cursor, variables `$x` and
  their fields, `$` (the whole value), constants (quoted texts, numbers, characters, `true`,
  `false`, `nil`), and pipelines in parentheses with fields after them. A pipeline may first
  declare `$x :=` or assign `$x =` a variable; an action that does prints nothing.
* **Control.** `{{if p}} … {{else if q}} … {{else}} … {{end}}` picks a branch by the truth of
  a value: `false`, `0`, nothing and empty texts, lists and maps are false. `{{with p}}` runs its
  body with the cursor on a true value. `{{range p}}` runs its body for each item of a list or
  map (a map in the order of its keys), or each number below an integer, or its `{{else}}` when
  there is none; `$i, $e :=` names the index and the item, `{{break}}` and `{{continue}}` leave
  the body. Variables declared in a control structure end with it.
* **Functions.** `and` and `or` give the first false or true argument, or the last; `not`,
  `len`, `index`, `slice`; the comparisons `eq` (with one or more others), `ne`, `lt`, `le`,
  `gt`, `ge` of booleans, integers, floats or texts of one kind; `print`, `printf` and
  `println` as formatting does; and the escapes `html`, `js` and `urlquery`.
* **Printing.** A printed value is written as formatting writes it with `%v`; nothing is
  written `<no value>`.

A number of the value is kept as written: it is a text for the functions and comparisons, and
has the methods `String`, `Int64` and `Float64`. Anything else, or a misused part, is an error.
-/

namespace AccessPolicy.Template

/-! ## Tokens -/

inductive Token where
  | text (s : String)
  | start
  | stop
  | space
  | field (name : String)
  | dot
  | variable (name : String)
  | declare
  | assign
  | pipe
  | openParen
  | closeParen
  | char (c : Char)
  | str (s : String)
  | rune (n : Nat)
  | number (text : String)
  | word (w : String)
  deriving Repr, Inhabited, DecidableEq

def isBlank (c : Char) : Bool := c = ' ' ∨ c = '\t' ∨ c = '\r' ∨ c = '\n'

def isWordChar (c : Char) : Bool := c = '_' ∨ CharClass.letter c ∨ CharClass.decimalDigit c
def atClose (cs : List Char) : Bool :=
  match cs with
  | '}' :: '}' :: _ => true
  | _ => false

def atTrimClose (cs : List Char) : Bool :=
  match cs with
  | b :: '-' :: '}' :: '}' :: _ => isBlank b
  | _ => false

/-- Whether a word may end where the characters start: at a blank, the end, a point, a comma,
a bar, a colon, a parenthesis or the end of the action. -/
def atTerminator (cs : List Char) : Bool :=
  match cs with
  | [] => true
  | c :: _ => isBlank c ∨ c = '.' ∨ c = ',' ∨ c = '|' ∨ c = ':' ∨ c = ')' ∨ c = '(' ∨ atClose cs

def trimEnd (s : List Char) : List Char := (s.reverse.dropWhile isBlank).reverse

def hexValue? (c : Char) : Option Nat :=
  if '0' ≤ c ∧ c ≤ '9' then some (c.toNat - '0'.toNat)
  else if 'a' ≤ c ∧ c ≤ 'f' then some (c.toNat - 'a'.toNat + 10)
  else if 'A' ≤ c ∧ c ≤ 'F' then some (c.toNat - 'A'.toNat + 10)
  else none

def digitsValue? (base : Nat) (ds : List Char) : Option Nat :=
  ds.foldlM (fun n c => (hexValue? c).bind fun d => if d < base then some (n * base + d) else none) 0

/-- The bytes of one escape after a backslash inside a literal quoted by `q`, and the characters
after it: a letter escape, `\\`, the quote itself, `\x` and two hexadecimal digits, three octal
digits, or `\u` and `\U` with four and eight hexadecimal digits. -/
def escapeBytes (q : Char) : List Char → Option (List UInt8 × List Char)
  | 'a' :: r => some ([7], r)
  | 'b' :: r => some ([8], r)
  | 'f' :: r => some ([12], r)
  | 'n' :: r => some ([10], r)
  | 'r' :: r => some ([13], r)
  | 't' :: r => some ([9], r)
  | 'v' :: r => some ([11], r)
  | '\\' :: r => some ([92], r)
  | 'x' :: r => (digitsValue? 16 (r.take 2)).bind fun n =>
    if (r.take 2).length = 2 then some ([n.toUInt8], r.drop 2) else none
  | 'u' :: r => (digitsValue? 16 (r.take 4)).bind fun n =>
    if (r.take 4).length = 4 ∧ (n < 0xD800 ∨ (0xDFFF < n ∧ n ≤ 0x10FFFF)) then
      some (Utf8.encode (String.singleton (Char.ofNat n)), r.drop 4)
    else none
  | 'U' :: r => (digitsValue? 16 (r.take 8)).bind fun n =>
    if (r.take 8).length = 8 ∧ (n < 0xD800 ∨ (0xDFFF < n ∧ n ≤ 0x10FFFF)) then
      some (Utf8.encode (String.singleton (Char.ofNat n)), r.drop 8)
    else none
  | c :: r =>
    if c = q then some (Utf8.encode (String.singleton c), r)
    else if '0' ≤ c ∧ c ≤ '7' then
      (digitsValue? 8 (c :: r.take 2)).bind fun n =>
        if (r.take 2).length = 2 ∧ n < 256 then some ([n.toUInt8], r.drop 2) else none
    else none
  | [] => none

def unquoteBytes (q : Char) : Nat → List Char → Option (List UInt8)
  | 0, _ => none
  | _ + 1, [] => some []
  | fuel + 1, '\\' :: r => do
    let (bs, rest) ← escapeBytes q r
    let more ← unquoteBytes q fuel rest
    pure (bs ++ more)
  | fuel + 1, c :: r => (unquoteBytes q fuel r).map (Utf8.encode (String.singleton c) ++ ·)
def unquote? (inside : List Char) : Option String :=
  (unquoteBytes '"' (inside.length + 1) inside).map fun bs => String.ofList (Utf8.decode bs)

/-- The code of the inside of a character constant: one character other than the backslash,
or one escape; an escape of one byte stands for the character of that code. -/
def charConstant? (inside : List Char) : Option Nat :=
  match inside with
  | [c] => if c = '\\' then none else some c.toNat
  | '\\' :: r =>
    match escapeBytes '\'' r with
    | some ([b], []) => some b.toNat
    | some (bs, []) =>
      match Utf8.decode bs with
      | [ch] => some ch.toNat
      | _ => none
    | _ => none
  | _ => none

/-- Reads the rest of a double-quoted literal or a character constant after its opening quote:
its inside and the characters after the closing quote. -/
def readQuoted (q : Char) : Nat → List Char → List Char → Option (List Char × List Char)
  | 0, _, _ => none
  | _ + 1, [], _ => none
  | fuel + 1, c :: rest, acc =>
    if c = q then some (acc.reverse, rest)
    else if c = '\n' then none
    else if c = '\\' then
      match rest with
      | d :: more => if d = '\n' then none else readQuoted q fuel more (d :: c :: acc)
      | [] => none
    else readQuoted q fuel rest (c :: acc)

/-- Reads a number: an optional sign, a base prefix, digits with underscores and a point, and an
exponent; the number must not run on into a letter or digit. Gives its text and the rest. -/
def readNumber (cs : List Char) : Option (String × List Char) :=
  let (sign, r) := match cs with
    | c :: r => if c = '+' ∨ c = '-' then ([c], r) else ([], cs)
    | [] => ([], cs)
  let (pre, digits, r) : List Char × String × List Char := match r with
    | '0' :: x :: more =>
      if x = 'x' ∨ x = 'X' then (['0', x], "0123456789abcdefABCDEF_", more)
      else if x = 'o' ∨ x = 'O' then (['0', x], "01234567_", more)
      else if x = 'b' ∨ x = 'B' then (['0', x], "01_", more)
      else (['0'], "0123456789_", x :: more)
    | '0' :: [] => (['0'], "0123456789_", [])
    | _ => ([], "0123456789_", r)
  let inDigits (c : Char) : Bool := digits.toList.contains c
  let body := r.takeWhile inDigits
  let r := r.drop body.length
  let (frac, r) := match r with
    | '.' :: more => let f := more.takeWhile inDigits; ('.' :: f, more.drop f.length)
    | _ => ([], r)
  let expMark := if digits.length = 11 then "eE" else if digits.length = 23 then "pP" else ""
  let (exp, r) := match r with
    | e :: more =>
      if expMark.toList.contains e then
        let (s, more) := match more with
          | c :: m => if c = '+' ∨ c = '-' then ([c], m) else ([], more)
          | [] => ([], more)
        let ds := more.takeWhile fun c => c.isDigit ∨ c = '_'
        (e :: s ++ ds, more.drop ds.length)
      else ([], r)
    | [] => ([], r)
  let (imag, r) := match r with
    | 'i' :: more => (['i'], more)
    | _ => ([], r)
  match r with
  | c :: _ => if isWordChar c then none else some (String.ofList (sign ++ pre ++ body ++ frac ++ exp ++ imag), r)
  | [] => some (String.ofList (sign ++ pre ++ body ++ frac ++ exp ++ imag), r)

def lexAction : Nat → List Char → Nat → List Token → Except String (List Token × List Char)
  | 0, _, _, _ => .error "template too long"
  | fuel + 1, cs, depth, acc =>
    if atTrimClose cs then
      if depth = 0 then .ok ((Token.stop :: acc).reverse, (cs.drop 4).dropWhile isBlank)
      else .error "unclosed left paren"
    else if atClose cs then
      if depth = 0 then .ok ((Token.stop :: acc).reverse, cs.drop 2)
      else .error "unclosed left paren"
    else
      match cs with
      | [] => .error "unclosed action"
      | c :: rest =>
        if isBlank c then
          -- a run of blanks; the last one before ` -}}` belongs to the trimming end
          let run := cs.takeWhile isBlank
          let after := cs.drop run.length
          match after with
          | '-' :: '}' :: '}' :: _ => lexAction fuel (cs.drop (run.length - 1)) depth (.space :: acc)
          | _ => lexAction fuel after depth (.space :: acc)
        else if c = '=' then lexAction fuel rest depth (.assign :: acc)
        else if c = ':' then
          match rest with
          | '=' :: more => lexAction fuel more depth (.declare :: acc)
          | _ => .error "expected :="
        else if c = '|' then lexAction fuel rest depth (.pipe :: acc)
        else if c = '"' then
          match readQuoted '"' (rest.length + 1) rest [] with
          | some (inside, after) =>
            match unquote? inside with
            | some s => lexAction fuel after depth (.str s :: acc)
            | none => .error "invalid syntax"
          | none => .error "unterminated quoted string"
        else if c = '`' then
          let inside := rest.takeWhile (· ≠ '`')
          if inside.length = rest.length then .error "unterminated raw quoted string"
          else
            lexAction fuel (rest.drop (inside.length + 1)) depth
              (.str (String.ofList (inside.filter (· ≠ '\r'))) :: acc)
        else if c = '$' then
          let name := rest.takeWhile isWordChar
          let after := rest.drop name.length
          if atTerminator after then
            lexAction fuel after depth (.variable (String.ofList (c :: name)) :: acc)
          else .error "bad character"
        else if c = '\'' then
          match readQuoted '\'' (rest.length + 1) rest [] with
          | some (inside, after) =>
            match charConstant? inside with
            | some n => lexAction fuel after depth (.rune n :: acc)
            | none => .error "malformed character constant"
          | none => .error "unterminated character constant"
        else if c = '.' ∧ !((rest.head?.map Char.isDigit).getD false) then
          let name := rest.takeWhile isWordChar
          let after := rest.drop name.length
          if !atTerminator after then .error "bad character"
          else if name.isEmpty then lexAction fuel after depth (.dot :: acc)
          else lexAction fuel after depth (.field (String.ofList name) :: acc)
        else if c = '.' ∨ c = '+' ∨ c = '-' ∨ c.isDigit then
          match readNumber cs with
          | some (text, after) => lexAction fuel after depth (.number text :: acc)
          | none => .error "bad number syntax"
        else if isWordChar c then
          let w := cs.takeWhile isWordChar
          let after := cs.drop w.length
          if atTerminator after then lexAction fuel after depth (.word (String.ofList w) :: acc)
          else .error "bad character"
        else if c = '(' then lexAction fuel rest (depth + 1) (.openParen :: acc)
        else if c = ')' then
          if depth = 0 then .error "unexpected right paren"
          else lexAction fuel rest (depth - 1) (.closeParen :: acc)
        else if c.toNat < 0x80 ∧ CharClass.printable c then lexAction fuel rest depth (.char c :: acc)
        else .error "unrecognized character in action"

def splitAtOpen (cs : List Char) : List Char × Option (List Char) :=
  let rec go : List Char → List Char → List Char × Option (List Char)
    | [], acc => (acc.reverse, none)
    | '{' :: '{' :: rest, acc => (acc.reverse, some ('{' :: '{' :: rest))
    | c :: rest, acc => go rest (c :: acc)
  go cs []

def lexText : Nat → List Char → List Token → Except String (List Token)
  | 0, _, _ => .error "template too long"
  | fuel + 1, cs, acc =>
    match splitAtOpen cs with
    | (before, none) => .ok ((if before.isEmpty then acc else .text (String.ofList before) :: acc).reverse)
    | (before, some opening) =>
      let afterOpen := opening.drop 2
      let trimLeft := match afterOpen with
        | '-' :: b :: _ => isBlank b
        | _ => false
      let before := if trimLeft then trimEnd before else before
      let acc := if before.isEmpty then acc else .text (String.ofList before) :: acc
      let inner := if trimLeft then afterOpen.drop 2 else afterOpen
      match inner with
      | '/' :: '*' :: rest =>
        -- a comment: up to `*/`, then the end of the action
        let rec findClose : List Char → Option (List Char)
          | '*' :: '/' :: more => some more
          | _ :: more => findClose more
          | [] => none
        match findClose rest with
        | none => .error "unclosed comment"
        | some more =>
          if atTrimClose more then lexText fuel ((more.drop 4).dropWhile isBlank) acc
          else if atClose more then lexText fuel (more.drop 2) acc
          else .error "comment ends before closing delimiter"
      | _ =>
        match lexAction (inner.length + 1) inner 0 [] with
        | .ok (tokens, after) => lexText fuel after (tokens.reverse ++ .start :: acc)
        | .error e => .error e

def lex (source : String) : Except String (List Token) :=
  lexText (source.length + 1) source.toList []

/-! ## Syntax -/

inductive Arg where
  | dot
  | nil
  | bool (b : Bool)
  | number (text : String)
  | rune (n : Nat)
  | str (s : String)
  | func (name : String)
  | field (path : List String)
  | var (name : String) (path : List String)
  | group (cmds : List (List Arg)) (path : List String)
  deriving Repr, Inhabited

structure Pipe where
  decl : List String := []
  assign : Bool := false
  cmds : List (List Arg)
  deriving Repr, Inhabited

inductive Node where
  | text (s : String)
  | action (p : Pipe)
  | cond (isWith : Bool) (p : Pipe) (body orElse : List Node)
  | loop (p : Pipe) (body orElse : List Node)
  | leave
  | skip
  /-- `template`: the named template run with the pipeline's value as its cursor, or with
  nothing when there is no pipeline. -/
  | invoke (name : String) (p : Option Pipe)
  deriving Repr, Inhabited

/-- Whether parts are empty as a definition: nothing but blank text. A definition that is empty
gives way to one that is not. -/
def emptyParts (ns : List Node) : Bool :=
  ns.all fun n => match n with
    | .text s => s.trimAscii.isEmpty
    | _ => false

def functions : List String :=
  ["and", "call", "html", "index", "slice", "js", "len", "not", "or", "print", "printf",
   "println", "urlquery", "eq", "ge", "gt", "le", "lt", "ne"]

def keywords : List String :=
  ["block", "break", "continue", "define", "else", "end", "if", "range", "nil", "template", "with"]

inductive Constant where
  | int (n : Int)
  | float (x : Binary)
  | overflow
  deriving Repr, Inhabited

/-- An unsigned integer literal with an optional base prefix (`0b`, `0o`, `0x`, or a leading
zero for octal), and underscores between digits. -/
def unsignedLiteral? (body : List Char) : Option Nat :=
  if body.isEmpty then none
  else
    let (base, digits) : Nat × List Char := match body with
      | '0' :: b :: rest =>
        if b = 'b' ∨ b = 'B' then (if rest.isEmpty then (8, b :: rest) else (2, rest))
        else if b = 'o' ∨ b = 'O' then (if rest.isEmpty then (8, b :: rest) else (8, rest))
        else if b = 'x' ∨ b = 'X' then (if rest.isEmpty then (8, b :: rest) else (16, rest))
        else (8, b :: rest)
      | '0' :: [] => (8, [])
      | _ => (10, body)
    let plain := digits.filter (· ≠ '_')
    if plain.length ≠ digits.length ∧ !underscoresFit body then none
    else digitsValue? base plain
def constant? (text : String) : Except String Constant :=
  let cs := text.toList
  let (neg, body) : Bool × List Char := match cs with
    | '-' :: r => (true, r)
    | '+' :: r => (false, r)
    | r => (false, r)
  let asInt : Option Int := (unsignedLiteral? body).bind fun n =>
    let v : Int := if neg then -(n : Int) else n
    if -(Int.pow 2 63) ≤ v ∧ v < Int.pow 2 63 then some v else none
  let asUint : Option Nat := match cs with
    | '-' :: _ | '+' :: _ => none
    | _ => (unsignedLiteral? cs).bind fun n => if n < Nat.pow 2 64 then some n else none
  match asInt, asUint with
  | some v, _ => .ok (.int v)
  | none, some _ => .ok .overflow
  | none, none =>
    match Numeral.read? text with
    | some (.finite n d e) =>
      match Binary.ofNumeral .double (.finite n d e) with
      | .infinity _ => .error "illegal number syntax"
      | x => if cs.any (fun c => "eEpP.".toList.contains c) then .ok (.float x)
        else .error "integer overflow"
    | _ => .error "illegal number syntax"

/-- The state of reading a template: the tokens left, the variables in scope and how many
ranges enclose the place. -/
structure Reader where
  tokens : List Token
  vars : List String := ["$"]
  loops : Nat := 0
  defs : List (String × List Node) := []

abbrev ReadM := StateT Reader (Except String)

def peek : ReadM (Option Token) := do pure (← get).tokens.head?

def advance : ReadM (Option Token) := do
  let r ← get
  match r.tokens with
  | t :: rest => set { r with tokens := rest }; pure (some t)
  | [] => pure none

def putBack (ts : List Token) : ReadM Unit :=
  modify fun r => { r with tokens := ts ++ r.tokens }

def peekWord : ReadM (Option Token) := do
  modify fun r => { r with tokens := r.tokens.dropWhile (· = .space) }
  peek

def nextWord : ReadM (Option Token) := do
  let _ ← peekWord
  advance

def expectStop (context : String) : ReadM Unit := do
  match ← nextWord with
  | some .stop => pure ()
  | _ => throw ("unexpected token in " ++ context)

inductive Piece where
  | node (n : Node)
  | finish
  | otherwise

def moreFields : Nat → ReadM (List String)
  | 0 => pure []
  | fuel + 1 => do
    match ← peek with
    | some (.field f) => let _ ← advance; pure (f :: (← moreFields fuel))
    | _ => pure []

/-- Checks a pipeline: it has a command, and no command after the first starts with a
constant or the cursor. -/
def checkPipe (context : String) (cmds : List (List Arg)) : ReadM Unit := do
  if cmds.isEmpty then throw ("missing value for " ++ context)
  for c in cmds.drop 1 do
    match c with
    | .bool _ :: _ | .dot :: _ | .nil :: _ | .number _ :: _ | .rune _ :: _ | .str _ :: _ =>
      throw "non executable command in pipeline"
    | _ => pure ()

/-- Records a named template. An empty definition does not replace one that is not, and two
definitions that are not empty are an error. -/
def addDefinition (name : String) (body : List Node) : ReadM Unit := do
  let defs := (← get).defs
  match defs.lookup name with
  | none => modify fun r => { r with defs := defs ++ [(name, body)] }
  | some old =>
    if emptyParts old then
      modify fun r => { r with defs := defs.map fun (k, v) => if k = name then (k, body) else (k, v) }
    else if !emptyParts body then throw ("template: multiple definition of template " ++ Quote.string name)

def templateName (context : String) : ReadM String := do
  match ← nextWord with
  | some (.str s) => pure s
  | _ => throw ("unexpected token in " ++ context)

mutual

/-- Reads a term: a constant, a function, the cursor, a field, a variable, or a pipeline in
parentheses. Gives nothing, taking nothing, when the next token starts none. -/
def term : Nat → ReadM (Option Arg)
  | 0 => throw "template too deep"
  | fuel + 1 => do
    match ← nextWord with
    | some (.word w) =>
      if w = "true" then pure (some (.bool true))
      else if w = "false" then pure (some (.bool false))
      else if w = "nil" then pure (some .nil)
      else if keywords.contains w then throw ("unexpected " ++ w)
      else if functions.contains w then pure (some (.func w))
      else throw ("function " ++ w ++ " not defined")
    | some .dot => pure (some .dot)
    | some (.variable v) =>
      if (← get).vars.contains v then pure (some (.var v []))
      else throw ("undefined variable " ++ v)
    | some (.field f) => pure (some (.field [f]))
    | some (.number t) =>
      match constant? t with
      | .ok _ => pure (some (.number t))
      | .error e => throw e
    | some (.rune n) => pure (some (.rune n))
    | some (.str s) => pure (some (.str s))
    | some .openParen =>
      let p ← pipeline fuel "parenthesized pipeline" .closeParen
      if p.decl.isEmpty then pure (some (.group p.cmds []))
      else throw "declaration in parenthesized pipeline"
    | some t => putBack [t]; pure none
    | none => pure none

def operand : Nat → ReadM (Option Arg)
  | 0 => throw "template too deep"
  | fuel + 1 => do
    match ← term fuel with
    | none => pure none
    | some a =>
      let more ← moreFields (← get).tokens.length
      if more.isEmpty then pure (some a)
      else
        match a with
        | .field p => pure (some (.field (p ++ more)))
        | .var v p => pure (some (.var v (p ++ more)))
        | .group c p => pure (some (.group c (p ++ more)))
        | .func f => pure (some (.group [[.func f]] more))
        | _ => throw "unexpected . after term"

/-- Reads the operands of a command, separated by blanks, up to a bar, which it takes, or the end
of the action or a closing parenthesis, which it leaves. -/
def operands : Nat → ReadM (List Arg)
  | 0 => throw "template too deep"
  | fuel + 1 => do
    let _ ← peekWord
    let a ← operand fuel
    let rest ← match ← advance with
      | some .space => operands fuel
      | some .stop => putBack [.stop]; pure []
      | some .closeParen => putBack [.closeParen]; pure []
      | some .pipe => pure []
      | _ => throw "unexpected token in operand"
    pure (a.toList ++ rest)

def command : Nat → ReadM (List Arg)
  | 0 => throw "template too deep"
  | fuel + 1 => do
    let args ← operands fuel
    if args.isEmpty then throw "empty command" else pure args

def commands : Nat → Token → ReadM (List (List Arg))
  | 0, _ => throw "template too deep"
  | fuel + 1, closer => do
    match ← nextWord with
    | some t =>
      if t = closer then pure []
      else
        match t with
        | .word _ | .rune _ | .dot | .field _ | .number _ | .str _ | .variable _ | .openParen =>
          putBack [t]
          -- a command reads up to a bar, which ends it; the next command follows
          let c ← command fuel
          pure (c :: (← commands fuel closer))
        | _ => throw "unexpected token in pipeline"
    | none => throw "unclosed action"

def pipeline : Nat → String → Token → ReadM Pipe
  | 0, _, _ => throw "template too deep"
  | fuel + 1, context, closer => do
    let (decl, assign) ← declarations fuel context []
    let cmds ← commands fuel closer
    checkPipe context cmds
    pure { decl, assign, cmds }

/-- Reads the variables a pipeline declares or assigns: `$x :=`, `$x =`, or in a range
`$i, $e :=`. -/
def declarations : Nat → String → List String → ReadM (List String × Bool)
  | 0, _, _ => throw "template too deep"
  | fuel + 1, context, sofar => do
    match ← peekWord with
    | some (.variable v) =>
      let _ ← advance
      let after ← peek
      match ← peekWord with
      | some .declare =>
        let _ ← advance
        modify fun r => { r with vars := r.vars ++ [v] }
        pure (sofar ++ [v], false)
      | some .assign =>
        let _ ← advance
        modify fun r => { r with vars := r.vars ++ [v] }
        pure (sofar ++ [v], true)
      | some (.char ',') =>
        let _ ← advance
        modify fun r => { r with vars := r.vars ++ [v] }
        if context = "range" ∧ sofar.isEmpty then
          match ← peekWord with
          | some (.variable _) | some .stop | some .closeParen => declarations fuel context (sofar ++ [v])
          | _ => throw "range can only initialize variables"
        else throw ("too many declarations in " ++ context)
      | _ =>
        if after = some .space then putBack [.variable v, .space] else putBack [.variable v]
        pure (sofar, false)
    | _ => pure (sofar, false)

def piece : Nat → ReadM Piece
  | 0 => throw "template too deep"
  | fuel + 1 => do
    match ← nextWord with
    | some (.text s) => pure (.node (.text s))
    | some .start => action fuel
    | _ => throw "unexpected token in input"

def action : Nat → ReadM Piece
  | 0 => throw "template too deep"
  | fuel + 1 => do
    match ← nextWord with
    | some (.word "break") =>
      expectStop "break"
      if (← get).loops = 0 then throw "break outside range" else pure (.node .leave)
    | some (.word "continue") =>
      expectStop "continue"
      if (← get).loops = 0 then throw "continue outside range" else pure (.node .skip)
    | some (.word "else") =>
      match ← peekWord with
      | some (.word "if") | some (.word "with") => pure .otherwise
      | _ => expectStop "else"; pure .otherwise
    | some (.word "end") => expectStop "end"; pure .finish
    | some (.word "if") => pure (.node (← control fuel "if"))
    | some (.word "range") => pure (.node (← control fuel "range"))
    | some (.word "with") => pure (.node (← control fuel "with"))
    | some (.word "template") =>
      let name ← templateName "template clause"
      match ← peekWord with
      | some .stop => let _ ← advance; pure (.node (.invoke name none))
      | _ => pure (.node (.invoke name (some (← pipeline fuel "template clause" .stop))))
    | some (.word "block") =>
      let name ← templateName "block clause"
      let p ← pipeline fuel "block clause" .stop
      addDefinition name (← namedBody fuel "block clause")
      pure (.node (.invoke name (some p)))
    | some (.word "define") => throw "unexpected define in command"
    | some t =>
      putBack [t]
      pure (.node (.action (← pipeline fuel "command" .stop)))
    | none => throw "unclosed action"

def parts : Nat → ReadM (List Node × Piece)
  | 0 => throw "template too deep"
  | fuel + 1 => do
    if (← peekWord).isNone then throw "unexpected EOF"
    match ← piece fuel with
    | .node n => let (ns, last) ← parts fuel; pure (n :: ns, last)
    | last => pure ([], last)

/-- Reads a control structure after its keyword: its pipeline, its body, and its other branch.
The variables it declares end with it. -/
def control : Nat → String → ReadM Node
  | 0, _ => throw "template too deep"
  | fuel + 1, context => do
    let saved := (← get).vars
    let p ← pipeline fuel context .stop
    if context = "range" then modify fun r => { r with loops := r.loops + 1 }
    let (body, last) ← parts fuel
    if context = "range" then modify fun r => { r with loops := r.loops - 1 }
    let orElse ← match last with
      | .otherwise =>
        match ← peek with
        | some (.word w) =>
          if context ≠ "range" ∧ w = context then
            let _ ← advance
            pure [← control fuel context]
          else elseParts fuel
        | _ => elseParts fuel
      | _ => pure []
    modify fun r => { r with vars := saved }
    pure (if context = "range" then .loop p body orElse else .cond (context = "with") p body orElse)

/-- Reads the body of a named template up to its `end`. It sees none of the variables around
it, and no range encloses it. -/
def namedBody : Nat → String → ReadM (List Node)
  | 0, _ => throw "template too deep"
  | fuel + 1, context => do
    let r ← get
    set { r with vars := ["$"], loops := 0 }
    let (body, last) ← parts fuel
    modify fun r2 => { r2 with vars := r.vars, loops := r.loops }
    match last with
    | .finish => pure body
    | _ => throw ("unexpected else in " ++ context)

def elseParts : Nat → ReadM (List Node)
  | 0 => throw "template too deep"
  | fuel + 1 => do
    let (ns, last) ← parts fuel
    match last with
    | .finish => pure ns
    | _ => throw "expected end"

end

def definition (fuel : Nat) : ReadM Unit := do
  let name ← templateName "define clause"
  expectStop "define clause"
  addDefinition name (← namedBody fuel "define clause")

/-- Whether the next tokens start a definition, which only the top level of a template may
hold. -/
def atDefinition (ts : List Token) : Bool :=
  match ts with
  | .start :: rest =>
    match rest.dropWhile (· = .space) with
    | .word "define" :: _ => true
    | _ => false
  | _ => false

def topParts : Nat → ReadM (List Node)
  | 0 => throw "template too deep"
  | fuel + 1 => do
    if (← peek).isNone then pure []
    else if atDefinition (← get).tokens then
      let _ ← nextWord
      let _ ← nextWord
      definition fuel
      topParts fuel
    else
      match ← piece fuel with
      | .node n => pure (n :: (← topParts fuel))
      | _ => throw "unexpected end or else"

def mainName : String := "template"

/-- Reads a template: its named templates, the text outside definitions among them under
`mainName`. -/
def parse (source : String) : Except String (List (String × List Node)) := do
  let tokens ← lex source
  let fuel := 16 * (tokens.length + 2)
  let (_, r) ← (do addDefinition mainName (← topParts fuel)).run { tokens }
  pure r.defs

/-! ## Running -/

/-- A value an evaluation stands on: nothing, or a value. A value `null` is an empty slot of
a list or map, which is not nothing until it is taken out as the value of a pipeline. -/
abbrev Slot := Option Value

def settle : Slot → Slot
  | some .null => none
  | v => v

/-- Whether a value counts as true: not nothing, `false`, zero, or an empty text, list or
map. -/
def truth : Slot → Bool
  | none => false
  | some v =>
    match v with
    | .null => false
    | .bool b => b
    | .text s => s ≠ ""
    | .numeral s => s ≠ ""
    | .bytes bs => !bs.isEmpty
    | .int _ n => n ≠ 0
    | .float64 x | .float32 x =>
      match x with
      | .finite _ m _ => m ≠ 0
      | _ => true
    | .time _ => true
    | .list xs => !xs.isEmpty
    | .map fs => !fs.isEmpty

def shown : Slot → String
  | none => "<no value>"
  | some v => Printf.join [v]

def constantValue (text : String) : Except String Value :=
  match constant? text with
  | .ok (.int n) => .ok (.int .int n)
  | .ok (.float x) => .ok (.float64 x)
  | .ok .overflow => .error (text ++ " overflows int")
  | .error e => .error e

/-- A field of a value, or a method of a number: `String`, `Int64` or `Float64`. Arguments are
an error: a field takes none. -/
def fieldOf (name : String) (hasArgs : Bool) : Slot → Except String Slot
  | none => .error ("nil data; no entry for key " ++ name)
  | some .null => .error ("nil pointer evaluating interface " ++ name)
  | some (.numeral s) =>
    if hasArgs then .error ("wrong number of args for " ++ name)
    else if name = "String" then .ok (some (.text s))
    else if name = "Int64" then
      match readInt64? s with
      | some n => .ok (some (.int .int64 n))
      | none => .error "invalid syntax"
    else if name = "Float64" then
      match Numeral.read? s with
      | some num =>
        match Binary.ofNumeral .double num with
        | .infinity _ => .error "value out of range"
        | x => .ok (some (.float64 x))
      | none => .error "invalid syntax"
    else .error ("can't evaluate field " ++ name)
  | some (.map fs) =>
    if hasArgs then .error (name ++ " is not a method but has arguments")
    else
      match fs.find? (·.1 = name) with
      | some (_, v) => .ok (some v)
      | none => .error ("map has no entry for key " ++ name)
  | some _ => .error ("can't evaluate field " ++ name)

def fieldsOf (path : List String) (hasArgs : Bool) (receiver : Slot) : Except String Slot :=
  match path with
  | [] => .ok receiver
  | [f] => fieldOf f hasArgs receiver
  | f :: rest => do fieldsOf rest hasArgs (← fieldOf f false receiver)

inductive Basic where
  | bool
  | int
  | uint
  | float
  | string
  | other
  | none
  deriving DecidableEq

def basicOf : Slot → Basic
  | none | some .null => .none
  | some (.bool _) => .bool
  | some (.int w _) => if w = .uint64 ∨ w = .uint8 then .uint else .int
  | some (.float64 _) | some (.float32 _) => .float
  | some (.text _) | some (.numeral _) => .string
  | some _ => .other

def intOf : Slot → Int
  | some (.int _ n) => n
  | _ => 0

def ratOf : Slot → Rat
  | some (.float64 x) | some (.float32 x) => x.toRat?.getD 0
  | _ => 0

def textOf : Slot → String
  | some (.text s) | some (.numeral s) => s
  | _ => ""
def present (v : Slot) : Bool := basicOf v ≠ .none

/-- Whether two values are equal for `eq`: booleans, integers, floats and texts of one kind,
or two empty values; integers with and without sign compare by value. -/
def same (a b : Slot) : Except String Bool :=
  let ka := basicOf a
  let kb := basicOf b
  if ka ≠ kb then
    if (ka = .int ∧ kb = .uint) ∨ (ka = .uint ∧ kb = .int) then .ok (intOf a = intOf b)
    else if present a ∧ present b then .error "incompatible types for comparison"
    else .ok false
  else
    match ka with
    | .bool => .ok (truth a = truth b)
    | .int | .uint => .ok (intOf a = intOf b)
    | .float => .ok (ratOf a = ratOf b)
    | .string => .ok (textOf a = textOf b)
    | .none => .ok true
    | .other => .error "non-comparable type"

def below (a b : Slot) : Except String Bool :=
  let ka := basicOf a
  let kb := basicOf b
  if ka = .none ∨ ka = .other ∨ kb = .none ∨ kb = .other then .error "invalid type for comparison"
  else if ka ≠ kb then
    if (ka = .int ∧ kb = .uint) ∨ (ka = .uint ∧ kb = .int) then .ok (intOf a < intOf b)
    else .error "incompatible types for comparison"
  else
    match ka with
    | .int | .uint => .ok (intOf a < intOf b)
    | .float => .ok (ratOf a < ratOf b)
    | .string => .ok (decide (textOf a < textOf b))
    | _ => .error "invalid type for comparison"

def indexArg (len : Nat) : Slot → Except String Nat
  | some (.int _ n) =>
    if n < 0 ∨ n > len then .error "index out of range" else .ok n.toNat
  | none | some .null => .error "cannot index slice/array with nil"
  | _ => .error "cannot index slice/array with this type"

/-- One step of `index`: an item of a list, a byte of a text, or the value of a key of a map,
which is an empty slot when the map has no such key. -/
def indexOnce (item idx : Slot) : Except String Slot :=
  match item with
  | some .null | none => .error "index of nil pointer"
  | some (.text s) | some (.numeral s) => do
    let bs := Utf8.encode s
    let x ← indexArg bs.length idx
    if x = bs.length then .error "index out of range"
    else .ok (some (.int .uint8 (bs.getD x 0).toNat))
  | some (.bytes bs) => do
    let x ← indexArg bs.length idx
    if x = bs.length then .error "index out of range"
    else .ok (some (.int .uint8 (bs.getD x 0).toNat))
  | some (.list xs) => do
    let x ← indexArg xs.length idx
    if x = xs.length then .error "index out of range"
    else .ok (some (xs.getD x .null))
  | some (.map fs) =>
    match settle idx with
    | some (.text k) => .ok (some ((fs.find? (·.1 = k)).map (·.2) |>.getD .null))
    | none => .error "value is nil; should be of type string"
    | _ => .error "value has the wrong type for the map key"
  | some _ => .error "can't index item"

def sliceOf (item : Slot) (idxs : List Slot) : Except String Slot := do
  if idxs.length > 3 then throw "too many slice indexes"
  let (len, isText) ← match item with
    | some (.text s) | some (.numeral s) =>
      if idxs.length = 3 then throw "cannot 3-index slice a string"
      else pure ((Utf8.encode s).length, true)
    | some (.list xs) => pure (xs.length, false)
    | some (.bytes bs) => pure (bs.length, false)
    | none | some .null => throw "slice of untyped nil"
    | _ => throw "can't slice item"
  let given ← idxs.mapM (indexArg len)
  let i := given.getD 0 0
  let j := given.getD 1 len
  if i > j then throw "invalid slice index"
  if given.length = 3 ∧ j > given.getD 2 len then throw "invalid slice index"
  let _ := isText
  match item with
  | some (.text s) => pure (some (.text (String.ofList (Utf8.decode (((Utf8.encode s).drop i).take (j - i))))))
  | some (.numeral s) => pure (some (.numeral (String.ofList (Utf8.decode (((Utf8.encode s).drop i).take (j - i))))))
  | some (.list xs) => pure (some (.list ((xs.drop i).take (j - i))))
  | some (.bytes bs) => pure (some (.bytes ((bs.drop i).take (j - i))))
  | _ => throw "can't slice item"

def upperHexDigits (width n : Nat) : String :=
  (Quote.hexDigits width n).toUpper

def htmlEscape (s : String) : String :=
  String.join (s.toList.map fun c =>
    if c = '\x00' then "\uFFFD"
    else if c = '"' then "&#34;"
    else if c = '\'' then "&#39;"
    else if c = '&' then "&amp;"
    else if c = '<' then "&lt;"
    else if c = '>' then "&gt;"
    else String.singleton c)
def jsEscape (s : String) : String :=
  String.join (s.toList.map fun c =>
    if c = '\\' then "\\\\"
    else if c = '\'' then "\\'"
    else if c = '"' then "\\\""
    else if c = '<' then "\\u003C"
    else if c = '>' then "\\u003E"
    else if c = '&' then "\\u0026"
    else if c = '=' then "\\u003D"
    else if c.toNat < 0x20 then "\\u00" ++ upperHexDigits 2 c.toNat
    else if c.toNat < 0x80 ∨ CharClass.printable c then String.singleton c
    else "\\u" ++ upperHexDigits 4 c.toNat)

def unreservedByte (b : UInt8) : Bool :=
  (65 ≤ b && b ≤ 90) || (97 ≤ b && b ≤ 122) || (48 ≤ b && b ≤ 57) || b == 45 || b == 46 ||
    b == 95 || b == 126

/-- A text escaped for a query: a space as `+`, every byte that is not unreserved as `%` and two
hexadecimal digits. -/
def queryEscape (s : String) : String :=
  String.join ((Utf8.encode s).map fun b =>
    if unreservedByte b then String.singleton (Char.ofNat b.toNat)
    else if b == 32 then "+"
    else "%" ++ upperHexDigits 2 b.toNat)

/-- The text the escaping functions work on: a lone text as it is, otherwise the values joined
as `print` joins them, with nothing written `<no value>`. -/
def escapeInput (args : List Slot) : String :=
  match args with
  | [some (.text s)] => s
  | _ => Printf.join (args.map fun a =>
      match a with
      | none | some .null => .text "<no value>"
      | some v => v)

def loose : Slot → Value
  | none => .null
  | some v => v

/-- How a function takes an argument: as a value, which must not be nothing; as anything; or as
a text. -/
inductive Slot.Kind where
  | value
  | any
  | text
  deriving DecidableEq

def signature : String → List Slot.Kind × Option Slot.Kind
  | "not" | "len" => ([.value], none)
  | "ne" | "lt" | "le" | "gt" | "ge" => ([.value, .value], none)
  | "index" | "slice" | "eq" | "call" | "and" | "or" => ([.value], some .value)
  | "printf" => ([.text], some .any)
  | _ => ([], some .any)

def accept (kind : Slot.Kind) (v : Slot) : Except String Slot :=
  match kind, v with
  | .value, none => .error "invalid value"
  | .any, none => .ok (some .null)
  | .text, some (.text s) => .ok (some (.text s))
  | .text, _ => .error "wrong type for value; expected string"
  | _, v => .ok v

def kindAt (name : String) (i : Nat) : Slot.Kind :=
  let (fixed, rest) := signature name
  fixed.getD i (rest.getD .any)

def callFunction (name : String) (args : List Slot) : Except String Slot :=
  let (fixed, rest) := signature name
  if args.length < fixed.length ∨ (rest.isNone ∧ args.length ≠ fixed.length) then
    .error ("wrong number of args for " ++ name)
  else
    match name, args with
    | "not", [a] => .ok (some (.bool !(truth a)))
    | "len", [a] =>
      match a with
      | some (.text s) | some (.numeral s) => .ok (some (.int .int (Utf8.encode s).length))
      | some (.list xs) => .ok (some (.int .int xs.length))
      | some (.map fs) => .ok (some (.int .int fs.length))
      | some (.bytes bs) => .ok (some (.int .int bs.length))
      | some .null => .error "len of nil pointer"
      | _ => .error "len of this type"
    | "index", item :: idxs =>
      match settle item with
      | none => .error "index of untyped nil"
      | some _ => idxs.foldlM (fun cur idx => indexOnce cur (settle idx)) item
    | "slice", item :: idxs => sliceOf (settle item) (idxs.map settle)
    | "eq", a :: bs =>
      if bs.isEmpty then .error "missing argument for comparison"
      else
        let step (acc : Bool) (b : Slot) : Except String Bool :=
          if acc then .ok true else same (settle a) (settle b)
        (bs.foldlM step false).map fun t => some (.bool t)
    | "ne", [a, b] => (same (settle a) (settle b)).map fun t => some (.bool !t)
    | "lt", [a, b] => (below (settle a) (settle b)).map fun t => some (.bool t)
    | "le", [a, b] => do
      let lt ← below (settle a) (settle b)
      if lt then pure (some (.bool true)) else (same (settle a) (settle b)).map fun t => some (.bool t)
    | "gt", [a, b] => do
      let lt ← below (settle a) (settle b)
      if lt then pure (some (.bool false)) else (same (settle a) (settle b)).map fun t => some (.bool !t)
    | "ge", [a, b] => (below (settle a) (settle b)).map fun t => some (.bool !t)
    | "print", _ => .ok (some (.text (Printf.join (args.map loose))))
    | "println", _ => .ok (some (.text (" ".intercalate (args.map fun a => Printf.join [loose a]) ++ "\n")))
    | "printf", some (.text f) :: more => .ok (some (.text (Printf.format f (more.map loose))))
    | "html", _ => .ok (some (.text (htmlEscape (escapeInput args))))
    | "js", _ => .ok (some (.text (jsEscape (escapeInput args))))
    | "urlquery", _ => .ok (some (.text (queryEscape (escapeInput args))))
    | "call", _ => .error "call of a value that is not a function"
    | _, _ => .error ("wrong number of args for " ++ name)

structure Run where
  defs : List (String × List Node) := []
  depth : Nat := 0
  vars : List (String × Slot)
  out : String := ""

abbrev RunM := StateT Run (Except String)
def maxDepth : Nat := 10000

def fail {α : Type} (e : String) : RunM α := throw e

def lift {α : Type} (r : Except String α) : RunM α :=
  match r with
  | .ok a => pure a
  | .error e => throw e

def varValue (name : String) : RunM Slot := do
  match (← get).vars.find? (·.1 = name) with
  | some (_, v) => pure v
  | none => fail ("undefined variable: " ++ name)
def setVar (name : String) (v : Slot) : RunM Unit := do
  let vars := (← get).vars
  match vars.findIdx? (·.1 = name) with
  | some i => modify fun r => { r with vars := vars.set i (name, v) }
  | none => fail ("undefined variable: " ++ name)

def popTo (n : Nat) : RunM Unit :=
  modify fun r => { r with vars := r.vars.drop (r.vars.length - n) }

def setTop (n : Nat) (v : Slot) : RunM Unit :=
  modify fun r => { r with vars := match r.vars[n - 1]? with
    | some (name, _) => r.vars.set (n - 1) (name, v)
    | none => r.vars }

def emit (s : String) : RunM Unit := modify fun r => { r with out := r.out ++ s }

/-- What running parts leads to: on to the next part, out of the innermost range, or on to its
next item. -/
inductive Flow where
  | next
  | leave
  | skip
  deriving DecidableEq

mutual

def argValue : Nat → Slot → Arg → RunM Slot
  | 0, _, _ => fail "template too deep"
  | fuel + 1, dot, a =>
    match a with
    | .dot => pure dot
    | .nil => pure (some .null)
    | .bool b => pure (some (.bool b))
    | .number t => do pure (some (← lift (constantValue t)))
    | .rune n => pure (some (.int .int n))
    | .str s => pure (some (.text s))
    | .func f => callNamed fuel dot f [] none
    | .field path => lift (fieldsOf path false dot)
    | .var v path => do lift (fieldsOf path false (← varValue v))
    | .group cmds path => do
      let v ← pipeValue fuel dot cmds
      if path.isEmpty then pure v else lift (fieldsOf path false v)

/-- Calls a function by name with its operands and the value piped into it, if any. `and`
and `or` look at their operands one by one and stop at the first false or true one. -/
def callNamed : Nat → Slot → String → List Arg → Option Slot → RunM Slot
  | 0, _, _, _, _ => fail "template too deep"
  | fuel + 1, dot, name, args, final =>
    if name = "and" ∨ name = "or" then do
      if args.isEmpty ∧ final.isNone then fail ("wrong number of args for " ++ name)
      let (found, last) ← args.foldlM (fun (st : Option Slot × Slot) a => do
          match st.1 with
          | some _ => pure st
          | none =>
            let v ← lift (accept .value (← argValue fuel dot a))
            if truth v = (name = "or") then pure (some v, v) else pure (none, v))
        (none, none)
      match found, final with
      | some v, _ => pure v
      | none, some f => lift (accept .value f)
      | none, none => pure last
    else do
      let given ← (args.zipIdx).mapM fun (a, i) => do
        lift (accept (kindAt name i) (← argValue fuel dot a))
      let piped ← match final with
        | some f => do pure [← lift (accept (kindAt name args.length) f)]
        | none => pure []
      lift (callFunction name (given ++ piped))

def commandValue : Nat → Slot → List Arg → Option Slot → RunM Slot
  | 0, _, _, _ => fail "template too deep"
  | fuel + 1, dot, cmd, final =>
    let notAFunction (rest : List Arg) : RunM Unit :=
      if rest.isEmpty ∧ final.isNone then pure () else fail "can't give argument to non-function"
    match cmd with
    | [] => fail "empty command"
    | first :: rest =>
      match first with
      | .func f => callNamed fuel dot f rest final
      | .field path => lift (fieldsOf path (!rest.isEmpty ∨ final.isSome) dot)
      | .var v path => do
        let value ← varValue v
        if path.isEmpty then do notAFunction rest; pure value
        else lift (fieldsOf path (!rest.isEmpty ∨ final.isSome) value)
      | .group cmds path => do
        if path.isEmpty then do
          notAFunction rest
          pipeValue fuel dot cmds
        else
          let value ← pipeValue fuel dot cmds
          lift (fieldsOf path (!rest.isEmpty ∨ final.isSome) value)
      | .nil => fail "nil is not a command"
      | other => do
        notAFunction rest
        argValue fuel dot other

/-- The value of a pipeline's commands: each command's value is given to the next, and a
value of an empty slot is nothing. -/
def pipeValue : Nat → Slot → List (List Arg) → RunM Slot
  | 0, _, _ => fail "template too deep"
  | fuel + 1, dot, cmds => do
    let final ← cmds.foldlM (fun (final : Option Slot) c => do
        pure (some (settle (← commandValue fuel dot c final))))
      none
    pure (final.getD none)

end

def runPipe (fuel : Nat) (dot : Slot) (p : Pipe) : RunM Slot := do
  let v ← pipeValue fuel dot p.cmds
  for name in p.decl do
    if p.assign then setVar name v
    else modify fun r => { r with vars := (name, v) :: r.vars }
  pure v

def rangeItems (p : Pipe) : Slot → Except String (List (Slot × Slot))
  | none => .ok []
  | some (.list xs) => .ok (xs.zipIdx.map fun (x, i) => (some (.int .int i), some x))
  | some (.map fs) =>
    let keys := (fs.map (·.1)).mergeSort (fun a b => decide (a ≤ b))
    .ok (keys.filterMap fun k => (fs.find? (·.1 = k)).map fun (_, v) => (some (.text k), some v))
  | some (.int w n) =>
    if p.decl.length > 1 then .error "can't use an integer to iterate over more than one variable"
    else .ok ((List.range n.toNat).map fun (i : Nat) => (none, some (.int w (i : Int))))
  | some _ => .error "range can't iterate over this value"

mutual

def walk : Nat → Slot → List Node → RunM Flow
  | 0, _, _ => fail "template too deep"
  | fuel + 1, dot, nodes => do
    match nodes with
    | [] => pure .next
    | n :: rest =>
      let flow ← walkNode fuel dot n
      if flow = .next then walk fuel dot rest else pure flow

def walkNode : Nat → Slot → Node → RunM Flow
  | 0, _, _ => fail "template too deep"
  | fuel + 1, dot, node =>
    match node with
    | .text s => do emit s; pure .next
    | .action p => do
      let v ← runPipe fuel dot p
      if p.decl.isEmpty then emit (shown v)
      pure .next
    | .cond isWith p body orElse => do
      let mark := (← get).vars.length
      let v ← runPipe fuel dot p
      let flow ← if truth v then walk fuel (if isWith then v else dot) body
        else walk fuel dot orElse
      popTo mark
      pure flow
    | .loop p body orElse => do
      let outer := (← get).vars.length
      let v ← runPipe fuel dot p
      let items ← lift (rangeItems p v)
      let mark := (← get).vars.length
      if items.isEmpty then do
        let flow ← walk fuel dot orElse
        popTo outer
        pure flow
      else do
        let _ ← items.foldlM (fun (stopped : Bool) (idx, elem) => do
            if stopped then pure true
            else
              if p.decl.length ≥ 1 then setTop 1 elem
              if p.decl.length ≥ 2 then setTop 2 idx
              let flow ← walk fuel elem body
              popTo mark
              pure (flow = .leave))
          false
        popTo outer
        pure .next
    | .leave => pure .leave
    | .skip => pure .skip
    | .invoke name p => do
      let some body := (← get).defs.lookup name
        | fail ("template " ++ Quote.string name ++ " not defined")
      if (← get).depth ≥ maxDepth then
        fail ("exceeded maximum template depth (" ++ toString maxDepth ++ ")")
      let v ← match p with
        | some p => runPipe fuel dot p
        | none => pure none
      let r ← get
      set { r with vars := [("$", v)], depth := r.depth + 1 }
      let _ ← walk fuel v body
      modify fun r2 => { r2 with vars := r.vars, depth := r.depth }
      pure .next

end

def render (source : String) (data : Value) : Except String String := do
  let defs ← parse source
  let nodes := (defs.lookup mainName).getD []
  let fuel := 16 * (source.length + 2) + 8 * maxDepth
  let (_, run) ← (walk fuel (some data) nodes).run { defs, vars := [("$", some data)] }
  pure run.out

end AccessPolicy.Template
