import AccessPolicy.Yaml.Tree
import AccessPolicy.Text.CharClass
/-!
# Writing YAML
-/

namespace AccessPolicy.Yaml

structure Emitter where
  out : String := ""
  column : Nat := 0
  whitespace : Bool := true
  indention : Bool := true
  indent : Int := -1
  indents : List Int := []

abbrev EmitM := StateM Emitter
def bestWidth : Nat := 80

def put (c : Char) : EmitM Unit :=
  modify fun e => { e with out := e.out.push c, column := e.column + 1 }

def putBreak : EmitM Unit :=
  modify fun e => { e with out := e.out.push '\n', column := 0 }

def writeBreak (c : Char) : EmitM Unit :=
  if c = '\n' then putBreak else modify fun e => { e with out := e.out.push c, column := 0 }
def setIndention (b : Bool) : EmitM Unit := modify fun e => { e with indention := b }

/-- Goes to the current indentation: on a new line unless the line holds only indentation
short of it, or up to it after white space. -/
def writeIndent : EmitM Unit := modify fun e =>
  let indent := e.indent.toNat
  let e := if !e.indention || e.column > indent || (e.column == indent && !e.whitespace) then
      { e with out := e.out.push '\n', column := 0 }
    else e
  { e with out := e.out ++ String.ofList (List.replicate (indent - e.column) ' ')
           column := max e.column indent
           whitespace := true
           indention := true }

/-- Writes an indicator, after a space when one is needed and the last thing written is not
white space. -/
def writeIndicator (s : String) (needSpace isSpace isIndention : Bool) : EmitM Unit :=
  modify fun e =>
    let e := if needSpace && !e.whitespace then { e with out := e.out.push ' ', column := e.column + 1 }
      else e
    { e with out := e.out ++ s
             column := e.column + s.length
             whitespace := isSpace
             indention := e.indention && isIndention }

/-- Enters a level: a block collection at the top starts at column zero and anything else two
columns further in, unless it is a list written at its key's level. -/
def increaseIndent (flow indentless : Bool) : EmitM Unit := modify fun e =>
  { e with indents := e.indent :: e.indents
           indent := if e.indent < 0 then (if flow then 2 else 0)
             else if indentless then e.indent else e.indent + 2 }

def decreaseIndent : EmitM Unit := modify fun e =>
  match e.indents with
  | i :: is => { e with indent := i, indents := is }
  | [] => e

/-! ## Scalars -/

def isBreakChar (c : Char) : Bool :=
  c = '\r' ∨ c = '\n' ∨ c.toNat = 0x85 ∨ c.toNat = 0x2028 ∨ c.toNat = 0x2029

/-- Whether a character may stand in a scalar as it is: a line feed, printable ASCII, and the
rest of the basic multilingual plane but surrogates, the byte-order mark, `U+FFFE` and
`U+FFFF`. -/
def isPrintable (c : Char) : Bool :=
  let n := c.toNat
  n = 0x0A ∨ (0x20 ≤ n ∧ n ≤ 0x7E) ∨ (0xA0 ≤ n ∧ n ≤ 0xD7FF) ∨
    (0xE000 ≤ n ∧ n ≤ 0xFFFD ∧ n ≠ 0xFEFF)

def isBlankOrBreak (c : Char) : Bool :=
  c = ' ' ∨ c = '\t' ∨ isBreakChar c ∨ c.toNat = 0

inductive ScalarForm where
  | plain
  | single
  | double
  | literal
  deriving DecidableEq, Repr

structure ScalarScan where
  blockIndicators : Bool := false
  lineBreaks : Bool := false
  special : Bool := false
  leadingSpace : Bool := false
  leadingBreak : Bool := false
  trailingSpace : Bool := false
  trailingBreak : Bool := false
  breakSpace : Bool := false
  spaceBreak : Bool := false
  afterBlank : Bool := true
  previousSpace : Bool := false
  previousBreak : Bool := false

/-- The scan of one character of a scalar: `first` and `last` say where it stands, `next` is
the character after it. -/
def ScalarScan.step (s : ScalarScan) (c : Char) (first last : Bool) (next : Option Char) :
    ScalarScan :=
  let followed := match next with
    | none => true
    | some d => d == ' ' || d == '\t'
  let block :=
    if first then
      "#,[]\x7b\x7d&*!|>'\"%@`".toList.contains c || ((c == '?' || c == ':' || c == '-') && followed)
    else (c == ':' && followed) || (c == '#' && s.afterBlank)
  let s := { s with blockIndicators := s.blockIndicators || block
                    special := s.special || !isPrintable c }
  let s :=
    if c = ' ' then
      { s with leadingSpace := s.leadingSpace || first
               trailingSpace := s.trailingSpace || last
               breakSpace := s.breakSpace || s.previousBreak
               previousSpace := true
               previousBreak := false }
    else if isBreakChar c then
      { s with lineBreaks := true
               leadingBreak := s.leadingBreak || first
               trailingBreak := s.trailingBreak || last
               spaceBreak := s.spaceBreak || s.previousSpace
               previousSpace := false
               previousBreak := true }
    else { s with previousSpace := false, previousBreak := false }
  { s with afterBlank := isBlankOrBreak c }

def scanChars (s : ScalarScan) : List Char → Bool → ScalarScan
  | [], _ => s
  | c :: rest, first => scanChars (s.step c first rest.isEmpty rest.head?) rest false

structure ScalarShape where
  multiline : Bool
  plain : Bool
  single : Bool
  block : Bool

/-- What styles a scalar's text allows. -/
def shapeOf (cs : List Char) : ScalarShape :=
  if cs.isEmpty then ⟨false, true, true, false⟩
  else
    let marker := cs.take 3 == ['-', '-', '-'] || cs.take 3 == ['.', '.', '.']
    let s := scanChars {} cs true
    { multiline := s.lineBreaks
      plain := !(marker || s.blockIndicators || s.leadingSpace || s.leadingBreak ||
        s.trailingSpace || s.trailingBreak || s.breakSpace || s.spaceBreak || s.special ||
        s.lineBreaks)
      single := !(s.breakSpace || s.spaceBreak || s.special)
      block := !(s.trailingSpace || s.spaceBreak || s.special) }

/-- The style a scalar is written in, from the one asked for: a key that spans lines is double
quoted; a text that cannot be plain, or an empty key, is single quoted; a text that single
quotes cannot hold is double quoted; and so is a block that cannot be one, or a key. -/
def chooseForm (shape : ScalarShape) (asked : ScalarForm) (empty key : Bool) : ScalarForm :=
  let form := if key && shape.multiline then .double else asked
  let form := if form = .plain && (!shape.plain || (empty && key)) then .single else form
  let form := if form = .single && !shape.single then .double else form
  if form = .literal && (!shape.block || key) then .double else form

/-- Writes the characters of a plain scalar, breaking the line at a single space past the
width when breaks are allowed. -/
def plainChars (breaks : Bool) : List Char → Bool → Bool → EmitM Unit
  | [], _, _ => pure ()
  | c :: rest, spaces, inBreak => do
    if c = ' ' then
      if breaks && !spaces && (← get).column > bestWidth && rest.head? ≠ some ' ' then
        writeIndent
      else put ' '
      plainChars breaks rest true inBreak
    else if isBreakChar c then
      if !inBreak && c = '\n' then putBreak
      writeBreak c
      setIndention true
      plainChars breaks rest spaces true
    else
      if inBreak then writeIndent
      put c
      setIndention false
      plainChars breaks rest false false

def singleChars (breaks : Bool) : List Char → Bool → Bool → Bool → EmitM Unit
  | [], _, _, _ => pure ()
  | c :: rest, first, spaces, inBreak => do
    if c = ' ' then
      if breaks && !spaces && (← get).column > bestWidth && !first && !rest.isEmpty &&
          rest.head? ≠ some ' ' then
        writeIndent
      else put ' '
      singleChars breaks rest false true inBreak
    else if isBreakChar c then
      if !inBreak && c = '\n' then putBreak
      writeBreak c
      setIndention true
      singleChars breaks rest false spaces true
    else
      if inBreak then writeIndent
      if c = '\'' then put '\''
      put c
      setIndention false
      singleChars breaks rest false false false

def hexDigitUpper (n : Nat) : Char :=
  if n < 10 then Char.ofNat (48 + n) else Char.ofNat (55 + n)

def hexUpper (width n : Nat) : String :=
  String.ofList ((List.range width).reverse.map fun k => hexDigitUpper (n / Nat.pow 16 k % 16))

def escapeOf (c : Char) : String :=
  match c.toNat with
  | 0x00 => "0"
  | 0x07 => "a"
  | 0x08 => "b"
  | 0x09 => "t"
  | 0x0A => "n"
  | 0x0B => "v"
  | 0x0C => "f"
  | 0x0D => "r"
  | 0x1B => "e"
  | 0x22 => "\""
  | 0x5C => "\\"
  | 0x85 => "N"
  | 0xA0 => "_"
  | 0x2028 => "L"
  | 0x2029 => "P"
  | v =>
    if v ≤ 0xFF then "x" ++ hexUpper 2 v
    else if v ≤ 0xFFFF then "u" ++ hexUpper 4 v
    else "U" ++ hexUpper 8 v

/-- Writes the characters of a double-quoted scalar: a character that cannot stand as it is, a
line break, a quote or a backslash is escaped. -/
def doubleChars (breaks : Bool) : List Char → Bool → Bool → EmitM Unit
  | [], _, _ => pure ()
  | c :: rest, first, spaces => do
    if !isPrintable c || isBreakChar c || c = '"' || c = '\\' then
      put '\\'
      for d in (escapeOf c).toList do put d
      doubleChars breaks rest false false
    else if c = ' ' then
      if breaks && !spaces && (← get).column > bestWidth && !first && !rest.isEmpty then
        writeIndent
        if rest.head? = some ' ' then put '\\'
      else put ' '
      doubleChars breaks rest false true
    else
      put c
      doubleChars breaks rest false false

def literalChars : List Char → Bool → EmitM Unit
  | [], _ => pure ()
  | c :: rest, inBreak => do
    if isBreakChar c then
      writeBreak c
      setIndention true
      literalChars rest true
    else
      if inBreak then writeIndent
      put c
      setIndention false
      literalChars rest false

/-- How a literal block's last line breaks are kept: `-` strips a text that does not end in a
break, `+` keeps a text that ends in two breaks or is one, and nothing clips one. -/
def chompHint (cs : List Char) : String :=
  match cs.reverse with
  | [] => "-"
  | last :: before =>
    if !isBreakChar last then "-"
    else match before with
      | [] => "+"
      | prev :: _ => if isBreakChar prev then "+" else ""

def writeScalar (form : ScalarForm) (cs : List Char) (key : Bool) : EmitM Unit := do
  match form with
  | .plain =>
    if !(← get).whitespace then put ' '
    plainChars (!key) cs false false
  | .single =>
    writeIndicator "'" true false false
    singleChars (!key) cs true false false
    writeIndicator "'" false false false
  | .double =>
    writeIndicator "\"" true false false
    doubleChars (!key) cs true false
    writeIndicator "\"" false false false
  | .literal =>
    writeIndicator "|" true false false
    if cs.head?.any fun c => c = ' ' ∨ isBreakChar c then writeIndicator "2" false false false
    let chomp := chompHint cs
    if chomp ≠ "" then writeIndicator chomp false false false
    putBreak
    modify fun e => { e with indention := true, whitespace := true }
    literalChars cs true
  match form with
  | .literal => pure ()
  | _ => modify fun e => { e with whitespace := false, indention := false }

/-- Writes a scalar's text one level further in, in the style asked for or the one its text
allows. -/
def emitScalar (text : String) (asked : ScalarForm) (key : Bool) : EmitM Unit := do
  let cs := text.toList
  let form := chooseForm (shapeOf cs) asked cs.isEmpty key
  increaseIndent true false
  writeScalar form cs key
  decreaseIndent

/-! ## Trees -/

/-- Whether a text has the form of a sexagesimal number of YAML 1.1, such as `1:30` or
`-2:05:10.5`: such texts are quoted, so that no reader takes them for numbers. -/
def isBase60Float (s : String) : Bool :=
  let isDigit (c : Char) : Bool := '0' ≤ c ∧ c ≤ '9'
  let body := match s.toList with
    | '-' :: r => r
    | '+' :: r => r
    | r => r
  match body with
  | c :: rest =>
    if !isDigit c || !s.contains ':' then false
    else
      let rest := rest.dropWhile fun d => isDigit d ∨ d = '_'
      sexagesimal rest false
  | [] => false
where
  /-- Reads `:` groups of one digit, or two with the first below six, then an optional
  fraction; `seen` says a group was read. -/
  sexagesimal : List Char → Bool → Bool
    | ':' :: a :: b :: rest, _ =>
      if '0' ≤ a ∧ a ≤ '5' ∧ '0' ≤ b ∧ b ≤ '9' then sexagesimal rest true
      else if '0' ≤ a ∧ a ≤ '9' then sexagesimal (b :: rest) true
      else false
    | [':', a], _ => '0' ≤ a ∧ a ≤ '9'
    | '.' :: rest, seen => seen && rest.all fun d => ('0' ≤ d ∧ d ≤ '9') ∨ d = '_'
    | [], seen => seen
    | _, _ => false

/-- The text of a float as YAML writes it: the shortest digits that read back, `.inf`, `-.inf`
or `.nan`. -/
def floatText (x : Binary) : String :=
  match x with
  | .nan => ".nan"
  | .infinity neg => if neg then "-.inf" else ".inf"
  | _ => Binary.text .double .general x

/-- The text of a scalar tree and the style asked for it. -/
def scalarForm : Tree → String × ScalarForm
  | .null => ("null", .plain)
  | .bool b => (if b then "true" else "false", .plain)
  | .int n => (toString n, .plain)
  | .float x => (floatText x, .plain)
  | .text s =>
    if s.contains '\n' then (s, .literal)
    else if (resolveTextWith knownScalarYaml11? "" s).1 = "!!str" && !isBase60Float s then
      (s, .plain)
    else (s, .double)
  | .list _ | .map _ => ("", .plain)

/-- The value of a key as a number, if it is one: its kind's rank and its value as a 64-bit
float, for ordering keys of numbers and booleans together. -/
def keyNumber? : Tree → Option Binary
  | .int n => some (Binary.ofNumeral .double (.finite (n < 0) n.natAbs 0))
  | .float x => some x
  | .bool b => some (.finite false (if b then 1 else 0) 0)
  | _ => none

def kindRank : Tree → Nat
  | .bool _ => 1
  | .int n => if n < Int.pow 2 63 then 2 else 11
  | .float _ => 14
  | .null => 20
  | .map _ => 21
  | .list _ => 23
  | .text _ => 24

def floatPlace : Binary → Option (Int × Rat)
  | .nan => none
  | .infinity neg => some (if neg then -1 else 1, 0)
  | x => (x.toRat?).map fun q => (0, q)

def floatBelow (x y : Binary) : Bool :=
  match floatPlace x, floatPlace y with
  | some (i, p), some (j, q) => i < j || (i == j && p < q)
  | _, _ => false

def floatDiffers (x y : Binary) : Bool :=
  match floatPlace x, floatPlace y with
  | some a, some b => a != b
  | _, _ => true

/-- The number that a run of digits from `i` spells, in 64-bit arithmetic that wraps, from a
starting value; and the index after the run. -/
def digitRun (cs : Array Char) (i : Nat) (start : Int64) : Int64 × Nat :=
  let run := (cs.toList.drop i).takeWhile CharClass.decimalDigit
  (run.foldl (fun n c => n * 10 + Int64.ofInt ((c.toNat : Int) - 48)) start, i + run.length)

/-- The natural order of two texts: at the first character where they differ, letters go by
code point and before anything else; runs of digits there go by their numbers, then by their
lengths, then by the differing character. -/
def textLess (s t : String) : Bool :=
  let a := s.toList.toArray
  let b := t.toList.toArray
  match (List.range (min a.size b.size)).find? (fun i => a.getD i ' ' != b.getD i ' ') with
  | none => a.size < b.size
  | some i =>
    let x := a.getD i ' '
    let y := b.getD i ' '
    let xl := CharClass.letter x
    let yl := CharClass.letter y
    if xl && yl then x < y
    else if xl || yl then yl
    else
      let before := ((a.toList.take i).reverse.takeWhile CharClass.decimalDigit)
      let seed : Int64 := if (x = '0' || y = '0') && before.any (· ≠ '0') then 1 else 0
      let (an, ai) := digitRun a i seed
      let (bn, bi) := digitRun b i seed
      if an != bn then an < bn
      else if ai != bi then ai < bi
      else x < y

/-- The order of map keys: numbers and booleans by value, then by kind, then by value again;
texts in natural order; any other keys by kind. -/
def keyLess (a b : Tree) : Bool :=
  match keyNumber? a, keyNumber? b with
  | some x, some y =>
    if floatDiffers x y then floatBelow x y
    else if kindRank a != kindRank b then kindRank a < kindRank b
    else match a, b with
      | .int m, .int n => m < n
      | .float x, .float y => floatBelow x y
      | .bool p, .bool q => !p && q
      | _, _ => false
  | _, _ =>
    match a, b with
    | .text s, .text t => textLess s t
    | _, _ => kindRank a < kindRank b

/-- Whether a key is written as a simple key: a scalar on one line of at most 128 bytes, or an
empty collection. -/
def simpleKey (k : Tree) : Bool :=
  match k with
  | .list items => items.isEmpty
  | .map entries => entries.isEmpty
  | _ =>
    let text := (scalarForm k).1
    !(shapeOf text.toList).multiline && text.utf8ByteSize ≤ 128
def emitEmpty (opening closing : String) : EmitM Unit := do
  writeIndicator opening true true false
  writeIndicator closing false false false

mutual

/-- Writes a tree; `mapping` says it is a map's key or value, and `key` that it is a simple
key. -/
def emitTree : Nat → Tree → Bool → Bool → EmitM Unit
  | 0, _, _, _ => pure ()
  | _ + 1, .list [], _, _ => emitEmpty "[" "]"
  | _ + 1, .map [], _, _ => emitEmpty "\x7b" "\x7d"
  | fuel + 1, .list items, mapping, _ => do
    let indentless := mapping && !(← get).indention
    increaseIndent false indentless
    emitItems fuel items
    decreaseIndent
  | fuel + 1, .map entries, _, _ => do
    increaseIndent false false
    emitEntries fuel (entries.mergeSort fun p q => !keyLess q.1 p.1)
    decreaseIndent
  | _ + 1, t, _, key =>
    let (text, asked) := scalarForm t
    emitScalar text asked key

def emitItems : Nat → List Tree → EmitM Unit
  | _, [] => pure ()
  | fuel, t :: ts => do
    writeIndent
    writeIndicator "-" true false true
    emitTree fuel t false false
    emitItems fuel ts

/-- Writes the entries of a map, each on a line of its own: `key: value`, or `? key` and
`: value` for a key that cannot be simple. -/
def emitEntries : Nat → List (Tree × Tree) → EmitM Unit
  | _, [] => pure ()
  | fuel, (k, v) :: es => do
    writeIndent
    if simpleKey k then
      emitTree fuel k true true
      writeIndicator ":" false false false
    else
      writeIndicator "?" true false true
      emitTree fuel k true false
      writeIndent
      writeIndicator ":" true false true
    emitTree fuel v true false
    emitEntries fuel es

end
def Tree.toYaml (t : Tree) : String :=
  let act : EmitM Unit := do
    emitTree (t.depth + 1) t false false
    writeIndent
  (act.run {}).2.out

end AccessPolicy.Yaml
