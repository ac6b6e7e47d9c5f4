import AccessPolicy.Yaml.Scanner.State
/-!
# Scanning scalars

A scalar is written plain, between single or double quotes, or as a literal (`|`) or folded
(`>`) block. Line breaks inside plain and quoted scalars fold: one break becomes a space, and
each further break of a run is kept.
-/

namespace AccessPolicy.Yaml

structure Folding where
  text : String := ""
  leadingBreak : String := ""
  trailingBreaks : String := ""
  whitespaces : String := ""
  leadingBlanks : Bool := false
  deriving Inhabited

namespace Folding

/-- Places the pending blanks or breaks before the next character: a single line feed becomes a
space, further breaks are kept. -/
def flush (f : Folding) : Folding :=
  if f.leadingBlanks then
    let text :=
      if f.leadingBreak.startsWith "\n" then
        if f.trailingBreaks.isEmpty then f.text.push ' ' else f.text ++ f.trailingBreaks
      else f.text ++ f.leadingBreak ++ f.trailingBreaks
    { f with text := text, leadingBreak := "", trailingBreaks := "", leadingBlanks := false }
  else { f with text := f.text ++ f.whitespaces, whitespaces := "" }

end Folding

/-- Whether a document marker, `---` or `...` followed by a blank, starts at the current
position, which must be at the start of a line. -/
def atDocumentMarker : ScanM Bool := do
  let s ← get
  let a := s.ahead 0
  let b := s.ahead 1
  let c := s.ahead 2
  return s.mark.column = 0 ∧ ((a = '-' ∧ b = '-' ∧ c = '-') ∨ (a = '.' ∧ b = '.' ∧ c = '.')) ∧
    isBlankZ (s.ahead 3)

/-! ## Plain scalars -/

def plainStops : ScanM Bool := do
  let s ← get
  let c := s.ahead 0
  let next := s.ahead 1
  return (c = ':' ∧ isBlankZ next) ∨
    (s.flowLevel > 0 ∧ (c = ',' ∨ (c = '?' ∧ isBlankZ next) ∨ c = '[' ∨ c = ']' ∨ c = '{' ∨
      c = '}'))

def plainRun (f : Folding) (stop : Mark) : Nat → ScanM (Folding × Mark)
  | 0 => pure (f, stop)
  | fuel + 1 => do
    if isBlankZ (← peekChar) then return (f, stop)
    if ← plainStops then return (f, stop)
    let f := f.flush
    let c ← readChar
    plainRun { f with text := f.text.push c } (← currentMark) fuel

def plainBlanks (indent : Int) (startMark : Mark) (f : Folding) : Nat → ScanM Folding
  | 0 => pure f
  | fuel + 1 => do
    let c ← peekChar
    if isBlank c then
      if f.leadingBlanks ∧ ((← currentMark).column : Int) < indent ∧ c = '\t' then
        scanError "while scanning a plain scalar" startMark
          "found a tab character that violates indentation"
      if f.leadingBlanks then
        skipChar
        plainBlanks indent startMark f fuel
      else
        skipChar
        plainBlanks indent startMark { f with whitespaces := f.whitespaces.push c } fuel
    else if isBreak c then
      if f.leadingBlanks then
        let b ← readLine
        plainBlanks indent startMark { f with trailingBreaks := f.trailingBreaks ++ b } fuel
      else
        let b ← readLine
        plainBlanks indent startMark
          { f with whitespaces := "", leadingBreak := b, leadingBlanks := true } fuel
    else pure f

def plainLines (indent : Int) (startMark : Mark) (f : Folding) (stop : Mark) :
    Nat → ScanM (Folding × Mark)
  | 0 => pure (f, stop)
  | fuel + 1 => do
    if ← atDocumentMarker then return (f, stop)
    if (← peekChar) = '#' then return (f, stop)
    let (f, stop) ← plainRun f stop (← loopBudget)
    let c ← peekChar
    if !(isBlank c ∨ isBreak c) then return (f, stop)
    let f ← plainBlanks indent startMark f (← loopBudget)
    let s ← get
    if s.flowLevel = 0 ∧ (s.mark.column : Int) < indent then return (f, stop)
    plainLines indent startMark f stop fuel

def scanPlainScalar : ScanM Token := do
  let s ← get
  let startMark := s.mark
  let (f, stop) ← plainLines (s.indent + 1) startMark {} startMark (← loopBudget)
  if f.leadingBlanks then modify fun s => { s with simpleKeyAllowed := true }
  return ⟨.scalar f.text .plain, startMark, stop⟩

/-! ## Quoted scalars -/

def simpleEscape? : Char → Option String
  | '0' => some "\x00"
  | 'a' => some "\x07"
  | 'b' => some "\x08"
  | 't' => some "\t"
  | '\t' => some "\t"
  | 'n' => some "\n"
  | 'v' => some "\x0b"
  | 'f' => some "\x0c"
  | 'r' => some "\r"
  | 'e' => some "\x1b"
  | ' ' => some " "
  | '"' => some "\""
  | '\'' => some "'"
  | '\\' => some "\\"
  | 'N' => some "\u0085"
  | '_' => some "\u00A0"
  | 'L' => some "\u2028"
  | 'P' => some "\u2029"
  | _ => none

def codeLength? : Char → Option Nat
  | 'x' => some 2
  | 'u' => some 4
  | 'U' => some 8
  | _ => none

/-- Reads the escape after a backslash of a double-quoted scalar. -/
def readEscape (startMark : Mark) : ScanM String := do
  let e ← peekChar 1
  match simpleEscape? e, codeLength? e with
  | some t, _ =>
    skipChar
    skipChar
    return t
  | none, some n =>
    skipChar
    skipChar
    let s ← get
    let digits := (List.range n).map fun k => hexValue? (s.ahead k)
    match digits.foldlM (fun acc d => d.map (acc * 16 + ·)) 0 with
    | none =>
      scanError "while parsing a quoted scalar" startMark "did not find expected hexdecimal number"
    | some v =>
      if (0xD800 ≤ v ∧ v ≤ 0xDFFF) ∨ v > 0x10FFFF then
        scanError "while parsing a quoted scalar" startMark
          "found invalid Unicode character escape code"
      for _ in List.range n do skipChar
      return (Char.ofNat v).toString
  | none, none =>
    scanError "while parsing a quoted scalar" startMark "found unknown escape character"

/-- Reads the non-blank characters of a quoted scalar. -/
def quotedRun (single : Bool) (startMark : Mark) (text : String) :
    Nat → ScanM (String × Bool)
  | 0 => pure (text, false)
  | fuel + 1 => do
    let c ← peekChar
    let d ← peekChar 1
    if isBlankZ c then return (text, false)
    if single ∧ c = '\'' ∧ d = '\'' then
      skipChar
      skipChar
      quotedRun single startMark (text.push '\'') fuel
    else if single ∧ c = '\'' then return (text, false)
    else if !single ∧ c = '"' then return (text, false)
    else if !single ∧ c = '\\' ∧ isBreak d then
      skipChar
      skipLine
      return (text, true)
    else if !single ∧ c = '\\' then
      let t ← readEscape startMark
      quotedRun single startMark (text ++ t) fuel
    else
      skipChar
      quotedRun single startMark (text.push c) fuel
def quotedBlanks (f : Folding) : Nat → ScanM Folding
  | 0 => pure f
  | fuel + 1 => do
    let c ← peekChar
    if isBlank c then
      skipChar
      if f.leadingBlanks then quotedBlanks f fuel
      else quotedBlanks { f with whitespaces := f.whitespaces.push c } fuel
    else if isBreak c then
      let b ← readLine
      if f.leadingBlanks then quotedBlanks { f with trailingBreaks := f.trailingBreaks ++ b } fuel
      else quotedBlanks { f with whitespaces := "", leadingBreak := b, leadingBlanks := true } fuel
    else pure f
def Folding.join (f : Folding) : Folding :=
  if f.leadingBlanks then
    let text :=
      if f.leadingBreak.startsWith "\n" then
        if f.trailingBreaks.isEmpty then f.text.push ' ' else f.text ++ f.trailingBreaks
      else f.text ++ f.leadingBreak ++ f.trailingBreaks
    { f with text := text, leadingBreak := "", trailingBreaks := "", leadingBlanks := false }
  else { f with text := f.text ++ f.whitespaces, whitespaces := "" }

def quotedLines (single : Bool) (startMark : Mark) (f : Folding) : Nat → ScanM Folding
  | 0 => pure f
  | fuel + 1 => do
    if ← atDocumentMarker then
      scanError "while scanning a quoted scalar" startMark "found unexpected document indicator"
    if (← peekChar) = endChar then
      scanError "while scanning a quoted scalar" startMark "found unexpected end of stream"
    let (text, joined) ← quotedRun single startMark f.text (← loopBudget)
    let f := { f with text := text, leadingBlanks := joined }
    let c ← peekChar
    if (single ∧ c = '\'') ∨ (!single ∧ c = '"') then return f
    let f ← quotedBlanks f (← loopBudget)
    quotedLines single startMark f.join fuel

def scanQuotedScalar (single : Bool) : ScanM Token := do
  let startMark ← currentMark
  skipChar
  let f ← quotedLines single startMark {} (← loopBudget)
  skipChar
  let style := if single then ScalarStyle.singleQuoted else .doubleQuoted
  return ⟨.scalar f.text style, startMark, ← currentMark⟩

/-! ## Block scalars -/

/-- Reads the indentation and empty lines before a line of a block scalar, fixing the
indentation from the first non-empty line when no indicator gave it. -/
def blockBreaks (startMark : Mark) (indent : Nat) (breaks : String) (stop : Mark)
    (maxIndent : Nat) : Nat → ScanM (Nat × String × Mark)
  | 0 => pure (indent, breaks, stop)
  | fuel + 1 => do
    let s ← get
    let blockIndent := s.indent
    skipWhile (fun c => c = ' ') (if indent = 0 then s.budget else indent - s.mark.column)
    let m ← currentMark
    let maxIndent := Nat.max maxIndent m.column
    let c ← peekChar
    if (indent = 0 ∨ m.column < indent) ∧ c = '\t' then
      scanError "while scanning a block scalar" startMark
        "found a tab character where an indentation space is expected"
    if !isBreak c then
      let indent := if indent = 0 then
          Nat.max 1 (Int.toNat (max (maxIndent : Int) (blockIndent + 1)))
        else indent
      return (indent, breaks, stop)
    let b ← readLine
    blockBreaks startMark indent (breaks ++ b) (← currentMark) maxIndent fuel

def blockLines (literal : Bool) (startMark : Mark) (indent : Nat) (text leadingBreak : String)
    (trailingBreaks : String) (leadingBlank : Bool) (stop : Mark) :
    Nat → ScanM (String × String × String × Mark)
  | 0 => pure (text, leadingBreak, trailingBreaks, stop)
  | fuel + 1 => do
    let c ← peekChar
    if (← currentMark).column ≠ indent ∨ c = endChar then
      return (text, leadingBreak, trailingBreaks, stop)
    let trailingBlank := isBlank c
    let text :=
      if !literal ∧ !leadingBlank ∧ !trailingBlank ∧ leadingBreak.startsWith "\n" then
        if trailingBreaks.isEmpty then text.push ' ' else text
      else text ++ leadingBreak
    let text := text ++ trailingBreaks
    let leadingBlank := isBlank c
    let text ← readWhile (fun c => !isBreakZ c) text (← loopBudget)
    let leadingBreak ← readLine
    let (_, trailingBreaks, stop) ← blockBreaks startMark indent "" (← currentMark) 0
      (← loopBudget)
    blockLines literal startMark indent text leadingBreak trailingBreaks leadingBlank stop fuel

/-- Reads the indicators after `|` or `>`: chomping (`+`, `-`) and indentation (a digit from 1),
in either order. -/
def blockIndicators (startMark : Mark) : ScanM (Int × Nat) := do
  let readChomp : ScanM (Option Int) := do
    match ← peekChar with
    | '+' => skipChar; return some 1
    | '-' => skipChar; return some (-1)
    | _ => return none
  let readIncrement : ScanM (Option Nat) := do
    let c ← peekChar
    if isDigitChar c then
      if c = '0' then
        scanError "while scanning a block scalar" startMark
          "found an indentation indicator equal to 0"
      skipChar
      return some (c.toNat - '0'.toNat)
    else return none
  match ← readChomp with
  | some ch => return (ch, (← readIncrement).getD 0)
  | none =>
    match ← readIncrement with
    | some inc => return ((← readChomp).getD 0, inc)
    | none => return (0, 0)

def scanBlockScalar (literal : Bool) : ScanM Token := do
  let startMark ← currentMark
  skipChar
  let (chomping, increment) ← blockIndicators startMark
  skipWhile isBlank (← loopBudget)
  if (← peekChar) = '#' then skipWhile (fun c => !isBreakZ c) (← loopBudget)
  if !isBreakZ (← peekChar) then
    scanError "while scanning a block scalar" startMark
      "did not find expected comment or line break"
  if isBreak (← peekChar) then skipLine
  let stop ← currentMark
  let s ← get
  let indent : Nat :=
    if increment > 0 then
      if s.indent ≥ 0 then (s.indent + increment).toNat else increment
    else 0
  let (indent, trailingBreaks, stop) ← blockBreaks startMark indent "" stop 0 (← loopBudget)
  let (text, leadingBreak, trailingBreaks, stop) ←
    blockLines literal startMark indent "" "" trailingBreaks false stop (← loopBudget)
  let text := if chomping ≠ -1 then text ++ leadingBreak else text
  let text := if chomping = 1 then text ++ trailingBreaks else text
  let style := if literal then ScalarStyle.literal else .folded
  return ⟨.scalar text style, startMark, stop⟩

end AccessPolicy.Yaml
