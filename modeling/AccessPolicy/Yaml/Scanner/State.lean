import AccessPolicy.Yaml.Token
/-!
# The state of the YAML scanner
-/

namespace AccessPolicy.Yaml

structure SimpleKey where
  possible : Bool := false
  required : Bool := false
  tokenNumber : Nat := 0
  mark : Mark := {}
  deriving Repr, Inhabited

structure Scanner where
  input : Array Char
  pos : Nat := 0
  mark : Mark := {}
  streamStartProduced : Bool := false
  flowLevel : Nat := 0
  queue : Array Token := #[]
  tokenAvailable : Bool := false
  tokensParsed : Nat := 0
  indent : Int := -1
  indents : List Int := []
  simpleKeyAllowed : Bool := false
  simpleKeys : Array SimpleKey := #[]
  /-- Possible keys by the number of the token they would precede, as positions in
  `simpleKeys`. -/
  keysByToken : List (Nat × Nat) := []
  deriving Inhabited

abbrev ScanM := StateT Scanner (Except YamlError)

def endChar : Char := '\x00'

def isBreak (c : Char) : Bool :=
  c = '\r' ∨ c = '\n' ∨ c = '\u0085' ∨ c = '\u2028' ∨ c = '\u2029'

def isBlank (c : Char) : Bool := c = ' ' ∨ c = '\t'
def isBreakZ (c : Char) : Bool := isBreak c ∨ c = endChar

def isBlankZ (c : Char) : Bool := isBlank c ∨ isBreakZ c

def isWordChar (c : Char) : Bool :=
  ('0' ≤ c ∧ c ≤ '9') ∨ ('A' ≤ c ∧ c ≤ 'Z') ∨ ('a' ≤ c ∧ c ≤ 'z') ∨ c = '_' ∨ c = '-'

def isDigitChar (c : Char) : Bool := '0' ≤ c ∧ c ≤ '9'

def hexValue? (c : Char) : Option Nat :=
  if '0' ≤ c ∧ c ≤ '9' then some (c.toNat - '0'.toNat)
  else if 'a' ≤ c ∧ c ≤ 'f' then some (c.toNat - 'a'.toNat + 10)
  else if 'A' ≤ c ∧ c ≤ 'F' then some (c.toNat - 'A'.toNat + 10)
  else none

def isAllowedChar (c : Char) : Bool :=
  let n := c.toNat
  c = '\t' ∨ c = '\n' ∨ c = '\r' ∨ (0x20 ≤ n ∧ n ≤ 0x7E) ∨ n = 0x85 ∨ (0xA0 ≤ n ∧ n ≤ 0xD7FF) ∨
    (0xE000 ≤ n ∧ n ≤ 0xFFFD) ∨ 0x10000 ≤ n

namespace Scanner

def start (text : String) : Scanner :=
  let cs := text.toList
  { input := (match cs with
      | '\uFEFF' :: rest => rest
      | _ => cs).toArray }

def ahead (s : Scanner) (k : Nat) : Char := s.input.getD (s.pos + k) endChar

def budget (s : Scanner) : Nat := s.input.size - s.pos + 2

end Scanner

def peekChar (k : Nat := 0) : ScanM Char := do
  return (← get).ahead k

def currentMark : ScanM Mark := do
  return (← get).mark

def loopBudget : ScanM Nat := do
  return (← get).budget

def skipChar : ScanM Unit :=
  modify fun s =>
    { s with
      pos := s.pos + 1
      mark := { s.mark with index := s.mark.index + 1, column := s.mark.column + 1 } }

def breakLine (width : Nat) : ScanM Unit :=
  modify fun s =>
    { s with
      pos := s.pos + width
      mark := { index := s.mark.index + width, line := s.mark.line + 1, column := 0 } }

def readChar : ScanM Char := do
  let c ← peekChar
  skipChar
  return c

def skipLine : ScanM Unit := do
  let c ← peekChar
  let d ← peekChar 1
  if c = '\r' ∧ d = '\n' then breakLine 2
  else if isBreak c then breakLine 1

/-- Moves past a line break and gives it as text: a line feed, or the line or paragraph
separator itself. -/
def readLine : ScanM String := do
  let c ← peekChar
  let d ← peekChar 1
  if c = '\r' ∧ d = '\n' then
    breakLine 2
    return "\n"
  else if c = '\r' ∨ c = '\n' ∨ c = '\u0085' then
    breakLine 1
    return "\n"
  else if c = '\u2028' ∨ c = '\u2029' then
    breakLine 1
    return c.toString
  else return ""

def skipWhile (p : Char → Bool) : Nat → ScanM Unit
  | 0 => pure ()
  | fuel + 1 => do
    if p (← peekChar) then
      skipChar
      skipWhile p fuel

def readWhile (p : Char → Bool) (acc : String) : Nat → ScanM String
  | 0 => pure acc
  | fuel + 1 => do
    if p (← peekChar) then
      let c ← readChar
      readWhile p (acc.push c) fuel
    else pure acc

def scanError (context : String) (contextMark : Mark) (problem : String) : ScanM α := do
  throw (.scanner context contextMark problem (← currentMark))

def insertToken (at? : Option Nat) (t : Token) : ScanM Unit :=
  modify fun s => { s with queue := match at? with
    | none => s.queue.push t
    | some i => s.queue.insertIdxIfInBounds i t }

/-- Records that no key may start at the possible key of the current flow level, which must
not be required. -/
def removeSimpleKey : ScanM Unit := do
  let s ← get
  let i := s.simpleKeys.size - 1
  let k := s.simpleKeys.getD i {}
  if k.possible then
    if k.required then
      throw (.scanner "while scanning a simple key" k.mark "could not find expected ':'" s.mark)
    set { s with
      simpleKeys := s.simpleKeys.set! i { k with possible := false }
      keysByToken := s.keysByToken.filter (·.1 ≠ k.tokenNumber) }

def saveSimpleKey : ScanM Unit := do
  let s ← get
  if s.simpleKeyAllowed then
    let required := s.flowLevel = 0 ∧ s.indent = (s.mark.column : Int)
    let k : SimpleKey :=
      { possible := true
        required := required
        tokenNumber := s.tokensParsed + s.queue.size
        mark := s.mark }
    removeSimpleKey
    modify fun s =>
      let i := s.simpleKeys.size - 1
      { s with
        simpleKeys := s.simpleKeys.set! i k
        keysByToken := (k.tokenNumber, i) :: s.keysByToken.filter (·.1 ≠ k.tokenNumber) }

/-- Whether the possible key at position `i` of the stack is still possible: it must be on the
current line and at most 1024 characters back. -/
def keyStillPossible (i : Nat) : ScanM Bool := do
  let s ← get
  let k := s.simpleKeys.getD i {}
  if !k.possible then return false
  if k.mark.line < s.mark.line ∨ k.mark.index + 1024 < s.mark.index then
    if k.required then
      throw (.scanner "while scanning a simple key" k.mark "could not find expected ':'" s.mark)
    set { s with simpleKeys := s.simpleKeys.set! i { k with possible := false } }
    return false
  return true
def maxDepth : Nat := 10000

def increaseFlowLevel : ScanM Unit := do
  let s ← get
  let k : SimpleKey := { mark := s.mark }
  set { s with simpleKeys := s.simpleKeys.push k, flowLevel := s.flowLevel + 1 }
  if s.flowLevel + 1 > maxDepth then
    throw (.scanner "while increasing flow level" k.mark
      ("exceeded max depth of " ++ toString maxDepth) s.mark)

def decreaseFlowLevel : ScanM Unit :=
  modify fun s =>
    if s.flowLevel > 0 then
      let top := s.simpleKeys.getD (s.simpleKeys.size - 1) {}
      { s with
        flowLevel := s.flowLevel - 1
        simpleKeys := s.simpleKeys.pop
        keysByToken := s.keysByToken.filter (·.1 ≠ top.tokenNumber) }
    else s

/-- Opens a block collection at `column` if it is right of the current indentation, putting its
start token at the end of the queue or before token number `number`. -/
def rollIndent (column : Int) (number : Option Nat) (kind : TokenKind) (m : Mark) :
    ScanM Unit := do
  let s ← get
  if s.flowLevel = 0 ∧ s.indent < column then
    set { s with indents := s.indent :: s.indents, indent := column }
    if s.indents.length + 1 > maxDepth then
      let k := s.simpleKeys.getD (s.simpleKeys.size - 1) {}
      throw (.scanner "while increasing indent level" k.mark
        ("exceeded max depth of " ++ toString maxDepth) s.mark)
    insertToken (number.map (· - s.tokensParsed)) ⟨kind, m, m⟩

/-- Closes the block collections right of `column`; their ends are marked just before
`scanMark`. -/
def unrollIndent (column : Int) (scanMark : Mark) : ScanM Unit := do
  let s ← get
  if s.flowLevel = 0 then
    let m := { scanMark with index := scanMark.index - 1 }
    let rec close : List Int → Int → Array Token → List Int × Int × Array Token
      | [], ind, q => ([], ind, q)
      | i :: is, ind, q =>
        if ind > column then close is i (q.push ⟨.blockEnd, m, m⟩) else (i :: is, ind, q)
    let (is, ind, q) := close s.indents s.indent s.queue
    set { s with indents := is, indent := ind, queue := q }

end AccessPolicy.Yaml
