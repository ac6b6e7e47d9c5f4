import AccessPolicy.Yaml.Scanner.Scalar
import AccessPolicy.Yaml.Scanner.Tag
/-!
# Fetching tokens

`fetchNext` scans the next token after the blanks, comments and line breaks before it, closing
the block collections its column leaves. What starts a token is decided by its first
characters: the indicators `[ ] { } , - ? : * & ! | > ' " % #`, the document markers at the
start of a line, and otherwise a plain scalar.
-/

namespace AccessPolicy.Yaml

/-- Skips blanks, comments and line breaks up to the next token. -/
def toNextToken : Nat → ScanM Unit
  | 0 => pure ()
  | fuel + 1 => do
    let s ← get
    if s.mark.column = 0 ∧ s.ahead 0 = '\uFEFF' then skipChar
    let s ← get
    skipWhile (fun c => c = ' ' ∨ ((s.flowLevel > 0 ∨ !s.simpleKeyAllowed) ∧ c = '\t'))
      (← loopBudget)
    if (← peekChar) = '#' then skipWhile (fun c => !isBreakZ c) (← loopBudget)
    if isBreak (← peekChar) then
      skipLine
      modify fun s => if s.flowLevel = 0 then { s with simpleKeyAllowed := true } else s
      toNextToken fuel

def fetchStreamStart : ScanM Unit := do
  modify fun s =>
    { s with
      indent := -1
      simpleKeys := s.simpleKeys.push {}
      simpleKeyAllowed := true
      streamStartProduced := true }
  let m ← currentMark
  insertToken none ⟨.streamStart, m, m⟩

def fetchStreamEnd : ScanM Unit := do
  modify fun s =>
    if s.mark.column ≠ 0 then
      { s with mark := { s.mark with column := 0, line := s.mark.line + 1 } }
    else s
  unrollIndent (-1) (← currentMark)
  removeSimpleKey
  modify fun s => { s with simpleKeyAllowed := false }
  let m ← currentMark
  insertToken none ⟨.streamEnd, m, m⟩
def fetchDirective : ScanM Unit := do
  unrollIndent (-1) (← currentMark)
  removeSimpleKey
  modify fun s => { s with simpleKeyAllowed := false }
  insertToken none (← scanDirective)

def fetchIndicator (kind : TokenKind) (width : Nat := 1) : ScanM Unit := do
  let startMark ← currentMark
  for _ in List.range width do skipChar
  insertToken none ⟨kind, startMark, ← currentMark⟩

def fetchDocumentIndicator (kind : TokenKind) : ScanM Unit := do
  unrollIndent (-1) (← currentMark)
  removeSimpleKey
  modify fun s => { s with simpleKeyAllowed := false }
  fetchIndicator kind 3

def fetchFlowCollectionStart (kind : TokenKind) : ScanM Unit := do
  saveSimpleKey
  increaseFlowLevel
  modify fun s => { s with simpleKeyAllowed := true }
  fetchIndicator kind

def fetchFlowCollectionEnd (kind : TokenKind) : ScanM Unit := do
  removeSimpleKey
  decreaseFlowLevel
  modify fun s => { s with simpleKeyAllowed := false }
  fetchIndicator kind

def fetchFlowEntry : ScanM Unit := do
  removeSimpleKey
  modify fun s => { s with simpleKeyAllowed := true }
  fetchIndicator .flowEntry

/-- Scans `-` before a sequence entry; outside flow collections it may open a block
sequence. -/
def fetchBlockEntry : ScanM Unit := do
  let s ← get
  if s.flowLevel = 0 then
    if !s.simpleKeyAllowed then
      scanError "" s.mark "block sequence entries are not allowed in this context"
    rollIndent s.mark.column none .blockSequenceStart s.mark
  removeSimpleKey
  modify fun s => { s with simpleKeyAllowed := true }
  fetchIndicator .blockEntry

def fetchKey : ScanM Unit := do
  let s ← get
  if s.flowLevel = 0 then
    if !s.simpleKeyAllowed then
      scanError "" s.mark "mapping keys are not allowed in this context"
    rollIndent s.mark.column none .blockMappingStart s.mark
  removeSimpleKey
  modify fun s => { s with simpleKeyAllowed := s.flowLevel = 0 }
  fetchIndicator .key

/-- Scans `:` before a value. -/
def fetchValue : ScanM Unit := do
  let s ← get
  let i := s.simpleKeys.size - 1
  if ← keyStillPossible i then
    let s ← get
    let k := s.simpleKeys.getD i {}
    insertToken (some (k.tokenNumber - s.tokensParsed)) ⟨.key, k.mark, k.mark⟩
    rollIndent k.mark.column (some k.tokenNumber) .blockMappingStart k.mark
    modify fun s =>
      { s with
        simpleKeys := s.simpleKeys.set! i { k with possible := false }
        keysByToken := s.keysByToken.filter (·.1 ≠ k.tokenNumber)
        simpleKeyAllowed := false }
  else
    let s ← get
    if s.flowLevel = 0 then
      if !s.simpleKeyAllowed then
        scanError "" s.mark "mapping values are not allowed in this context"
      rollIndent s.mark.column none .blockMappingStart s.mark
    modify fun s => { s with simpleKeyAllowed := s.flowLevel = 0 }
  fetchIndicator .value
def fetchAnchor (isAnchor : Bool) : ScanM Unit := do
  saveSimpleKey
  modify fun s => { s with simpleKeyAllowed := false }
  insertToken none (← scanAnchor isAnchor)

def fetchTag : ScanM Unit := do
  saveSimpleKey
  modify fun s => { s with simpleKeyAllowed := false }
  insertToken none (← scanTag)
def fetchBlockScalar (literal : Bool) : ScanM Unit := do
  removeSimpleKey
  modify fun s => { s with simpleKeyAllowed := true }
  insertToken none (← scanBlockScalar literal)

def fetchQuotedScalar (single : Bool) : ScanM Unit := do
  saveSimpleKey
  modify fun s => { s with simpleKeyAllowed := false }
  insertToken none (← scanQuotedScalar single)

def fetchPlainScalar : ScanM Unit := do
  saveSimpleKey
  modify fun s => { s with simpleKeyAllowed := false }
  insertToken none (← scanPlainScalar)

def isIndicator (c : Char) : Bool :=
  "-?:,[]\x7b\x7d#&*!|>'\"%@`".toList.contains c

def fetchNext : ScanM Unit := do
  if !(← get).streamStartProduced then
    fetchStreamStart
    return
  let scanMark ← currentMark
  toNextToken (← loopBudget)
  unrollIndent (← currentMark).column scanMark
  let s ← get
  let c := s.ahead 0
  let next := s.ahead 1
  let atLineStart := s.mark.column = 0
  let marker (d : Char) := atLineStart ∧ c = d ∧ next = d ∧ s.ahead 2 = d ∧ isBlankZ (s.ahead 3)
  if c = endChar then fetchStreamEnd
  else if atLineStart ∧ c = '%' then fetchDirective
  else if marker '-' then fetchDocumentIndicator .documentStart
  else if marker '.' then fetchDocumentIndicator .documentEnd
  else if c = '[' then fetchFlowCollectionStart .flowSequenceStart
  else if c = '{' then fetchFlowCollectionStart .flowMappingStart
  else if c = ']' then fetchFlowCollectionEnd .flowSequenceEnd
  else if c = '}' then fetchFlowCollectionEnd .flowMappingEnd
  else if c = ',' then fetchFlowEntry
  else if c = '-' ∧ isBlankZ next then fetchBlockEntry
  else if c = '?' ∧ (s.flowLevel > 0 ∨ isBlankZ next) then fetchKey
  else if c = ':' ∧ (s.flowLevel > 0 ∨ isBlankZ next) then fetchValue
  else if c = '*' then fetchAnchor false
  else if c = '&' then fetchAnchor true
  else if c = '!' then fetchTag
  else if c = '|' ∧ s.flowLevel = 0 then fetchBlockScalar true
  else if c = '>' ∧ s.flowLevel = 0 then fetchBlockScalar false
  else if c = '\'' then fetchQuotedScalar true
  else if c = '"' then fetchQuotedScalar false
  else if !(isBlankZ c ∨ isIndicator c) ∨ (c = '-' ∧ !isBlank next) ∨
      (s.flowLevel = 0 ∧ (c = '?' ∨ c = ':') ∧ !isBlankZ next) then
    fetchPlainScalar
  else
    scanError "while scanning for the next token" s.mark
      "found character that cannot start any token"

def fetchMore : Nat → ScanM Unit
  | 0 => pure ()
  | fuel + 1 => do
    let s ← get
    if s.queue.size > 2 then
      match s.keysByToken.lookup s.tokensParsed with
      | none => return
      | some i => if !(← keyStillPossible i) then return
    fetchNext
    fetchMore fuel

def peekToken : ScanM Token := do
  let s ← get
  if !s.tokenAvailable then
    fetchMore (2 * s.budget + 8)
    modify fun s => { s with tokenAvailable := true }
  let s ← get
  return s.queue.getD 0 ⟨.streamEnd, s.mark, s.mark⟩

def skipToken : ScanM Unit :=
  modify fun s =>
    { s with
      tokenAvailable := false
      tokensParsed := s.tokensParsed + 1
      queue := s.queue.extract 1 s.queue.size }

end AccessPolicy.Yaml
