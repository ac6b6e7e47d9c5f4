import AccessPolicy.Yaml.Scanner.Fetch
import AccessPolicy.Yaml.Node
/-!
# Parsing a YAML document
-/

namespace AccessPolicy.Yaml

/-- The state of the parser: the scanner, the tag handles of the document, and the anchored
nodes. -/
structure Reader where
  scanner : Scanner
  tagHandles : List (String × String) := []
  anchors : List (String × Nat) := []
  slots : Array (Option Node) := #[]
  deriving Inhabited

abbrev ParseM := StateT Reader (Except YamlError)

def scanStep (m : ScanM α) : ParseM α := fun r => do
  let (a, s) ← m.run r.scanner
  pure (a, { r with scanner := s })

def peek : ParseM Token := scanStep peekToken

def advance : ParseM Unit := scanStep skipToken

def parseError (context : String) (contextMark : Mark) (problem : String) (problemMark : Mark) :
    ParseM α :=
  throw (.parser context contextMark problem problemMark)

def reserveAnchor (name : String) : ParseM Nat := do
  let r ← get
  set { r with anchors := (name, r.slots.size) :: r.anchors, slots := r.slots.push none }
  return r.slots.size

def fillAnchor (slot : Nat) (n : Node) : ParseM Unit :=
  modify fun r => { r with slots := r.slots.set! slot (some n) }

def anchorNode (anchor : Option String) (n : Node) : ParseM Node := do
  if let some a := anchor then fillAnchor (← reserveAnchor a) n
  return n

def aliasNode (name : String) (m : Mark) : ParseM Node := do
  let r ← get
  match r.anchors.lookup name with
  | none => throw (.other ("unknown anchor '" ++ name ++ "' referenced"))
  | some slot => return .aliasRef name (r.slots.getD slot none) (m.line + 1)

/-- The tag of a scalar node: the one written, else a string for a quoted or block scalar, a
merge key for `<<`, or no tag: the type of a plain scalar's text is found when it is decoded,
by the rules the decoding follows. -/
def scalarTag (tag text : String) (style : ScalarStyle) : String :=
  if tag ≠ "" ∧ tag ≠ "!" then shortTag tag
  else if style ≠ .plain then "!!str"
  else if text = "<<" then "!!merge"
  else ""

def collectionTag (tag default : String) : String :=
  if tag ≠ "" ∧ tag ≠ "!" then shortTag tag else default

def emptyScalar (m : Mark) : Node := .scalar "" "!!null" .plain (m.line + 1)

/-- The properties before a node: an anchor and a tag in either order. -/
def readProperties (t : Token) :
    ParseM (Option String × Option (String × String × Mark) × Mark × Token) := do
  match t.kind with
  | .anchor a =>
    advance
    let t' ← peek
    match t'.kind with
    | .tag h s =>
      advance
      return (some a, some (h, s, t'.start), t.start, ← peek)
    | _ => return (some a, none, t.start, t')
  | .tag h s =>
    advance
    let t' ← peek
    match t'.kind with
    | .anchor a =>
      advance
      return (some a, some (h, s, t.start), t.start, ← peek)
    | _ => return (none, some (h, s, t.start), t.start, t')
  | _ => return (none, none, t.start, t)

def expandTag (startMark : Mark) : Option (String × String × Mark) → ParseM String
  | none => pure ""
  | some (handle, suffix, tagMark) => do
    if handle.isEmpty then return suffix
    match (← get).tagHandles.lookup handle with
    | some pfx => if (pfx ++ suffix).isEmpty then fail tagMark else return pfx ++ suffix
    | none => fail tagMark
where
  fail (tagMark : Mark) : ParseM String :=
    parseError "while parsing a node" startMark "found undefined tag handle" tagMark

def TokenKind.isOneOf (k : TokenKind) (ks : List TokenKind) : Bool :=
  ks.any fun k' => match k, k' with
    | .versionDirective .., .versionDirective .. | .tagDirective .., .tagDirective ..
    | .aliasRef .., .aliasRef .. | .anchor .., .anchor .. | .tag .., .tag .. | .scalar .., .scalar .. =>
      true
    | _, _ => k == k'

mutual

/-- Parses a node; in block context it may be a block collection, and where `indentless` it may
be a sequence at its key's indentation. -/
def parseNode : Nat → Bool → Bool → ParseM Node
  | 0, _, _ => throw (.other "document nesting too deep")
  | fuel + 1, block, indentless => do
    let t ← peek
    if let .aliasRef name := t.kind then
      advance
      return ← aliasNode name t.start
    let (anchor, tagInfo, startMark, t) ← readProperties t
    let tag ← expandTag startMark tagInfo
    match t.kind with
    | .blockEntry =>
      if indentless then
        let slot ← anchor.mapM reserveAnchor
        let items ← indentlessItems fuel []
        let n := Node.sequence items (collectionTag tag "!!seq") (startMark.line + 1)
        if let some s := slot then fillAnchor s n
        return n
      else properties anchor tag startMark block t
    | .scalar text style =>
      advance
      anchorNode anchor (.scalar text (scalarTag tag text style) style (startMark.line + 1))
    | .flowSequenceStart =>
      let slot ← anchor.mapM reserveAnchor
      advance
      let items ← flowSequenceItems fuel t.start true []
      let n := Node.sequence items (collectionTag tag "!!seq") (startMark.line + 1)
      if let some s := slot then fillAnchor s n
      return n
    | .flowMappingStart =>
      let slot ← anchor.mapM reserveAnchor
      advance
      let entries ← flowMappingEntries fuel t.start true []
      let n := Node.mapping entries (collectionTag tag "!!map") (startMark.line + 1)
      if let some s := slot then fillAnchor s n
      return n
    | .blockSequenceStart =>
      if block then
        let slot ← anchor.mapM reserveAnchor
        advance
        let items ← blockSequenceItems fuel t.start []
        let n := Node.sequence items (collectionTag tag "!!seq") (startMark.line + 1)
        if let some s := slot then fillAnchor s n
        return n
      else properties anchor tag startMark block t
    | .blockMappingStart =>
      if block then
        let slot ← anchor.mapM reserveAnchor
        advance
        let entries ← blockMappingEntries fuel t.start []
        let n := Node.mapping entries (collectionTag tag "!!map") (startMark.line + 1)
        if let some s := slot then fillAnchor s n
        return n
      else properties anchor tag startMark block t
    | _ => properties anchor tag startMark block t

def properties (anchor : Option String) (tag : String) (startMark : Mark) (block : Bool)
    (t : Token) : ParseM Node := do
  if anchor.isSome ∨ tag ≠ "" then
    anchorNode anchor (.scalar "" (scalarTag tag "" .plain) .plain (startMark.line + 1))
  else
    parseError (if block then "while parsing a block node" else "while parsing a flow node")
      startMark "did not find expected node content" t.start
def blockSequenceItems : Nat → Mark → List Node → ParseM (List Node)
  | 0, _, acc => pure acc.reverse
  | fuel + 1, start, acc => do
    let t ← peek
    match t.kind with
    | .blockEntry =>
      advance
      let t' ← peek
      let item ← if t'.kind.isOneOf [.blockEntry, .blockEnd] then pure (emptyScalar t.stop)
        else parseNode fuel true false
      blockSequenceItems fuel start (item :: acc)
    | .blockEnd =>
      advance
      return acc.reverse
    | _ =>
      parseError "while parsing a block collection" start "did not find expected '-' indicator"
        t.start

def indentlessItems : Nat → List Node → ParseM (List Node)
  | 0, acc => pure acc.reverse
  | fuel + 1, acc => do
    let t ← peek
    match t.kind with
    | .blockEntry =>
      advance
      let t' ← peek
      let item ← if t'.kind.isOneOf [.blockEntry, .key, .value, .blockEnd] then
          pure (emptyScalar t.stop)
        else parseNode fuel true false
      indentlessItems fuel (item :: acc)
    | _ => return acc.reverse
def blockMappingValue : Nat → ParseM Node
  | 0 => pure (emptyScalar {})
  | fuel + 1 => do
    let t ← peek
    if t.kind = .value then
      advance
      let t' ← peek
      if t'.kind.isOneOf [.key, .value, .blockEnd] then return emptyScalar t.stop
      parseNode fuel true true
    else return emptyScalar t.start
def blockMappingEntries : Nat → Mark → List (Node × Node) → ParseM (List (Node × Node))
  | 0, _, acc => pure acc.reverse
  | fuel + 1, start, acc => do
    let t ← peek
    match t.kind with
    | .key =>
      advance
      let t' ← peek
      let k ← if t'.kind.isOneOf [.key, .value, .blockEnd] then pure (emptyScalar t.stop)
        else parseNode fuel true true
      let v ← blockMappingValue fuel
      blockMappingEntries fuel start ((k, v) :: acc)
    | .blockEnd =>
      advance
      return acc.reverse
    | _ => parseError "while parsing a block mapping" start "did not find expected key" t.start

def flowPair : Nat → Mark → ParseM Node
  | 0, _ => pure (emptyScalar {})
  | fuel + 1, start => do
    let t ← peek
    let k ← if t.kind.isOneOf [.value, .flowEntry, .flowSequenceEnd] then do
        advance
        pure (emptyScalar t.stop)
      else parseNode fuel false false
    let t ← peek
    let v ← if t.kind = .value then do
        advance
        let t' ← peek
        if t'.kind.isOneOf [.flowEntry, .flowSequenceEnd] then pure (emptyScalar t.start)
        else parseNode fuel false false
      else pure (emptyScalar t.start)
    let _ ← peek
    return .mapping [(k, v)] "!!map" (start.line + 1)

def flowSequenceItems : Nat → Mark → Bool → List Node → ParseM (List Node)
  | 0, _, _, acc => pure acc.reverse
  | fuel + 1, start, first, acc => do
    let t ← peek
    if t.kind = .flowSequenceEnd then
      advance
      return acc.reverse
    let t ← if first then pure t
      else if t.kind = .flowEntry then do
        advance
        peek
      else
        parseError "while parsing a flow sequence" start "did not find expected ',' or ']'" t.start
    match t.kind with
    | .key =>
      advance
      let item ← flowPair fuel t.start
      flowSequenceItems fuel start false (item :: acc)
    | .flowSequenceEnd =>
      advance
      return acc.reverse
    | _ =>
      let item ← parseNode fuel false false
      flowSequenceItems fuel start false (item :: acc)

def flowMappingEntries : Nat → Mark → Bool → List (Node × Node) → ParseM (List (Node × Node))
  | 0, _, _, acc => pure acc.reverse
  | fuel + 1, start, first, acc => do
    let t ← peek
    if t.kind = .flowMappingEnd then
      advance
      return acc.reverse
    let t ← if first then pure t
      else if t.kind = .flowEntry then do
        advance
        peek
      else
        parseError "while parsing a flow mapping" start "did not find expected ',' or '\x7d'" t.start
    match t.kind with
    | .key =>
      advance
      let t' ← peek
      let k ← if t'.kind.isOneOf [.value, .flowEntry, .flowMappingEnd] then
          pure (emptyScalar t'.start)
        else parseNode fuel false false
      let t'' ← peek
      let v ← if t''.kind = .value then do
          advance
          let t3 ← peek
          if t3.kind.isOneOf [.flowEntry, .flowMappingEnd] then pure (emptyScalar t3.start)
          else parseNode fuel false false
        else pure (emptyScalar t''.start)
      flowMappingEntries fuel start false ((k, v) :: acc)
    | .flowMappingEnd =>
      advance
      return acc.reverse
    | _ =>
      let k ← parseNode fuel false false
      let t' ← peek
      flowMappingEntries fuel start false ((k, emptyScalar t'.start) :: acc)

end

def defaultTagHandles : List (String × String) := [("!", "!"), ("!!", longTagPrefix)]
def readDirectives : Nat → Bool → ParseM Unit
  | 0, _ => pure ()
  | fuel + 1, seenVersion => do
    let t ← peek
    match t.kind with
    | .versionDirective major minor =>
      if seenVersion then parseError "" {} "found duplicate %YAML directive" t.start
      if major ≠ 1 ∨ minor ≠ 1 then parseError "" {} "found incompatible YAML document" t.start
      advance
      readDirectives fuel true
    | .tagDirective handle pfx =>
      if ((← get).tagHandles.lookup handle).isSome then
        parseError "" {} "found duplicate %TAG directive" t.start
      modify fun r => { r with tagHandles := r.tagHandles ++ [(handle, pfx)] }
      advance
      readDirectives fuel seenVersion
    | _ => pure ()

def addDefaultHandles : ParseM Unit :=
  modify fun r => { r with tagHandles := r.tagHandles ++
    defaultTagHandles.filter fun (h, _) => (r.tagHandles.lookup h).isNone }

def readFirstDocument (fuel : Nat) : ParseM (Option Node) := do
  let _ ← peek
  advance
  let t ← peek
  let root ← match t.kind with
    | .streamEnd => pure none
    | .versionDirective .. | .tagDirective .. | .documentStart => do
      readDirectives fuel false
      addDefaultHandles
      let t ← peek
      if t.kind ≠ .documentStart then
        parseError "" {} "did not find expected <document start>" t.start
      advance
      let t ← peek
      if t.kind.isOneOf [.versionDirective 0 0, .tagDirective "" "", .documentStart, .documentEnd,
          .streamEnd] then pure (some (emptyScalar t.start))
      else some <$> parseNode fuel true false
    | _ => do
      addDefaultHandles
      some <$> parseNode fuel true false
  if root.isSome then
    let t ← peek
    if t.kind = .documentEnd then advance
  return root

def parseDocument (text : String) : Except YamlError (Option Node) :=
  let text := if text.isEmpty then "\n" else text
  match text.toList.find? (fun c => !isAllowedChar c) with
  | some _ => .error (.reader "control characters are not allowed")
  | none =>
    let s := Scanner.start text
    (readFirstDocument (8 * s.input.size + 64)).run' { scanner := s }

end AccessPolicy.Yaml
