import AccessPolicy.Yaml.Parser
import AccessPolicy.Text.Quote
import AccessPolicy.Text.Base64
import AccessPolicy.Text.Utf8
/-!
# Decoding YAML nodes into typed values

A document is decoded against the type it is meant to have. A node of the wrong kind for its
place is a *type error*, reported with the node's line, tag and text and the type expected, and
collected: decoding goes on, and the document fails at the end with all of them. A few problems
stop decoding at once (an alias inside the node it names, a scalar whose text does not fit its
tag).
-/

namespace AccessPolicy.Yaml

/-- What decoding keeps as it goes: the type errors found so far, and the counts that bound how
much of a document may be decoded through aliases. -/
structure DecodeState where
  errors : Array String := #[]
  decoded : Nat := 0
  aliased : Nat := 0
  depth : Nat := 0
abbrev DecodeM := StateT DecodeState (Except String)

def stopDecoding (problem : String) : DecodeM α := throw ("yaml: " ++ problem)

def recordError (message : String) : DecodeM Unit :=
  modify fun s => { s with errors := s.errors.push message }

def nearestDouble (q : Rat) : Rat :=
  let r := if q < 0 then Binary.round .double true (-q) else Binary.round .double false q
  r.toRat?.getD 0

/-- The greatest share of decodings that may lie inside aliases once `decoded` nodes have been
decoded: 99% up to 400000, 10% from 4000000, and on the straight line between the two in
between, each step rounded as 64-bit floating-point arithmetic rounds it. -/
def aliasShareLimit (decoded : Nat) : Rat :=
  if decoded ≤ 400000 then nearestDouble (99 / 100)
  else if decoded ≥ 4000000 then nearestDouble (1 / 10)
  else
    let along := nearestDouble (((decoded - 400000 : Nat) : Rat) / 3600000)
    nearestDouble (nearestDouble (99 / 100) - nearestDouble (nearestDouble (89 / 100) * along))

/-- Whether too much of a document has been decoded through aliases: more than 100 decodings
inside aliases among more than 1000, making a greater share, rounded to a 64-bit number, than
`aliasShareLimit` allows. -/
def tooAliased (decoded aliased : Nat) : Bool :=
  aliased > 100 && decoded > 1000 &&
    decide (nearestDouble ((aliased : Rat) / (decoded : Rat)) > aliasShareLimit decoded)

/-- Counts one more decoding, inside an alias or not, and stops decoding once too much of the
document has come through aliases. -/
def countNode : DecodeM Unit := do
  modify fun s =>
    { s with decoded := s.decoded + 1
             aliased := if s.depth > 0 then s.aliased + 1 else s.aliased }
  let s ← get
  if tooAliased s.decoded s.aliased then stopDecoding "document contains excessive aliasing"

/-- Runs the decoding of the node an alias names: the alias counts as decoded, and everything
`act` decodes lies one alias deeper. -/
def insideAlias (act : DecodeM α) : DecodeM α := do
  countNode
  modify fun s => { s with depth := s.depth + 1 }
  let v ← act
  modify fun s => { s with depth := s.depth - 1 }
  pure v

def selfContained (name : String) : String := "anchor '" ++ name ++ "' value contains itself"

/-- Decodes a node with `body`, counting it. -/
def decoding (n : Node) (body : Node → DecodeM α) : DecodeM α :=
  match n with
  | .aliasRef name none _ => do
    countNode
    stopDecoding (selfContained name)
  | .aliasRef _ (some t) _ => insideAlias do
    countNode
    body t
  | _ => do
    countNode
    body n

def countShallow (n : Node) : DecodeM Unit := decoding n fun _ => pure ()

def bytePrefix (s : String) (n : Nat) : String :=
  String.ofList (Utf8.decode ((Utf8.encode s).take n))
def typeError (n : Node) (tag target : String) : DecodeM Unit := do
  let tag := if n.tag ≠ "" then n.tag else tag
  let value :=
    if tag = "!!seq" ∨ tag = "!!map" then ""
    else if (Utf8.encode n.text).length > 10 then " `" ++ bytePrefix n.text 7 ++ "...`"
    else " `" ++ n.text ++ "`"
  recordError ("line " ++ toString n.line ++ ": cannot unmarshal " ++ shortTag tag ++ value ++
    " into " ++ target)

/-- The node an alias names; an alias inside the node it names stops decoding. -/
def follow : Node → DecodeM Node
  | .aliasRef name none _ => stopDecoding (selfContained name)
  | .aliasRef _ (some n) _ => pure n
  | n => pure n

def checkUniqueKeys (entries : List (Node × Node)) : DecodeM Bool := do
  let keys := entries.map (·.1)
  let mut ok := true
  for (ki, i) in keys.zipIdx do
    for kj in keys.drop (i + 1) do
      if ki.sameKind kj ∧ ki.text = kj.text then
        ok := false
        recordError ("line " ++ toString kj.line ++ ": mapping key " ++ Quote.string kj.text ++
          " already defined at line " ++ toString ki.line)
  return ok

def scalarValue (n : Node) : DecodeM (String × Scalar) :=
  if n.isIndicatedString then pure ("!!str", .str n.text)
  else
    match resolve n.tag n.text with
    | .ok r => pure r
    | .error e => stopDecoding e

def binaryText (n : Node) : DecodeM String :=
  match Base64.decode (String.ofList (n.text.toList.filter (fun c => c ≠ '\n' ∧ c ≠ '\r'))) with
  | .ok bytes => pure (String.ofList (Utf8.decode bytes))
  | .error _ => stopDecoding "!!binary value contains invalid base64 data"

def asString (n : Node) : DecodeM (Option String) := decoding n fun n => do
  match n with
  | .scalar .. =>
    let (tag, v) ← scalarValue n
    match v with
    | .null => return none
    | _ => if tag = "!!binary" then return some (← binaryText n) else return some n.text
  | .sequence .. =>
    typeError n "!!seq" "string"
    return none
  | .mapping entries .. =>
    if ← checkUniqueKeys entries then typeError n "!!map" "string"
    return none
  | .aliasRef .. => return none

def boolWord? (s : String) : Option Bool :=
  if s ∈ ["y", "Y", "yes", "Yes", "YES", "on", "On", "ON"] then some true
  else if s ∈ ["n", "N", "no", "No", "NO", "off", "Off", "OFF"] then some false
  else none

def asBool (n : Node) : DecodeM (Option Bool) := decoding n fun n => do
  match n with
  | .scalar .. =>
    let (tag, v) ← scalarValue n
    match v with
    | .null => return none
    | .bool b => return some b
    | .str s =>
      match boolWord? s with
      | some b => return some b
      | none =>
        typeError n tag "bool"
        return none
    | _ =>
      typeError n tag "bool"
      return none
  | .sequence .. =>
    typeError n "!!seq" "bool"
    return none
  | .mapping entries .. =>
    if ← checkUniqueKeys entries then typeError n "!!map" "bool"
    return none
  | .aliasRef .. => return none

def asList (target : String) (item : Node → DecodeM (Option α)) (n : Node) :
    DecodeM (Option (List α)) := decoding n fun n => do
  match n with
  | .scalar .. =>
    let (tag, v) ← scalarValue n
    match v with
    | .null => return some []
    | _ =>
      typeError n tag target
      return none
  | .sequence items .. =>
    let mut out := #[]
    for x in items do
      if let some v ← item x then out := out.push v
    return some out.toList
  | .mapping entries .. =>
    if ← checkUniqueKeys entries then typeError n "!!map" target
    return none
  | .aliasRef .. => return none

def isMergeKey : Node → Bool
  | .scalar "<<" tag .plain _ => tag = "" ∨ tag = "!" ∨ shortTag tag = "!!merge"
  | _ => false

def hasMerge (entries : List (Node × Node)) : Bool :=
  entries.any fun (k, _) => isMergeKey k

/-- Why a merge cannot be made: its value is not a mapping, an alias of one, or a sequence of
those. -/
def mergeRefusal : String := "map merge requires map or sequence of maps as the value"

structure EntryDecoder (α : Type) where
  key : Node → DecodeM (Option String)
  entry : String → Node → α → DecodeM α
  /-- For a record, the name of its type and whether it has a field of a name: one mapping
  setting a field twice is an error. -/
  fields : Option (String × (String → Bool)) := none

/-- Decodes a mapping's own entries in order, merge keys aside. -/
def ownEntries (d : EntryDecoder α) (taken : Option (List String))
    (entries : List (Node × Node)) (acc : α) : DecodeM (α × Option (List String)) := do
  let mut acc := acc
  let mut taken := taken
  let mut done : List String := []
  for (k, v) in entries do
    if isMergeKey k then continue
    let some name ← d.key k | continue
    if let some names := taken then
      if names.contains name then continue
      taken := some (name :: names)
    if let some (typeName, known) := d.fields then
      if known name then
        if done.contains name then
          recordError ("line " ++ toString k.line ++ ": field " ++ name ++
            " already set in type " ++ typeName)
          continue
        done := name :: done
    acc ← d.entry name v acc
  return (acc, taken)

/-- The names a mapping's own keys take when its merge is made: each key is decoded once more,
and a string key takes its text. -/
def parentNames (entries : List (Node × Node)) : DecodeM (List String) := do
  let mut names := []
  for (k, _) in entries do
    countShallow k
    let tag := k.shortTagOf
    if tag = "!!str" ∨ tag = "!!merge" then
      names := (match k with
        | .aliasRef _ (some t) _ => t.text
        | _ => k.text) :: names
  return names

mutual

/-- Merges a merge key's value into the value so far: a mapping or the mapping an alias names,
whose own entries come before its own merge, or each mapping of a sequence in turn. -/
def mergeInto (d : EntryDecoder α) : Node → List String → α → DecodeM (α × List String)
  | .mapping entries _ _, names, acc => do
    countNode
    if !(← checkUniqueKeys entries) then return (acc, names)
    let (acc, taken) ← ownEntries d (some names) entries acc
    mergesInto d entries (taken.getD names) acc
  | .aliasRef name none _, _, _ => do
    countNode
    stopDecoding (selfContained name)
  | .aliasRef _ (some (.mapping entries _ _)) _, names, acc => insideAlias do
    countNode
    if !(← checkUniqueKeys entries) then return (acc, names)
    let (acc, taken) ← ownEntries d (some names) entries acc
    mergesInto d entries (taken.getD names) acc
  | .aliasRef .., _, _ => stopDecoding mergeRefusal
  | .sequence items _ _, names, acc => mergeItemsInto d items names acc
  | .scalar .., _, _ => stopDecoding mergeRefusal

def mergeItemsInto (d : EntryDecoder α) : List Node → List String → α →
    DecodeM (α × List String)
  | [], names, acc => pure (acc, names)
  | n :: ns, names, acc =>
    match n with
    | .mapping .. | .aliasRef _ none _ | .aliasRef _ (some (.mapping ..)) _ => do
      let (acc, names) ← mergeInto d n names acc
      mergeItemsInto d ns names acc
    | _ => stopDecoding mergeRefusal

def mergesInto (d : EntryDecoder α) : List (Node × Node) → List String → α →
    DecodeM (α × List String)
  | [], names, acc => pure (acc, names)
  | (k, v) :: es, names, acc =>
    if isMergeKey k && !hasMerge es then mergeInto d v names acc
    else mergesInto d es names acc

end

/-- Decodes a mapping's entries into a value: its own entries in order, then its merge, which
passes over the names the mapping's keys take. -/
def mappingInto (d : EntryDecoder α) (entries : List (Node × Node)) (acc : α) : DecodeM α := do
  let (acc, _) ← ownEntries d none entries acc
  if !hasMerge entries then return acc
  let names ← parentNames entries
  let (acc, _) ← mergesInto d entries names acc
  return acc

/-- Decodes a map from strings to strings, in document order; a key with a null value maps to
the empty string unless the map has the key already. -/
def asStringMap (n : Node) : DecodeM (Option (List (String × String))) := decoding n fun n => do
  let target := "map[string]string"
  match n with
  | .scalar .. =>
    let (tag, v) ← scalarValue n
    match v with
    | .null => return some []
    | _ =>
      typeError n tag target
      return none
  | .sequence .. =>
    typeError n "!!seq" target
    return none
  | .mapping entries .. =>
    if !(← checkUniqueKeys entries) then return none
    let d : EntryDecoder (Array (String × String)) :=
      { key := asString
        entry := fun key v out => do
          match ← asString v with
          | some s => return (out.filter (·.1 ≠ key)).push (key, s)
          | none =>
            if v.shortTagOf = "!!null" ∧ !(out.any (·.1 = key)) then return out.push (key, "")
            else return out }
    return some (← mappingInto d entries #[]).toList
  | .aliasRef .. => return none

/-- Decodes a record from a mapping: each key the record knows sets its field through `field`,
starting from `init`. -/
def asRecord (target : String) (init : α) (field : String → Option (Node → α → DecodeM α))
    (n : Node) : DecodeM (Option α) := decoding n fun n => do
  match n with
  | .scalar .. =>
    let (tag, v) ← scalarValue n
    match v with
    | .null => return none
    | _ =>
      typeError n tag target
      return none
  | .sequence .. =>
    typeError n "!!seq" target
    return none
  | .mapping entries .. =>
    if !(← checkUniqueKeys entries) then return none
    let d : EntryDecoder α :=
      { key := asString
        entry := fun name v acc =>
          match field name with
          | some set => set v acc
          | none => pure acc
        fields := some (target, fun name => (field name).isSome) }
    return some (← mappingInto d entries init)
  | .aliasRef .. => return none

def setWith (decode : Node → DecodeM (Option β)) (update : α → β → α) :
    Node → α → DecodeM α := fun n acc => do
  match ← decode n with
  | some b => return update acc b
  | none => return acc

/-- Decodes the root of a document, the document itself counted as decoded first, and fails
with the type errors found, if any. -/
def decodeRoot (decode : Node → DecodeM α) (root : Node) : Except String α :=
  match (do countNode; decode root).run {} with
  | .error e => .error e
  | .ok (v, s) =>
    if s.errors.isEmpty then .ok v
    else .error ("yaml: unmarshal errors:\n  " ++ "\n  ".intercalate s.errors.toList)

def decodeText (text : String) (decode : Node → DecodeM (Option α)) (zero : α) :
    Except String α :=
  match parseDocument text with
  | .error e => .error e.message
  | .ok none => .ok zero
  | .ok (some root) => (decodeRoot decode root).map (·.getD zero)

end AccessPolicy.Yaml
