import AccessPolicy.Yaml.Decode
import AccessPolicy.Value.Cast
/-!
# Decoding YAML into untyped values
-/

namespace AccessPolicy.Yaml

def scalarAny (n : Node) : DecodeM Value := do
  let (tag, v) ← scalarValue n
  match v with
  | .null => pure .null
  | .bool b => pure (.bool b)
  | .int i => pure (.int (if i < Int.pow 2 63 then .int else .uint64) i)
  | .float x => pure (.float64 x)
  | .timestamp _ => pure (.text n.text)
  | .str s => if tag = "!!binary" then .text <$> binaryText n else pure (.text s)

/-- Whether every key of a mapping is a string or a merge key; the keys of such a mapping, and
of the mappings merged into it, are decoded as strings. -/
def hasStringKeys (entries : List (Node × Node)) : Bool :=
  entries.all fun (k, _) => k.shortTagOf = "!!str" ∨ k.shortTagOf = "!!merge"

/-- What tells map keys apart: the kind of their value and its text, so that the number `1`
and the string `"1"` are different keys. -/
def keyIdentity (v : Value) : String × String := (v.typeName, v.asText)

def withField (fields : List (String × Value)) (name : String) (v : Value) :
    List (String × Value) :=
  fields.filter (·.1 != name) ++ [(name, v)]

mutual

/-- The untyped value of a node, every node decoded counted. -/
def anyValue : Node → DecodeM Value
  | .scalar text tag style line => do
    countNode
    scalarAny (.scalar text tag style line)
  | .sequence items _ _ => do
    countNode
    .list <$> anyItems items
  | .mapping entries _ _ => do
    countNode
    if !(← checkUniqueKeys entries) then return .null
    let strings := hasStringKeys entries
    let (fields, _) ← anyOwn strings none entries []
    if !hasMerge entries then return .map fields
    let keys ← anyKeys entries
    let (fields, _) ← anyMerges strings entries keys fields
    return .map fields
  | .aliasRef name none _ => do
    countNode
    stopDecoding (selfContained name)
  | .aliasRef _ (some n) _ => insideAlias (anyValue n)

def anyItems : List Node → DecodeM (List Value)
  | [] => pure []
  | n :: ns => do
    let v ← anyValue n
    pure (v :: (← anyItems ns))

/-- Decodes a mapping's own entries into the fields so far, merge keys aside; a later entry of a
name replaces an earlier. -/
def anyOwn (strings : Bool) : Option (List (String × String)) → List (Node × Node) →
    List (String × Value) → DecodeM (List (String × Value) × Option (List (String × String)))
  | taken, [], fields => pure (fields, taken)
  | taken, (k, v) :: es, fields => do
    if isMergeKey k then anyOwn strings taken es fields
    else
      let key ← if strings then (fun s => s.map Value.text) <$> asString k
        else some <$> anyValue k
      match key with
      | none => anyOwn strings taken es fields
      | some key =>
        let id := keyIdentity key
        if (taken.map (·.contains id)).getD false then anyOwn strings taken es fields
        else
          match key with
          | .list _ | .map _ => stopDecoding ("invalid map key: " ++ key.display)
          | _ =>
            let value ← anyValue v
            anyOwn strings (taken.map (id :: ·)) es (withField fields key.asText value)

def anyKeys : List (Node × Node) → DecodeM (List (String × String))
  | [] => pure []
  | (k, _) :: es => do
    let key ← anyValue k
    pure (keyIdentity key :: (← anyKeys es))

def anyMerges (strings : Bool) : List (Node × Node) → List (String × String) →
    List (String × Value) → DecodeM (List (String × Value) × List (String × String))
  | [], taken, fields => pure (fields, taken)
  | (k, v) :: es, taken, fields =>
    if isMergeKey k && !hasMerge es then anyMerge strings v taken fields
    else anyMerges strings es taken fields

/-- Merges a merge key's value into the fields so far: a mapping or the mapping an alias names,
whose own entries come before its own merge, or each mapping of a sequence in turn. -/
def anyMerge (strings : Bool) : Node → List (String × String) → List (String × Value) →
    DecodeM (List (String × Value) × List (String × String))
  | .mapping entries _ _, taken, fields => do
    countNode
    if !(← checkUniqueKeys entries) then return (fields, taken)
    let (fields, now) ← anyOwn strings (some taken) entries fields
    anyMerges strings entries (now.getD taken) fields
  | .aliasRef name none _, _, _ => do
    countNode
    stopDecoding (selfContained name)
  | .aliasRef _ (some (.mapping entries _ _)) _, taken, fields => insideAlias do
    countNode
    if !(← checkUniqueKeys entries) then return (fields, taken)
    let (fields, now) ← anyOwn strings (some taken) entries fields
    anyMerges strings entries (now.getD taken) fields
  | .aliasRef .., _, _ => stopDecoding mergeRefusal
  | .sequence items _ _, taken, fields => anyMergeItems strings items taken fields
  | .scalar .., _, _ => stopDecoding mergeRefusal

def anyMergeItems (strings : Bool) : List Node → List (String × String) →
    List (String × Value) → DecodeM (List (String × Value) × List (String × String))
  | [], taken, fields => pure (fields, taken)
  | n :: ns, taken, fields =>
    match n with
    | .mapping .. | .aliasRef _ none _ | .aliasRef _ (some (.mapping ..)) _ => do
      let (fields, taken) ← anyMerge strings n taken fields
      anyMergeItems strings ns taken fields
    | _ => stopDecoding mergeRefusal

end

/-- Decodes a map from names to untyped values, the names being the keys' texts as written
(a null key names the empty name). -/
def asAnyMap (n : Node) : DecodeM (Option (List (String × Value))) := decoding n fun n => do
  let target := "map[string]interface \x7b\x7d"
  match n with
  | .scalar .. =>
    let (tag, v) ← scalarValue n
    match v with
    | .null => return none
    | _ =>
      typeError n tag target
      return none
  | .sequence .. =>
    typeError n "!!seq" target
    return none
  | .mapping entries .. =>
    if !(← checkUniqueKeys entries) then return none
    let d : EntryDecoder (List (String × Value)) :=
      { key := fun k => do
          if k.shortTagOf = "!!null" then
            countShallow k
            return some ""
          asString k
        entry := fun name v out => do return Row.set out name (← anyValue v) }
    return some (← mappingInto d entries [])
  | .aliasRef .. => return none

def settingsMap (n : Node) : DecodeM (List (String × Value)) := do
  return (← asAnyMap n).getD []

def readAny (text : String) : Except String Value :=
  match parseDocument text with
  | .error e => .error e.message
  | .ok none => .ok .null
  | .ok (some root) => decodeRoot anyValue root

mutual

def lowerNames : Value → Value
  | .map fields => .map (lowerFields fields)
  | v => v

/-- Fields with their names folded to lower case, a later field of a folded name replacing an
earlier. -/
def lowerFields : List (String × Value) → List (String × Value)
  | [] => []
  | (k, v) :: fs =>
    let rest := lowerFields fs
    let name := CharClass.lowerText k
    if rest.any (·.1 == name) then rest else (name, lowerNames v) :: rest

end

def readSettings (text : String) : Except String (List (String × Value)) :=
  match parseDocument text with
  | .error e => .error e.message
  | .ok none => .ok []
  | .ok (some root) =>
    (decodeRoot settingsMap root).map lowerFields

end AccessPolicy.Yaml
