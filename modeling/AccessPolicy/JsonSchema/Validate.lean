import AccessPolicy.JsonSchema.Compile
import AccessPolicy.JsonSchema.Format
import AccessPolicy.Number.Fixed
/-!
# Validating documents against JSON schemas

A document is checked against a compiled schema, and every failure is reported with its kind,
the field it is about (the path from the root, `(root)` for the root itself) and a description.
-/

namespace AccessPolicy.JsonSchema
structure Failure where
  kind : String
  field : String
  description : String
  deriving Repr, Inhabited

structure Outcome where
  failures : List Failure := []
  score : Int := 0
  deriving Inhabited

namespace Outcome

def valid (o : Outcome) : Bool := o.failures.isEmpty

def bump (o : Outcome) : Outcome := { o with score := o.score + 1 }

def fieldOf (path : List String) : String :=
  if path.isEmpty then "(root)" else ".".intercalate path

def fail (o : Outcome) (kind : String) (path : List String) (description : String) : Outcome :=
  { failures := o.failures ++ [⟨kind, fieldOf path, description⟩], score := o.score - 2 }
def merge (o other : Outcome) : Outcome :=
  { failures := o.failures ++ other.failures, score := o.score + other.score }

end Outcome

/-- A bound as the description of a failure writes it. -/
def boundText (q : Rat) : String :=
  if q = 0 then "0"
  else
    let a := if q < 0 then -q else q
    let bits := max 64 (max (a.num.natAbs.log2 + 1) (a.den.log2 + 1))
    let e0 := floorLog2 a - ((bits - 1 : Nat) : Int)
    let m0 := roundHalfEven (a / pow2 e0)
    let (m, e) := if m0 = Nat.pow 2 bits then (m0 / 2, e0 + 1) else (m0, e0)
    let v : Rat := (m : Rat) * pow2 e
    let lo := v - pow2 (e - 1)
    let hi := v + pow2 (e - 1)
    let inside (x : Rat) : Bool := if m % 2 = 0 then lo ≤ x ∧ x ≤ hi else lo < x ∧ x < hi
    let top := floorLog10 v
    let found := (List.range (bits + 2)).findSome? fun (k : Nat) =>
      (Binary.gridPoint inside v (top - k)).map (·, top - (k : Int))
    let (t, s) := found.getD (roundHalfEven (v / pow10 (top - bits)), top - bits)
    let (t, s) := Binary.trimZeros t s (decimalLength t)
    NumberLayout.general.write (q < 0) t s

def typesText (types : List String) : String :=
  match types with
  | [t] => t
  | _ => "[" ++ ",".intercalate types ++ "]"

def kindName : Json → String
  | .null => "null"
  | .bool _ => "boolean"
  | .number n => if ((numberValue? n).map (·.den == 1)).getD false then "integer" else "number"
  | .string _ => "string"
  | .array _ => "array"
  | .object _ => "object"

def typeAllowed (types : List String) (j : Json) : Bool :=
  types.isEmpty ||
    match j with
    | .number _ => types.contains "number" || (kindName j == "integer" && types.contains "integer")
    | _ => types.contains (kindName j)

def checkValues (s : Schema) (j : Json) (path : List String) (o : Outcome) : Outcome :=
  let text := canonicalText? j
  let field := Outcome.fieldOf path
  let o := match s.const with
    | some c => if text == some c then o else o.fail "const" path (field ++ " does not match: " ++ c)
    | none => o
  let o :=
    if s.enum.isEmpty || (text.map s.enum.contains).getD false then o
    else o.fail "enum" path (field ++ " must be one of the following: " ++ ", ".intercalate s.enum)
  o.bump

def checkNumber (s : Schema) (q : Rat) (path : List String) (o : Outcome) : Outcome :=
  let o := match s.multipleOf with
    | some m => if (q / m).den == 1 then o
      else o.fail "multiple_of" path ("Must be a multiple of " ++ boundText m)
    | none => o
  let o := match s.maximum with
    | some m => if q > m then o.fail "number_lte" path ("Must be less than or equal to " ++ boundText m)
      else o
    | none => o
  let o := match s.exclusiveMaximum with
    | some m => if q ≥ m then o.fail "number_lt" path ("Must be less than " ++ boundText m) else o
    | none => o
  let o := match s.minimum with
    | some m => if q < m then o.fail "number_gte" path ("Must be greater than or equal to " ++ boundText m)
      else o
    | none => o
  let o := match s.exclusiveMinimum with
    | some m => if q ≤ m then o.fail "number_gt" path ("Must be greater than " ++ boundText m) else o
    | none => o
  o.bump

def checkString (s : Schema) (str : String) (path : List String) (o : Outcome) : Outcome :=
  let n := str.length
  let o := match s.minLength with
    | some m => if n < m then
        o.fail "string_gte" path ("String length must be greater than or equal to " ++ toString m)
      else o
    | none => o
  let o := match s.maxLength with
    | some m => if n > m then
        o.fail "string_lte" path ("String length must be less than or equal to " ++ toString m)
      else o
    | none => o
  let o := match s.pattern with
    | some p => if patternHolds p str then o
      else o.fail "pattern" path ("Does not match pattern '" ++ p ++ "'")
    | none => o
  let o := match s.format with
    | some f => if formatHolds f str then o
      else o.fail "format" path ("Does not match format '" ++ f ++ "'")
    | none => o
  o.bump

def sortedMembers (ms : List (String × Json)) : List (String × Json) :=
  (Json.members (.object ms)).mergeSort fun a b => decide (a.1 ≤ b.1)

mutual

/-- Checks a value against the subschema at a place, adding to an outcome. -/
def visit : Nat → Array Schema → Nat → Json → List String → Outcome → Outcome
  | 0, _, _, _, _, o => o
  | fuel + 1, table, i, j, path, o =>
    let s := table.getD i {}
    match s.pass, s.ref with
    | some true, _ => o
    | some false, _ => o.fail "false" path "False always fails validation"
    | none, some r => visit fuel table r j path o
    | none, none =>
      if !typeAllowed s.types j then
        o.fail "invalid_type" path (invalidType (typesText s.types) (kindName j))
      else
        let o := combinations fuel table s j path o
        let o := match j with
          | .number n =>
            let o := match numberValue? n with
              | some q => checkNumber s q path o
              | none => o
            checkValues s j path o
          | .string str => checkString s str path (checkValues s j path o)
          | .array items => checkValues s j path (checkArray fuel table s items path o)
          | .object ms =>
            let o := checkValues s j path (checkObject fuel table s ms path o)
            properties fuel table s.properties ms path o
          | _ => checkValues s j path o
        o.bump

def apart : Nat → Array Schema → Nat → Json → List String → Outcome
  | 0, _, _, _, _ => {}
  | fuel + 1, table, i, j, path => visit fuel table i j path {}

def combinations : Nat → Array Schema → Schema → Json → List String → Outcome → Outcome
  | 0, _, _, _, _, o => o
  | fuel + 1, table, s, j, path, o =>
    let o :=
      if s.anyOf.isEmpty then o
      else
        let (ok, best) := s.anyOf.foldl (fun (acc : Bool × Option Outcome) k =>
          if acc.1 then acc
          else
            let r := apart fuel table k j path
            if r.valid then (true, acc.2)
            else match acc.2 with
              | some b => if r.score > b.score then (false, some r) else acc
              | none => (false, some r)) (false, none)
        if ok then o
        else
          let o := o.fail "number_any_of" path "Must validate at least one schema (anyOf)"
          match best with
          | some b => o.merge b
          | none => o
    let o :=
      if s.oneOf.isEmpty then o
      else
        let (count, best) := s.oneOf.foldl (fun (acc : Nat × Option Outcome) k =>
          let r := apart fuel table k j path
          if r.valid then (acc.1 + 1, acc.2)
          else if acc.1 = 0 then
            match acc.2 with
            | some b => if r.score > b.score then (acc.1, some r) else acc
            | none => (acc.1, some r)
          else acc) (0, none)
        if count = 1 then o
        else
          let o := o.fail "number_one_of" path "Must validate one and only one schema (oneOf)"
          if count = 0 then
            match best with
            | some b => o.merge b
            | none => o
          else o
    let o :=
      if s.allOf.isEmpty then o
      else
        let (count, o) := s.allOf.foldl (fun (acc : Nat × Outcome) k =>
          let r := apart fuel table k j path
          ((if r.valid then acc.1 + 1 else acc.1), acc.2.merge r)) (0, o)
        if count = s.allOf.length then o
        else o.fail "number_all_of" path "Must validate all the schemas (allOf)"
    let o := match s.not with
      | some k =>
        if (apart fuel table k j path).valid then
          o.fail "number_not" path "Must not validate the schema (not)"
        else o
      | none => o
    let o := match j with
      | .object ms =>
        (sortedMembers ms).foldl (fun (o : Outcome) (m : String × Json) =>
          match s.dependencies.lookup m.1 with
          | some (.names names) =>
            names.foldl (fun (o : Outcome) n =>
              if (j.get? n).isSome then o
              else o.fail "missing_dependency" path ("Has a dependency on " ++ n)) o
          | some (.schema k) => visit fuel table k j path o
          | none => o) o
      | _ => o
    let o := match s.ifSchema with
      | some c =>
        let held := (apart fuel table c j path).valid
        let o := match s.thenSchema with
          | some t =>
            if held then
              let r := apart fuel table t j path
              if r.valid then o
              else (o.fail "condition_then" path "Must validate \"then\" as \"if\" was valid").merge r
            else o
          | none => o
        match s.elseSchema with
        | some e =>
          if !held then
            let r := apart fuel table e j path
            if r.valid then o
            else (o.fail "condition_else" path "Must validate \"else\" as \"if\" was not valid").merge r
          else o
        | none => o
      | none => o
    o.bump

def checkArray : Nat → Array Schema → Schema → List Json → List String → Outcome → Outcome
  | 0, _, _, _, _, o => o
  | fuel + 1, table, s, items, path, o =>
    let indexed := items.zipIdx
    let o := match s.items with
      | .single k =>
        indexed.foldl (fun (o : Outcome) ((item, n) : Json × Nat) => o.merge (apart fuel table k item (path ++ [toString n]))) o
      | .tuple ks =>
        let o := (indexed.zip ks).foldl (fun (o : Outcome) (((item, n), k) : (Json × Nat) × Nat) =>
          o.merge (apart fuel table k item (path ++ [toString n]))) o
        if ks.length < items.length then
          match s.additionalItems with
          | .deny => o.fail "array_no_additional_items" path "No additional items allowed on array"
          | .schema k =>
            (indexed.drop ks.length).foldl (fun (o : Outcome) ((item, n) : Json × Nat) =>
              o.merge (apart fuel table k item (path ++ [toString n]))) o
          | .allow => o
        else o
      | .none => o
    let o := match s.minItems with
      | some m => if items.length < m then
          o.fail "array_min_items" path ("Array must have at least " ++ toString m ++ " items")
        else o
      | none => o
    let o := match s.maxItems with
      | some m => if items.length > m then
          o.fail "array_max_items" path ("Array must have at most " ++ toString m ++ " items")
        else o
      | none => o
    let o :=
      if !s.uniqueItems then o
      else
        let (o, _) := indexed.foldl (fun (acc : Outcome × List (String × Nat)) ((item, n) : Json × Nat) =>
          let text := (canonicalText? item).getD ""
          let o := match acc.2.lookup text with
            | some i => acc.1.fail "unique" path
                ("array items[" ++ toString i ++ "," ++ toString n ++ "] must be unique")
            | none => acc.1
          (o, (text, n) :: acc.2)) (o, [])
        o
    let o := match s.contains with
      | some k =>
        let (ok, best) := indexed.foldl (fun (acc : Bool × Option Outcome) ((item, n) : Json × Nat) =>
          if acc.1 then acc
          else
            let r := apart fuel table k item (path ++ [toString n])
            if r.valid then (true, acc.2)
            else match acc.2 with
              | some b => if r.score > b.score then (false, some r) else acc
              | none => (false, some r)) (false, none)
        if ok then o
        else
          let o := o.fail "contains" path "At least one of the items must match"
          match best with
          | some b => o.merge b
          | none => o
      | none => o
    o.bump
def checkObject : Nat → Array Schema → Schema → List (String × Json) → List String → Outcome →
    Outcome
  | 0, _, _, _, _, o => o
  | fuel + 1, table, s, ms, path, o =>
    let members := sortedMembers ms
    let o := match s.minProperties with
      | some m => if members.length < m then
          o.fail "array_min_properties" path ("Must have at least " ++ toString m ++ " properties")
        else o
      | none => o
    let o := match s.maxProperties with
      | some m => if members.length > m then
          o.fail "array_max_properties" path ("Must have at most " ++ toString m ++ " properties")
        else o
      | none => o
    let o := s.required.foldl (fun (o : Outcome) r =>
      if members.any (·.1 == r) then o.bump else o.fail "required" path (r ++ " is required")) o
    let o := members.foldl (fun (o : Outcome) ((key, value) : String × Json) =>
      let found := s.properties.any (·.1 == key)
      let matching := s.patternProperties.filter fun (p, _) => patternHolds p key
      let o := matching.foldl (fun (o : Outcome) (p : String × Nat) => o.merge (apart fuel table p.2 value (path ++ [key]))) o
      let o := if matching.isEmpty then o else o.bump
      if found || !matching.isEmpty then o
      else match s.additionalProperties with
        | .deny =>
          o.fail "additional_property_not_allowed" path ("Additional property " ++ key ++ " is not allowed")
        | .schema k => o.merge (apart fuel table k value (path ++ [key]))
        | .allow => o) o
    let o := match s.propertyNames with
      | some k =>
        members.foldl (fun (o : Outcome) (m : String × Json) =>
          let key := m.1
          let r := apart fuel table k (.string key) path
          if r.valid then o
          else (o.fail "invalid_property_name" path
            ("Property name of \"" ++ key ++ "\" does not match")).merge r) o
      | none => o
    o.bump

def properties : Nat → Array Schema → List (String × Nat) → List (String × Json) → List String →
    Outcome → Outcome
  | 0, _, _, _, _, o => o
  | fuel + 1, table, props, ms, path, o =>
    let sorted := props.mergeSort fun a b => decide (a.1 ≤ b.1)
    sorted.foldl (fun (o : Outcome) ((name, k) : String × Nat) =>
      match (Json.object ms).get? name with
      | some v => visit fuel table k v (path ++ [name]) o
      | none => o) o

end

def Compiled.check (c : Compiled) (j : Json) : Outcome :=
  visit (16 * (Json.compact false j).length + 16 * c.table.size + 64) c.table c.root j [] {}

end AccessPolicy.JsonSchema
