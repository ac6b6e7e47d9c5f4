import AccessPolicy.Json.Basic
import AccessPolicy.Json.Write
import AccessPolicy.Number.Binary
import AccessPolicy.Regex.Search
import AccessPolicy.Text.RangeTable
import AccessPolicy.Net.Url
/-!
# Compiling JSON schemas

A schema document is compiled into a table of subschemas, each naming its children by their
place in the table. Compiling checks the keywords one by one in a fixed order and stops at the
first that is malformed, with a message saying what was expected; a valid schema compiles in
full.
-/

namespace AccessPolicy.JsonSchema

inductive Draft where
  | draft4
  | draft6
  | draft7
  | hybrid
  deriving DecidableEq, Repr, Inhabited

def Draft.rank : Draft → Nat
  | .draft4 => 4
  | .draft6 => 6
  | .draft7 => 7
  | .hybrid => 100

inductive Extra where
  | allow
  | deny
  | schema (index : Nat)
  deriving DecidableEq, Repr, Inhabited

inductive Items where
  | none
  | single (index : Nat)
  | tuple (indexes : List Nat)
  deriving DecidableEq, Repr, Inhabited
inductive Dependency where
  | names (names : List String)
  | schema (index : Nat)
  deriving DecidableEq, Repr, Inhabited

structure Schema where
  pass : Option Bool := none
  ref : Option Nat := none
  types : List String := []
  properties : List (String × Nat) := []
  patternProperties : List (String × Nat) := []
  additionalProperties : Extra := .allow
  propertyNames : Option Nat := none
  dependencies : List (String × Dependency) := []
  items : Items := .none
  additionalItems : Extra := .allow
  multipleOf : Option Rat := none
  minimum : Option Rat := none
  exclusiveMinimum : Option Rat := none
  maximum : Option Rat := none
  exclusiveMaximum : Option Rat := none
  minLength : Option Nat := none
  maxLength : Option Nat := none
  pattern : Option String := none
  format : Option String := none
  minProperties : Option Nat := none
  maxProperties : Option Nat := none
  required : List String := []
  minItems : Option Nat := none
  maxItems : Option Nat := none
  uniqueItems : Bool := false
  contains : Option Nat := none
  const : Option String := none
  enum : List String := []
  oneOf : List Nat := []
  anyOf : List Nat := []
  allOf : List Nat := []
  not : Option Nat := none
  ifSchema : Option Nat := none
  thenSchema : Option Nat := none
  elseSchema : Option Nat := none
  deriving Inhabited

/-! ## Canonical values -/

def numberValue? (numeral : String) : Option Rat :=
  match Numeral.read? numeral with
  | some (.finite neg digits exp) =>
    let q := decimalRat digits exp
    some (if neg then -q else q)
  | _ => none

/-- A document with its numbers as 64-bit floats write them and its objects' members sorted by
name, each once with its last value; none when a number is too large for a float. -/
def canonical : Json → Option Json
  | .number n =>
    match Numeral.read? n with
    | some num =>
      let x := Binary.ofNumeral .double num
      if x.isFinite then some (.number (Binary.text .double .json x)) else none
    | none => none
  | .array items => .array <$> canonicalItems items
  | .object members => do
    let ms ← canonicalMembers members
    let keys := (ms.map (·.1)).eraseDups.mergeSort (fun a b => decide (a ≤ b))
    pure (.object (keys.filterMap fun k => ((ms.reverse.find? (·.1 == k)).map (k, ·.2))))
  | j => some j
where
  canonicalItems : List Json → Option (List Json)
    | [] => some []
    | j :: js => do
      let c ← canonical j
      let cs ← canonicalItems js
      pure (c :: cs)
  canonicalMembers : List (String × Json) → Option (List (String × Json))
    | [] => some []
    | (k, j) :: ms => do
      let c ← canonical j
      let cs ← canonicalMembers ms
      pure ((k, c) :: cs)

def canonicalText? (j : Json) : Option String :=
  (canonical j).map (Json.compact true)

/-! ## Messages -/

def invalidType (expected given : String) : String :=
  "Invalid type. Expected: " ++ expected ++ ", given: " ++ given

def mustBeOfA (x y : String) : String := x ++ " must be of a " ++ y

def mustBeOfAn (x y : String) : String := x ++ " must be of an " ++ y

def mustBeOfType (key type : String) : String := key ++ " must be of type " ++ type

def mustBeGTEZero (key : String) : String := key ++ " must be greater than or equal to 0"

def cannotBeGreaterThan (key y : String) : String := key ++ " cannot be greater than " ++ y

def jsonTypes : List String := ["array", "boolean", "integer", "number", "null", "object", "string"]

/-! ## Compiling -/

/-- What compiling keeps: the registered documents, the table so far, and the references
compiled. -/
structure Compiler where
  docs : List (String × Json)
  table : Array Schema := #[]
  pool : List (String × Nat) := []

abbrev CompileM := StateT Compiler (Except String)

def refuse (message : String) : CompileM α := throw message
def reserve : CompileM Nat := do
  let c ← get
  set { c with table := c.table.push {} }
  return c.table.size

def fill (i : Nat) (s : Schema) : CompileM Unit :=
  modify fun c => { c with table := c.table.set! i s }

def isObject : Json → Bool
  | .object _ => true
  | _ => false

def isSchemaShaped : Json → Bool
  | .object _ | .bool _ => true
  | _ => false
def numberOf? : Json → Option Rat
  | .number n => numberValue? n
  | _ => none

def integerOf? : Json → Option Int
  | .number n =>
    match n.toInt? with
    | some i => if -(Int.pow 2 63) ≤ i ∧ i < Int.pow 2 63 then some i else none
    | none => none
  | _ => none

def pointerToken (s : String) : String :=
  (s.replace "~1" "/").replace "~0" "~"

def indexOf? (t : String) : Option Int :=
  let (neg, digits) := match t.toList with
    | '-' :: ds => (true, ds)
    | '+' :: ds => (false, ds)
    | ds => (false, ds)
  if digits.isEmpty || !digits.all Char.isDigit then none
  else
    let v : Int := (String.ofList digits).toNat!
    let v := if neg then -v else v
    if -(Int.pow 2 63) ≤ v && v < Int.pow 2 63 then some v else none
def followPointer (j : Json) : List String → Except String Json
  | [] => .ok j
  | t :: ts =>
    match j with
    | .object _ =>
      let key := pointerToken t
      match j.get? key with
      | some v => followPointer v ts
      | none => .error ("Object has no key '" ++ key ++ "'")
    | .array items =>
      match indexOf? t with
      | some i =>
        match (if i < 0 then none else items[i.toNat]?) with
        | some v => followPointer v ts
        | none => .error ("Out of bound array[0," ++ toString items.length ++ "] index '" ++ toString i ++ "'")
      | none => .error ("Invalid array index '" ++ t ++ "'")
    | _ => .error ("Invalid token reference '" ++ t ++ "'")

/-- Resolves a reference against the identifier in force, its fragment dropped, and reads the
result again. -/
def inherit (scope child : Url) : Except String Url :=
  Url.parse (Url.render (Url.resolve { scope with fragment := "" } child))

mutual

/-- Registers the identified objects of a document and rewrites its references, in the scope
of an identifier: the document rewritten, the registered documents growing in the state. -/
def gather : Nat → Url → Json → StateM (List (String × Json)) Json
  | 0, _, j => pure j
  | fuel + 1, scope, j =>
    match j with
    | .array items => .array <$> gatherItems fuel scope items
    | .object ms => do
      let idKey := if (j.get? "id").isSome then "id" else "$id"
      let here : Option Url := match j.get? idKey with
        | some (.string text) => ((Url.parse text).toOption.bind fun u => (inherit scope u).toOption)
        | _ => none
      let key := here.map Url.render
      let taken := (← get).map (·.1)
      if key.any taken.contains then return j
      if let some k := key then modify (· ++ [(k, .null)])
      let local_ := here.getD scope
      let ms := ms.map fun (k, v) =>
        if k == "$ref" then
          match v with
          | .string r =>
            match (Url.parse r).toOption.bind fun u => (inherit local_ u).toOption with
            | some abs => (k, .string abs.render)
            | none => (k, v)
          | _ => (k, v)
        else (k, v)
      let ms ← gatherMembers fuel local_ ms
      let out := Json.object ms
      if let some k := key then
        modify fun ps => ps.map fun (k2, d) => if k2 == k then (k2, out) else (k2, d)
      pure out
    | _ => pure j

def gatherItems : Nat → Url → List Json → StateM (List (String × Json)) (List Json)
  | 0, _, js => pure js
  | _ + 1, _, [] => pure []
  | fuel + 1, scope, j :: js => do
    let j ← gather fuel scope j
    pure (j :: (← gatherItems fuel scope js))

/-- Gathers the members of an object: values are not looked into, and the members of keywords
whose members are named by properties are. -/
def gatherMembers : Nat → Url → List (String × Json) → StateM (List (String × Json)) (List (String × Json))
  | 0, _, ms => pure ms
  | _ + 1, _, [] => pure []
  | fuel + 1, scope, (k, v) :: ms => do
    let v ← if k == "const" || k == "enum" then pure v
      else if k == "properties" || k == "dependencies" || k == "patternProperties" then
        match v with
        | .object inner => .object <$> gatherNamed fuel scope inner
        | _ => pure v
      else gather fuel scope v
    pure ((k, v) :: (← gatherMembers fuel scope ms))

def gatherNamed : Nat → Url → List (String × Json) → StateM (List (String × Json)) (List (String × Json))
  | 0, _, ms => pure ms
  | _ + 1, _, [] => pure []
  | fuel + 1, scope, (k, v) :: ms => do
    let v ← gather fuel scope v
    pure ((k, v) :: (← gatherNamed fuel scope ms))

end

def lookupDocument (docs : List (String × Json)) (ref : Url) : Except String Json :=
  let key := ref.render
  match docs.lookup key with
  | some d => .ok d
  | none =>
    match docs.lookup (Url.render { ref with fragment := "" }) with
    | some d =>
      let fragment := Utf8.textOfBytes ((Url.unescape .fragment ref.fragment.toList).toOption.getD [])
      if fragment.startsWith "/" then followPointer d ((fragment.drop 1).toString.splitOn "/")
      else .ok d
    | none =>
      if !ref.scheme.isEmpty && !ref.host.isEmpty then
        .error ("Could not load the document of reference " ++ key)
      else .error ("Reference " ++ key ++ " must be canonical")

def countOf (key : String) (j : Json) : CompileM Nat :=
  match integerOf? j with
  | none => refuse (mustBeOfAn key "integer")
  | some i => if i < 0 then refuse (mustBeGTEZero key) else pure i.toNat

def draftNamed (url : String) : Option Draft :=
  let url := if url.endsWith "#" then String.ofList url.toList.dropLast else url
  let url := if url.startsWith "https://" then "http://" ++ (url.drop 8).toString else url
  match url with
  | "http://json-schema.org/draft-04/schema" => some .draft4
  | "http://json-schema.org/draft-06/schema" => some .draft6
  | "http://json-schema.org/draft-07/schema" => some .draft7
  | _ => none

mutual

def compileNew : Nat → Draft → Json → CompileM Nat
  | 0, _, _ => refuse "schema nests too deeply"
  | fuel + 1, draft, j => do
    let i ← reserve
    compileAt fuel draft i j
    return i
def compileAt : Nat → Draft → Nat → Json → CompileM Unit
  | 0, _, _, _ => refuse "schema nests too deeply"
  | fuel + 1, draft, i, j =>
    match j with
    | .bool b =>
      if draft.rank ≥ 6 then fill i { pass := some b }
      else refuse "Expected: Valid Schema, given: Invalid JSON"
    | .object _ => do
      let s ← keywords fuel draft j
      fill i s
    | _ => refuse "Expected: Valid Schema, given: Invalid JSON"

def compileMembers : Nat → Draft → List (String × Json) → CompileM (List (String × Nat))
  | 0, _, _ => refuse "schema nests too deeply"
  | _ + 1, _, [] => pure []
  | fuel + 1, draft, (k, v) :: ms => do
    let i ← compileNew fuel draft v
    let rest ← compileMembers fuel draft ms
    pure ((k, i) :: rest)

def compileList : Nat → Draft → String → List Json → CompileM (List Nat)
  | 0, _, _, _ => refuse "schema nests too deeply"
  | _ + 1, _, _, [] => pure []
  | fuel + 1, draft, message, j :: js => do
    if !isSchemaShaped j then refuse message
    let i ← compileNew fuel draft j
    let rest ← compileList fuel draft message js
    pure (i :: rest)

def compileDependencies : Nat → Draft → List (String × Json) → CompileM (List (String × Dependency))
  | 0, _, _ => refuse "schema nests too deeply"
  | _ + 1, _, [] => pure []
  | fuel + 1, draft, (k, v) :: ms => do
    let refusal := mustBeOfType "dependency" "Schema Or Array Of Strings"
    let here ← match v with
      | .array items =>
        let names := items.filterMap fun
          | .string s => some s
          | _ => none
        if names.length ≠ items.length then refuse refusal
        else pure (if names.isEmpty then [] else [(k, Dependency.names names)])
      | .object _ | .bool _ => do
        let i ← compileNew fuel draft v
        pure [(k, Dependency.schema i)]
      | _ => refuse refusal
    let rest ← compileDependencies fuel draft ms
    pure (here ++ rest)

def optionalSchema : Nat → Draft → Json → String → String → CompileM (Option Nat)
  | 0, _, _, _, _ => refuse "schema nests too deeply"
  | fuel + 1, draft, j, key, message =>
    match j.get? key with
    | none => pure none
    | some v =>
      if isSchemaShaped v then some <$> compileNew fuel draft v else refuse message

def keywords : Nat → Draft → Json → CompileM Schema
  | 0, _, _ => refuse "schema nests too deeply"
  | fuel + 1, draft, j => do
    let field := j.get?
    let mut s : Schema := {}
    -- identifier
    let idKey := if draft = .draft4 then "id"
      else if draft = .hybrid && (field "id").isSome then "id" else "$id"
    match field idKey with
    | some (.string text) =>
      match Url.parse text with
      | .ok _ => pure ()
      | .error e => refuse e
    | none => pure ()
    | some _ => refuse (invalidType "string" idKey)
    -- definitions
    match field "definitions" with
    | none => pure ()
    | some (.object ms) =>
      for (_, d) in Json.members (.object ms) do
        if isSchemaShaped d then discard <| compileNew fuel draft d
        else refuse (invalidType "Array Of Schemas" "definitions")
    | some _ => refuse (invalidType "Array Of Schemas" "definitions")
    -- annotations
    for key in ["title", "description"] do
      match field key with
      | some (.string _) | none => pure ()
      | some _ => refuse (invalidType "string" key)
    -- references
    match field "$ref" with
    | none => pure ()
    | some (.string text) =>
      let ref ← match Url.parse text with
        | .ok u => pure u
        | .error e => refuse e
      let r := ref.render
      match (← get).pool.lookup r with
      | some target => s := { s with ref := some target }
      | none =>
        let target ← reserve
        modify fun c => { c with pool := (r, target) :: c.pool }
        match lookupDocument (← getThe Compiler).docs ref with
        | .error e => refuse e
        | .ok doc =>
          if !isSchemaShaped doc then refuse (mustBeOfType "Valid Schema" "object")
          compileAt fuel draft target doc
          return { s with ref := some target }
    | some _ => refuse (invalidType "string" "$ref")
    -- type
    match field "type" with
    | none => pure ()
    | some t =>
      let names ← match t with
        | .string n => pure [n]
        | .array items =>
          items.mapM fun
            | .string n => pure n
            | _ => refuse (invalidType "type" "string/Array Of Strings")
        | _ => refuse (invalidType "type" "string/Array Of Strings")
      for n in names do
        if !jsonTypes.contains n then
          refuse ("has a primitive type that is NOT VALID -- given: /" ++ n ++
            "/ Expected valid values are:[" ++ " ".intercalate jsonTypes ++ "]")
        if s.types.contains n then refuse (n ++ " type is duplicated")
        s := { s with types := s.types ++ [n] }
    -- properties
    match field "properties" with
    | none => pure ()
    | some (.object ms) =>
      let props ← compileMembers fuel draft (Json.members (.object ms))
      s := { s with properties := props }
    | some _ => refuse (mustBeOfType "properties" "object")
    -- additionalProperties
    match field "additionalProperties" with
    | none => pure ()
    | some (.bool b) => s := { s with additionalProperties := if b then .allow else .deny }
    | some (.object ms) =>
      let i ← compileNew fuel draft (.object ms)
      s := { s with additionalProperties := .schema i }
    | some _ => refuse (invalidType "boolean/Valid Schema" "additionalProperties")
    -- patternProperties
    match field "patternProperties" with
    | none => pure ()
    | some (.object ms) =>
      for (k, _) in Json.members (.object ms) do
        if (Regex.Program.read k).toOption.isNone then
          refuse ("Invalid regex pattern '" ++ k ++ "'")
      let pats ← compileMembers fuel draft (Json.members (.object ms))
      s := { s with patternProperties := pats }
    | some _ => refuse (invalidType "Valid Schema" "patternProperties")
    -- propertyNames
    if draft.rank ≥ 6 then
      let names ← optionalSchema fuel draft j "propertyNames"
        (invalidType "Valid Schema" "patternProperties")
      s := { s with propertyNames := names }
    -- dependencies
    match field "dependencies" with
    | none => pure ()
    | some (.object ms) =>
      let deps ← compileDependencies fuel draft (Json.members (.object ms))
      s := { s with dependencies := deps }
    | some _ => refuse (mustBeOfType "dependencies" "object")
    -- items
    match field "items" with
    | none => pure ()
    | some (.array items) =>
      let is ← compileList fuel draft (invalidType "Valid Schema/Array Of Schemas" "items") items
      s := { s with items := .tuple is }
    | some v =>
      if isSchemaShaped v then
        let i ← compileNew fuel draft v
        s := { s with items := .single i }
      else refuse (invalidType "Valid Schema/Array Of Schemas" "items")
    -- additionalItems
    match field "additionalItems" with
    | none => pure ()
    | some (.bool b) => s := { s with additionalItems := if b then .allow else .deny }
    | some (.object ms) =>
      let i ← compileNew fuel draft (.object ms)
      s := { s with additionalItems := .schema i }
    | some _ => refuse (invalidType "boolean/Valid Schema" "additionalItems")
    -- numbers
    match field "multipleOf" with
    | none => pure ()
    | some v =>
      match numberOf? v with
      | none => refuse (invalidType "number" "multipleOf")
      | some q =>
        if q ≤ 0 then refuse "multipleOf must be strictly greater than 0"
        s := { s with multipleOf := some q }
    match field "minimum" with
    | none => pure ()
    | some v =>
      match numberOf? v with
      | none => refuse (mustBeOfA "minimum" "number")
      | some q => s := { s with minimum := some q }
    match field "exclusiveMinimum" with
    | none => pure ()
    | some (.bool b) =>
      if draft.rank ≥ 6 && draft ≠ .hybrid then
        refuse (invalidType "number" "exclusiveMinimum")
      if s.minimum.isNone then refuse "exclusiveMinimum cannot be used without minimum"
      if b then s := { s with exclusiveMinimum := s.minimum, minimum := none }
    | some v =>
      match numberOf?  v with
      | some q =>
        if draft = .draft4 then refuse (invalidType "boolean" "exclusiveMinimum")
        s := { s with exclusiveMinimum := some q }
      | none =>
        refuse (invalidType (match draft with
          | .draft4 => "boolean"
          | .hybrid => "boolean/number"
          | _ => "number") "exclusiveMinimum")
    match field "maximum" with
    | none => pure ()
    | some v =>
      match numberOf? v with
      | none => refuse (mustBeOfA "maximum" "number")
      | some q => s := { s with maximum := some q }
    match field "exclusiveMaximum" with
    | none => pure ()
    | some (.bool b) =>
      if draft.rank ≥ 6 && draft ≠ .hybrid then
        refuse (invalidType "number" "exclusiveMaximum")
      if s.maximum.isNone then refuse "exclusiveMaximum cannot be used without maximum"
      if b then s := { s with exclusiveMaximum := s.maximum, maximum := none }
    | some v =>
      match numberOf? v with
      | some q =>
        if draft = .draft4 then refuse (invalidType "boolean" "exclusiveMaximum")
        s := { s with exclusiveMaximum := some q }
      | none =>
        refuse (invalidType (match draft with
          | .draft4 => "boolean"
          | .hybrid => "boolean/number"
          | _ => "number") "exclusiveMaximum")
    -- strings
    match field "minLength" with
    | none => pure ()
    | some v => s := { s with minLength := some (← countOf "minLength" v) }
    match field "maxLength" with
    | none => pure ()
    | some v => s := { s with maxLength := some (← countOf "maxLength" v) }
    match s.minLength, s.maxLength with
    | some a, some b => if a > b then refuse (cannotBeGreaterThan "minLength" "maxLength")
    | _, _ => pure ()
    match field "pattern" with
    | none => pure ()
    | some (.string p) =>
      if (Regex.Program.read p).toOption.isNone then refuse "pattern must be a valid regex"
      s := { s with pattern := some p }
    | some _ => refuse (mustBeOfA "pattern" "string")
    match field "format" with
    | none => pure ()
    | some (.string f) => s := { s with format := some f }
    | some _ => refuse (mustBeOfType "format" "string")
    -- objects
    match field "minProperties" with
    | none => pure ()
    | some v => s := { s with minProperties := some (← countOf "minProperties" v) }
    match field "maxProperties" with
    | none => pure ()
    | some v => s := { s with maxProperties := some (← countOf "maxProperties" v) }
    match s.minProperties, s.maxProperties with
    | some a, some b => if a > b then refuse (cannotBeGreaterThan "minProperties" "maxProperties")
    | _, _ => pure ()
    match field "required" with
    | none => pure ()
    | some (.array items) =>
      for item in items do
        match item with
        | .string r =>
          if s.required.contains r then refuse "required items must be unique"
          s := { s with required := s.required ++ [r] }
        | _ => refuse "required items must be string"
    | some _ => refuse (mustBeOfAn "required" "array")
    -- arrays
    match field "minItems" with
    | none => pure ()
    | some v => s := { s with minItems := some (← countOf "minItems" v) }
    match field "maxItems" with
    | none => pure ()
    | some v => s := { s with maxItems := some (← countOf "maxItems" v) }
    match s.minItems, s.maxItems with
    | some a, some b => if a > b then refuse (cannotBeGreaterThan "minItems" "maxItems")
    | _, _ => pure ()
    match field "uniqueItems" with
    | none => pure ()
    | some (.bool b) => s := { s with uniqueItems := b }
    | some _ => refuse (mustBeOfA "uniqueItems" "boolean")
    if draft.rank ≥ 6 then
      match field "contains" with
      | none => pure ()
      | some v =>
        let i ← compileNew fuel draft v
        s := { s with contains := some i }
    -- values
    if draft.rank ≥ 6 then
      match field "const" with
      | none => pure ()
      | some v =>
        match canonicalText? v with
        | some t => s := { s with const := some t }
        | none => refuse "json: cannot unmarshal number into Go value of type float64"
    match field "enum" with
    | none => pure ()
    | some (.array items) =>
      for item in items do
        match canonicalText? item with
        | some t =>
          if s.enum.contains t then refuse "enum items must be unique"
          s := { s with enum := s.enum ++ [t] }
        | none => refuse "json: cannot unmarshal number into Go value of type float64"
    | some _ => refuse (mustBeOfAn "enum" "array")
    -- combinations
    let setters : List (String × (Schema → List Nat → Schema)) :=
      [("oneOf", fun s is => { s with oneOf := is }), ("anyOf", fun s is => { s with anyOf := is }),
        ("allOf", fun s is => { s with allOf := is })]
    for (key, setter) in setters do
      match field key with
      | none => pure ()
      | some (.array items) =>
        let is ← compileList fuel draft "Expected: Valid Schema, given: Invalid JSON" items
        s := setter s is
      | some _ => refuse (mustBeOfAn key "array")
    let notSchema ← optionalSchema fuel draft j "not" (mustBeOfAn "not" "object")
    s := { s with not := notSchema }
    if draft.rank ≥ 7 then
      let c ← optionalSchema fuel draft j "if" (mustBeOfAn "if" "object")
      let t ← optionalSchema fuel draft j "then" (mustBeOfAn "then" "object")
      let e ← optionalSchema fuel draft j "else" (mustBeOfAn "else" "object")
      s := { s with ifSchema := c, thenSchema := t, elseSchema := e }
    return s

end
structure Compiled where
  table : Array Schema
  root : Nat

def compile (j : Json) : Except String Compiled := do
  let draft ← match j with
    | .bool _ => pure Draft.hybrid
    | .object _ =>
      match j.get? "$schema" with
      | none => pure Draft.hybrid
      | some (.string url) => pure ((draftNamed url).getD .hybrid)
      | some _ => throw (mustBeOfType "$schema" "string")
    | _ => throw "schema is invalid"
  let fuel := 4 * (Json.compact false j).length + 64
  let (j, docs) := (gather fuel {} j).run []
  let docs := docs.filter (·.1 != "") ++ [("", j)]
  let (root, c) ← (compileNew fuel draft j).run { docs }
  pure { table := c.table, root }

end AccessPolicy.JsonSchema
