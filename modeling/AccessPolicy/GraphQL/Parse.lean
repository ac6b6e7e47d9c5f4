import AccessPolicy.GraphQL.Syntax
import AccessPolicy.GraphQL.Lexer
/-!
# Reading GraphQL documents

Query and schema documents are read by recursive descent over their tokens. The first token
that does not fit fails the whole document.
-/

namespace AccessPolicy.GraphQL

abbrev Reader := StateT (List Token) (Except String)

def peek : Reader Token := do
  pure ((← get).headD ⟨.eof, ""⟩)

def next : Reader Token := do
  let ts ← get
  match ts with
  | t :: rest => if t.kind == .eof then pure t else do set rest; pure t
  | [] => pure ⟨.eof, ""⟩

def fail {α : Type} (why : String) : Reader α := throw why

def expect (kind : TokenKind) : Reader Token := do
  let t ← peek
  if t.kind == kind then next else fail "unexpected token"

def skip (kind : TokenKind) : Reader Bool := do
  if (← peek).kind == kind then do let _ ← next; pure true else pure false

def readName : Reader String := do
  pure (← expect .name).value

def keyword (word : String) : Reader Unit := do
  let t ← peek
  if t.kind == .name && t.value == word then do let _ ← next; pure ()
  else fail ("Expected " ++ word)

/-- Reads items between two tokens, when the first is next: as many as come before the second,
none included. -/
def many {α : Type} (start stop : TokenKind) (item : Reader α) : Nat → Reader (List α)
  | 0 => fail "too deep"
  | fuel + 1 => do
    if !(← skip start) then pure []
    else
      let rec loop : Nat → List α → Reader (List α)
        | 0, _ => fail "too long"
        | n + 1, acc => do
          let t ← peek
          if t.kind == stop then do let _ ← next; pure acc.reverse
          else if t.kind == .eof then fail "unexpected end"
          else loop n ((← item) :: acc)
      loop (fuel + 1) []

def atLeastOne {α : Type} (start stop : TokenKind) (item : Reader α) (fuel : Nat) : Reader (List α) := do
  if (← peek).kind != start then pure []
  else
    let items ← many start stop item fuel
    if items.isEmpty then fail "expected at least one definition" else pure items

mutual

def readValue (constant : Bool) : Nat → Reader Value
  | 0 => fail "too deep"
  | fuel + 1 => do
    let t ← peek
    match t.kind with
    | .bracketL => Value.list <$> many .bracketL .bracketR (readValue constant fuel) fuel
    | .braceL => Value.object <$> many .braceL .braceR (objectField constant fuel) fuel
    | .dollar =>
      if constant then fail "unexpected variable"
      else do
        let _ ← next
        Value.variable <$> readName
    | .int => do let _ ← next; pure (.int t.value)
    | .float => do let _ ← next; pure (.float t.value)
    | .string => do let _ ← next; pure (.string t.value)
    | .blockString => do let _ ← next; pure (.block t.value)
    | .name =>
      let _ ← next
      match t.value with
      | "true" => pure (.boolean true)
      | "false" => pure (.boolean false)
      | "null" => pure .null
      | n => pure (.enum n)
    | _ => fail "unexpected token"

def objectField (constant : Bool) : Nat → Reader (String × Value)
  | 0 => fail "too deep"
  | fuel + 1 => do
    let n ← readName
    let _ ← expect .colon
    pure (n, ← readValue constant fuel)

end
def readArguments (constant : Bool) (fuel : Nat) : Reader (List (String × Value)) :=
  many .parenL .parenR (do
    let n ← readName
    let _ ← expect .colon
    pure (n, ← readValue constant fuel)) fuel

def readDirectives (constant : Bool) (fuel : Nat) : Nat → Reader (List Directive)
  | 0 => pure []
  | n + 1 => do
    if (← peek).kind != .at then pure []
    else
      let _ ← next
      let dn ← readName
      let args ← readArguments constant fuel
      pure (⟨dn, args⟩ :: (← readDirectives constant fuel n))

def typeRef : Nat → Reader TypeRef
  | 0 => fail "too deep"
  | fuel + 1 => do
    let inner ← if ← skip .bracketL then do
        let e ← typeRef fuel
        let _ ← expect .bracketR
        pure (TypeRef.list e false)
      else do pure (TypeRef.named (← readName) false)
    let nonNull ← skip .bang
    pure (match inner with
      | .list e _ => .list e nonNull
      | .named n _ => .named n nonNull)

def variableDefs (fuel : Nat) : Reader (List VariableDef) :=
  many .parenL .parenR (do
    let _ ← expect .dollar
    let n ← readName
    let _ ← expect .colon
    let t ← typeRef fuel
    let d ← if ← skip .equals then some <$> readValue true fuel else pure none
    let ds ← readDirectives false fuel fuel
    pure { name := n, type := t, default := d, directives := ds }) fuel

mutual

def selectionSet : Nat → Reader (List Selection)
  | 0 => fail "too deep"
  | fuel + 1 => do
    if (← peek).kind != .braceL then fail "Expected \x7b"
    else atLeastOne .braceL .braceR (selection fuel) fuel

def selection : Nat → Reader Selection
  | 0 => fail "too deep"
  | fuel + 1 => do
    if ← skip .spread then
      let t ← peek
      if t.kind == .name && t.value != "on" then
        let n ← readName
        let ds ← readDirectives false fuel fuel
        pure (.spread n ds)
      else
        let cond ← if t.value == "on" then do let _ ← next; readName else pure ""
        let ds ← readDirectives false fuel fuel
        let sel ← selectionSet fuel
        pure (.inline cond ds sel)
    else
      let aliasName ← readName
      let n ← if ← skip .colon then readName else pure aliasName
      let args ← readArguments false fuel
      let ds ← readDirectives false fuel fuel
      let sel ← if (← peek).kind == .braceL then selectionSet fuel else pure []
      pure (.field aliasName n args ds sel)

end

def operationType : Reader String := do
  let t ← next
  if t.kind == .name && (t.value == "query" || t.value == "mutation" || t.value == "subscription") then
    pure t.value
  else fail "unexpected token"

def operation (fuel : Nat) : Reader Operation := do
  if (← peek).kind == .braceL then
    pure { kind := "query", name := "", variableDefs := [], directives := [],
           selections := ← selectionSet fuel }
  else
    let kind ← operationType
    let n ← if (← peek).kind == .name then do pure (← next).value else pure ""
    let vs ← variableDefs fuel
    let ds ← readDirectives false fuel fuel
    let sel ← selectionSet fuel
    pure { kind, name := n, variableDefs := vs, directives := ds, selections := sel }

def fragment (fuel : Nat) : Reader Fragment := do
  keyword "fragment"
  if (← peek).value == "on" then fail "unexpected on"
  else
    let n ← readName
    let vs ← variableDefs fuel
    keyword "on"
    let cond ← readName
    let ds ← readDirectives false fuel fuel
    let sel ← selectionSet fuel
    pure { name := n, variableDefs := vs, typeCondition := cond, directives := ds, selections := sel }

def queryDefinitions (fuel : Nat) : Nat → QueryDocument → Reader QueryDocument
  | 0, doc => pure doc
  | n + 1, doc => do
    let t ← peek
    match t.kind with
    | .eof => pure doc
    | .braceL =>
      let op ← operation fuel
      queryDefinitions fuel n { doc with operations := doc.operations ++ [op] }
    | .name =>
      if t.value == "query" || t.value == "mutation" || t.value == "subscription" then
        let op ← operation fuel
        queryDefinitions fuel n { doc with operations := doc.operations ++ [op] }
      else if t.value == "fragment" then
        let f ← fragment fuel
        queryDefinitions fuel n { doc with fragments := doc.fragments ++ [f] }
      else fail "unexpected token"
    | _ => fail "unexpected token"

def parseQuery (source : String) : Except String QueryDocument := do
  let tokens ← lex source
  let fuel := tokens.length + 2
  let (doc, _) ← (queryDefinitions fuel (tokens.length + 1) ⟨[], []⟩).run tokens
  pure doc

/-! ## Schema documents -/

def readDescription : Reader String := do
  let t ← peek
  if t.kind == .string || t.kind == .blockString then do let _ ← next; pure t.value
  else pure ""

def inputValueDef (fuel : Nat) : Reader InputValueDef := do
  let d ← readDescription
  let n ← readName
  let _ ← expect .colon
  let t ← typeRef fuel
  let dv ← if ← skip .equals then some <$> readValue true fuel else pure none
  let ds ← readDirectives true fuel fuel
  pure { description := d, name := n, type := t, default := dv, directives := ds }

def argumentDefs (fuel : Nat) : Reader (List InputValueDef) :=
  atLeastOne .parenL .parenR (inputValueDef fuel) fuel

def fieldDef (fuel : Nat) : Reader FieldDef := do
  let d ← readDescription
  let n ← readName
  let args ← argumentDefs fuel
  let _ ← expect .colon
  let t ← typeRef fuel
  let ds ← readDirectives true fuel fuel
  pure { description := d, name := n, args, default := none, type := t, directives := ds }
def InputValueDef.asField (v : InputValueDef) : FieldDef :=
  { description := v.description, name := v.name, args := [], default := v.default, type := v.type,
    directives := v.directives }

def joinedNames (sep : TokenKind) : Nat → Reader (List String)
  | 0 => pure []
  | fuel + 1 => do
    let n ← readName
    if ← skip sep then pure (n :: (← joinedNames sep fuel)) else pure [n]

def implementsList (fuel : Nat) : Reader (List String) := do
  let t ← peek
  if t.kind == .name && t.value == "implements" then
    let _ ← next
    let _ ← skip .amp
    joinedNames .amp fuel
  else pure []

def unionMembers (fuel : Nat) : Reader (List String) := do
  if ← skip .equals then
    let _ ← skip .pipe
    joinedNames .pipe fuel
  else pure []

def enumValues (fuel : Nat) : Reader (List EnumValueDef) :=
  atLeastOne .braceL .braceR (do
    let d ← readDescription
    let n ← readName
    let ds ← readDirectives true fuel fuel
    pure ⟨d, n, ds⟩) fuel

/-- Reads the body of a type definition or extension after its keyword: its name and what
the kind allows. -/
def typeBody (kind : Kind) (desc : String) (fuel : Nat) : Reader TypeDef := do
  let n ← readName
  match kind with
  | .scalar => pure { kind, description := desc, name := n, directives := ← readDirectives true fuel fuel }
  | .object | .interface =>
    let ifs ← implementsList fuel
    let ds ← readDirectives true fuel fuel
    let fs ← atLeastOne .braceL .braceR (fieldDef fuel) fuel
    pure { kind, description := desc, name := n, interfaces := ifs, directives := ds, fields := fs }
  | .union =>
    let ds ← readDirectives true fuel fuel
    let ts ← unionMembers fuel
    pure { kind, description := desc, name := n, directives := ds, types := ts }
  | .enum =>
    let ds ← readDirectives true fuel fuel
    let vs ← enumValues fuel
    pure { kind, description := desc, name := n, directives := ds, enumValues := vs }
  | .inputObject =>
    let ds ← readDirectives true fuel fuel
    let fs ← atLeastOne .braceL .braceR (inputValueDef fuel) fuel
    pure { kind, description := desc, name := n, directives := ds, fields := fs.map (·.asField) }

def kindOf? : String → Option Kind
  | "scalar" => some .scalar
  | "type" => some .object
  | "interface" => some .interface
  | "union" => some .union
  | "enum" => some .enum
  | "input" => some .inputObject
  | _ => none

def operationTypes (fuel : Nat) : Reader (List (String × String)) :=
  atLeastOne .braceL .braceR (do
    let op ← operationType
    let _ ← expect .colon
    pure (op, ← readName)) fuel

def directiveLocations : List String :=
  ["QUERY", "MUTATION", "SUBSCRIPTION", "FIELD", "FRAGMENT_DEFINITION", "FRAGMENT_SPREAD",
   "INLINE_FRAGMENT", "VARIABLE_DEFINITION", "SCHEMA", "SCALAR", "OBJECT", "FIELD_DEFINITION",
   "ARGUMENT_DEFINITION", "INTERFACE", "UNION", "ENUM", "ENUM_VALUE", "INPUT_OBJECT",
   "INPUT_FIELD_DEFINITION"]

def directiveLocation : Reader String := do
  let n ← readName
  if directiveLocations.contains n then pure n else fail "unexpected location"

def locationList : Nat → Reader (List String)
  | 0 => pure []
  | fuel + 1 => do
    let l ← directiveLocation
    if ← skip .pipe then pure (l :: (← locationList fuel)) else pure [l]
def directiveDef (desc : String) (fuel : Nat) : Reader DirectiveDef := do
  keyword "directive"
  let _ ← expect .at
  let n ← readName
  let args ← argumentDefs fuel
  let t ← peek
  let repeatable := t.kind == .name && t.value == "repeatable"
  if repeatable then do let _ ← next
  keyword "on"
  let _ ← skip .pipe
  let ls ← locationList fuel
  pure { description := desc, name := n, args, locations := ls, repeatable }

def extension (fuel : Nat) (doc : SchemaDocument) : Reader SchemaDocument := do
  let t ← peek
  if t.kind == .name && t.value == "schema" then
    let _ ← next
    let ds ← readDirectives true fuel fuel
    let ops ← operationTypes fuel
    if ds.isEmpty && ops.isEmpty then fail "unexpected token"
    else pure { doc with schemaExtensions := doc.schemaExtensions ++ [⟨"", ds, ops⟩] }
  else
    match (if t.kind == .name then kindOf? t.value else none) with
    | some kind =>
      let _ ← next
      let d ← typeBody kind "" fuel
      let empty := d.directives.isEmpty && d.interfaces.isEmpty && d.fields.isEmpty &&
        d.types.isEmpty && d.enumValues.isEmpty
      if empty then fail "unexpected token"
      else pure { doc with extensions := doc.extensions ++ [d] }
    | none => fail "unexpected token"

def schemaDefinitions (fuel : Nat) : Nat → SchemaDocument → Reader SchemaDocument
  | 0, doc => pure doc
  | n + 1, doc => do
    if (← peek).kind == .eof then pure doc
    else
      let desc ← readDescription
      let t ← peek
      if t.kind != .name then fail "unexpected token"
      else
        match kindOf? t.value with
        | some kind =>
          let _ ← next
          let d ← typeBody kind desc fuel
          schemaDefinitions fuel n { doc with definitions := doc.definitions ++ [d] }
        | none =>
          match t.value with
          | "schema" =>
            let _ ← next
            let ds ← readDirectives true fuel fuel
            let ops ← operationTypes fuel
            schemaDefinitions fuel n { doc with schema := doc.schema ++ [⟨desc, ds, ops⟩] }
          | "directive" =>
            let d ← directiveDef desc fuel
            schemaDefinitions fuel n { doc with directives := doc.directives ++ [d] }
          | "extend" =>
            if !desc.isEmpty then fail "unexpected token"
            else
              let _ ← next
              schemaDefinitions fuel n (← extension fuel doc)
          | _ => fail "unexpected token"

def parseSchemaWith (builtIn : Bool) (source : String) : Except String SchemaDocument := do
  let tokens ← lex source
  let fuel := tokens.length + 2
  let (doc, _) ← (schemaDefinitions fuel (tokens.length + 1) {}).run tokens
  pure { doc with definitions := doc.definitions.map ({ · with builtIn }),
                  extensions := doc.extensions.map ({ · with builtIn }) }

def parseSchema (source : String) : Except String SchemaDocument :=
  parseSchemaWith false source

end AccessPolicy.GraphQL
