import AccessPolicy.GraphQL.Parse
/-!
# Checking GraphQL schemas

A schema document is checked together with the definitions every schema has: the scalars
`Int`, `Float`, `String`, `Boolean` and `ID`, the directives `@include`, `@skip`, `@defer`,
`@deprecated`, `@specifiedBy` and `@oneOf`, and the introspection types. The document's own
definitions come after these.
-/

namespace AccessPolicy.GraphQL

def preludeText : String :=
  "scalar Int\nscalar Float\nscalar String\nscalar Boolean\nscalar ID\n" ++
  "directive @defer(if: Boolean = true, label: String) on FRAGMENT_SPREAD | INLINE_FRAGMENT\n" ++
  "directive @include(if: Boolean!) on FIELD | FRAGMENT_SPREAD | INLINE_FRAGMENT\n" ++
  "directive @skip(if: Boolean!) on FIELD | FRAGMENT_SPREAD | INLINE_FRAGMENT\n" ++
  "directive @deprecated(reason: String = \"No longer supported\") on FIELD_DEFINITION | " ++
  "ARGUMENT_DEFINITION | INPUT_FIELD_DEFINITION | ENUM_VALUE\n" ++
  "directive @specifiedBy(url: String!) on SCALAR\n" ++
  "directive @oneOf on INPUT_OBJECT\n" ++
  "type __Schema \x7b description: String types: [__Type!]! queryType: __Type! " ++
  "mutationType: __Type subscriptionType: __Type directives: [__Directive!]! \x7d\n" ++
  "type __Type \x7b kind: __TypeKind! name: String description: String " ++
  "fields(includeDeprecated: Boolean = false): [__Field!] interfaces: [__Type!] " ++
  "possibleTypes: [__Type!] enumValues(includeDeprecated: Boolean = false): [__EnumValue!] " ++
  "inputFields(includeDeprecated: Boolean = false): [__InputValue!] ofType: __Type " ++
  "specifiedByURL: String isOneOf: Boolean \x7d\n" ++
  "type __Field \x7b name: String! description: String " ++
  "args(includeDeprecated: Boolean = false): [__InputValue!]! type: __Type! " ++
  "isDeprecated: Boolean! deprecationReason: String \x7d\n" ++
  "type __InputValue \x7b name: String! description: String type: __Type! " ++
  "defaultValue: String isDeprecated: Boolean deprecationReason: String \x7d\n" ++
  "type __EnumValue \x7b name: String! description: String isDeprecated: Boolean! " ++
  "deprecationReason: String \x7d\n" ++
  "enum __TypeKind \x7b SCALAR OBJECT INTERFACE UNION ENUM INPUT_OBJECT LIST NON_NULL \x7d\n" ++
  "type __Directive \x7b name: String! description: String isRepeatable: Boolean! " ++
  "locations: [__DirectiveLocation!]! args(includeDeprecated: Boolean = false): [__InputValue!]! \x7d\n" ++
  "enum __DirectiveLocation \x7b QUERY MUTATION SUBSCRIPTION FIELD FRAGMENT_DEFINITION " ++
  "FRAGMENT_SPREAD INLINE_FRAGMENT VARIABLE_DEFINITION SCHEMA SCALAR OBJECT FIELD_DEFINITION " ++
  "ARGUMENT_DEFINITION INTERFACE UNION ENUM ENUM_VALUE INPUT_OBJECT INPUT_FIELD_DEFINITION \x7d\n"

def prelude : SchemaDocument :=
  (parseSchemaWith true preludeText).toOption.getD {}

/-- A schema: its types, directives, the types each abstract type may be, and its root
operation types. -/
structure Schema where
  types : List TypeDef
  directives : List DirectiveDef
  possible : List (String × List String)
  query : Option String := none
  mutation : Option String := none
  subscription : Option String := none
  deriving Inhabited

namespace Schema

def type? (s : Schema) (n : String) : Option TypeDef := s.types.find? (·.name == n)

def directive? (s : Schema) (n : String) : Option DirectiveDef := s.directives.find? (·.name == n)

def possibleOf (s : Schema) (n : String) : List String := (s.possible.lookup n).getD []

end Schema

def addPossible (possible : List (String × List String)) (n t : String) :
    List (String × List String) :=
  match possible.lookup n with
  | some ts => possible.map fun p => if p.1 == n then (n, ts ++ [t]) else p
  | none => possible ++ [(n, [t])]
def reserved (n : String) : Bool := n.startsWith "__"

/-- Whether a field's type is at least as precise as an interface's: as non-null, and of the
same named type or one of its possible types, or a list of such. -/
def covariant (s : Schema) : TypeRef → TypeRef → Bool
  | .named r rn, actual =>
    if rn && !actual.nonNull then false
    else
      match actual with
      | .named a _ => r == a || (s.possibleOf r).contains a
      | .list .. => (s.possibleOf r).contains ""
  | .list r rn, actual =>
    if rn && !actual.nonNull then false
    else
      match actual with
      | .list a _ => covariant s r a
      | .named .. => false

/-- Whether an argument type of an implementing field fits the interface's: the same named
type or list of such, and nullable where the interface's is. -/
def compatible : TypeRef → TypeRef → Bool
  | .named t tn, .named o on_ => t == o && (!on_ || tn)
  | .list t tn, .list o on_ => compatible t o && (!on_ || tn)
  | _, _ => false

def TypeDef.isInput (d : TypeDef) : Bool :=
  d.kind == .scalar || d.kind == .enum || d.kind == .inputObject

/-- Whether applied directives are sound where they stand: defined, allowed there, with only
defined arguments and every required one; none is the directive being defined. -/
def directivesSound (s : Schema) (dirs : List Directive) (location : String)
    (current : Option String) : Bool :=
  dirs.all fun d =>
    !reserved d.name && current != some d.name &&
      match s.directive? d.name with
      | none => false
      | some def_ =>
        def_.locations.contains location &&
        d.args.all (fun a => def_.args.any (·.name == a.1)) &&
        def_.args.all fun a =>
          if a.type.nonNull && a.default.isNone then
            match d.args.lookup a.name with
            | some .null => false
            | some _ => true
            | none => false
          else true

/-- Whether argument definitions are sound: named, of defined input types, with sound
directives. -/
def argsSound (s : Schema) (args : List InputValueDef) (current : Option String) : Bool :=
  args.all fun a =>
    !reserved a.name &&
      match s.type? a.type.name with
      | none => false
      | some t => t.isInput && directivesSound s a.directives "ARGUMENT_DEFINITION" current
def implementsSound (s : Schema) (d : TypeDef) (intfName : String) : Bool :=
  match s.type? intfName with
  | none => false
  | some intf =>
    intf.kind == .interface &&
    intf.fields.all (fun req =>
      match d.fields.find? (·.name == req.name) with
      | none => false
      | some found =>
        covariant s req.type found.type &&
        req.args.all (fun ra =>
          match found.args.find? (·.name == ra.name) with
          | none => false
          | some fa => compatible ra.type fa.type) &&
        found.args.all fun fa =>
          (req.args.any (·.name == fa.name)) || !fa.type.nonNull || fa.default.isSome) &&
    intf.interfaces.all fun t => d.interfaces.contains t

def definitionSound (s : Schema) (d : TypeDef) : Bool :=
  let fieldLocation := if d.kind == .inputObject then "INPUT_FIELD_DEFINITION" else "FIELD_DEFINITION"
  let fieldsOk := d.fields.all fun f =>
    !reserved f.name && (s.type? f.type.name).isSome && argsSound s f.args none &&
      directivesSound s f.directives fieldLocation none
  let membersOk := d.types.all fun t =>
    match s.type? t with
    | some m => m.kind == .object
    | none => false
  let interfacesOk := d.interfaces.all (implementsSound s d)
  let kindOk := match d.kind with
    | .object | .interface =>
      !d.fields.isEmpty && d.fields.all fun f =>
        match s.type? f.type.name with
        | some t => t.kind != .inputObject
        | none => true
    | .enum =>
      !d.enumValues.isEmpty && d.enumValues.all fun v =>
        !(["true", "false", "null"].contains v.name) && directivesSound s v.directives "ENUM_VALUE" none
    | .inputObject =>
      !d.fields.isEmpty && d.fields.all fun f =>
        match s.type? f.type.name with
        | some t => t.isInput
        | none => true
    | _ => true
  let names := d.fields.map (·.name)
  let distinct := names.eraseDups.length == names.length
  fieldsOk && membersOk && interfacesOk && kindOk && distinct && (d.builtIn || !reserved d.name) &&
    directivesSound s d.directives d.kind.text none

/-- Adds the parts of an extension to the type it extends, defining the type when there is
none; an extension of another kind fails. -/
def extendTypes (types : List TypeDef) (ext : TypeDef) : Except String (List TypeDef) :=
  match types.find? (·.name == ext.name) with
  | none =>
    let defined : TypeDef := { ext with description := "" }
    .ok (types ++ [defined])
  | some d =>
    if d.kind != ext.kind then .error "Cannot extend type"
    else .ok (types.map fun t => if t.name == ext.name then
      { t with directives := t.directives ++ ext.directives, interfaces := t.interfaces ++ ext.interfaces,
               fields := t.fields ++ ext.fields, types := t.types ++ ext.types,
               enumValues := t.enumValues ++ ext.enumValues } else t)

/-- The root operation types a schema definition names, set on a schema; a name that is not a
type fails. -/
def setRoots (s : Schema) (ops : List (String × String)) : Except String Schema :=
  ops.foldlM (fun (s : Schema) op =>
    if (s.type? op.2).isNone then .error "Schema root refers to a type that does not exist"
    else match op.1 with
      | "query" => .ok { s with query := some op.2 }
      | "mutation" => .ok { s with mutation := some op.2 }
      | _ => .ok { s with subscription := some op.2 }) s

def builtInDirectives : List String := ["include", "skip", "deprecated", "specifiedBy", "defer", "oneOf"]

/-- Checks a schema document together with the definitions every schema has, giving the
schema when it is sound. -/
def checkSchema (doc : SchemaDocument) : Except String Schema := do
  let all : SchemaDocument :=
    { schema := prelude.schema ++ doc.schema,
      schemaExtensions := prelude.schemaExtensions ++ doc.schemaExtensions,
      directives := prelude.directives ++ doc.directives,
      definitions := prelude.definitions ++ doc.definitions,
      extensions := prelude.extensions ++ doc.extensions }
  let names := all.definitions.map (·.name)
  if names.eraseDups.length != names.length then throw "Cannot redeclare type"
  let types ← all.extensions.foldlM extendTypes all.definitions
  let possible := types.foldl (fun acc d =>
    match d.kind with
    | .union => d.types.foldl (fun acc t => addPossible acc d.name t) acc
    | .object | .inputObject =>
      addPossible (d.interfaces.foldl (fun acc i => addPossible acc i d.name) acc) d.name d.name
    | .interface => d.interfaces.foldl (fun acc i => addPossible acc i d.name) acc
    | _ => acc) []
  let directives ← all.directives.foldlM (fun (acc : List DirectiveDef) d =>
    if acc.any (·.name == d.name) then
      if builtInDirectives.contains d.name then pure acc else throw "Cannot redeclare directive"
    else pure (acc ++ [d])) []
  let s : Schema := { types, directives, possible }
  if all.schema.length > 1 then throw "Cannot have multiple schema entry points"
  let s ← match all.schema with
    | [sd] => do
      let s ← setRoots s sd.operationTypes
      if directivesSound s sd.directives "SCHEMA" none then pure s else throw "bad directive"
    | _ => pure s
  let s ← all.schemaExtensions.foldlM (fun (s : Schema) sd => do
    let s ← setRoots s sd.operationTypes
    if directivesSound s sd.directives "SCHEMA" none then pure s else throw "bad directive") s
  if !(s.types.all (definitionSound s)) then throw "unsound type"
  if !(s.directives.all fun d => !reserved d.name && argsSound s d.args (some d.name)) then
    throw "unsound directive"
  let s := if all.schema.isEmpty then
      { s with query := s.query.orElse fun _ => (s.type? "Query").map (·.name),
               mutation := s.mutation.orElse fun _ => (s.type? "Mutation").map (·.name),
               subscription := s.subscription.orElse fun _ => (s.type? "Subscription").map (·.name) }
    else s
  pure s

end AccessPolicy.GraphQL
