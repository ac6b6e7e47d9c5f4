import AccessPolicy.Rego.Builtin
import AccessPolicy.GraphQL.Validate
/-!
# The GraphQL built-ins

Queries and schemas are given as GraphQL text, and their syntax trees come back as objects
whose keys are the names of the parts: `Operations`, `SelectionSet`, `Alias`, `Definitions`,
`Kind`, and so on. A part that is missing, or an empty list, is left out; an empty name is
kept, as are the flags `Used` of a variable and `BuiltIn` of a type, both false, and the empty
`Location` of an applied directive. A value has its `Raw` text, its `Children` and its `Kind`,
a number: 0 for a variable, then integer, float, string, block string, boolean, null, enum,
list and object.
-/

namespace AccessPolicy.Rego

namespace GraphQLTrees

open AccessPolicy.GraphQL

def kept : Datum → Bool
  | .null => false
  | .array [] => false
  | .object [] => false
  | _ => true

def part (fields : List (String × Datum)) : Datum :=
  Datum.objectOf ((fields.filter fun f => kept f.2).map fun f => (.string f.1, f.2))

def parts (items : List Datum) : Datum := .array (items.filter kept)

def names (ns : List String) : Datum := .array (ns.map .string)

def count (n : Nat) : Datum := .number (toString n)

mutual

def valueDatum : GraphQL.Value → Datum
  | .variable n => part [("Raw", .string n), ("Kind", count 0)]
  | .int raw => part [("Raw", .string raw), ("Kind", count 1)]
  | .float raw => part [("Raw", .string raw), ("Kind", count 2)]
  | .string s => part [("Raw", .string s), ("Kind", count 3)]
  | .block s => part [("Raw", .string s), ("Kind", count 4)]
  | .boolean b => part [("Raw", .string (if b then "true" else "false")), ("Kind", count 5)]
  | .null => part [("Raw", .string "null"), ("Kind", count 6)]
  | .enum n => part [("Raw", .string n), ("Kind", count 7)]
  | .list items => part [("Raw", .string ""), ("Children", parts (itemsDatum items)), ("Kind", count 8)]
  | .object fields =>
    part [("Raw", .string ""), ("Children", parts (fieldsDatum fields)), ("Kind", count 9)]

def itemsDatum : List GraphQL.Value → List Datum
  | [] => []
  | v :: vs => part [("Name", .string ""), ("Value", valueDatum v)] :: itemsDatum vs

def fieldsDatum : List (String × GraphQL.Value) → List Datum
  | [] => []
  | (n, v) :: fs => part [("Name", .string n), ("Value", valueDatum v)] :: fieldsDatum fs

end

def typeDatum : TypeRef → Datum
  | .named n b => part [("NamedType", .string n), ("NonNull", .bool b)]
  | .list e b => part [("NamedType", .string ""), ("Elem", typeDatum e), ("NonNull", .bool b)]

def argumentsDatum (args : List (String × GraphQL.Value)) : Datum :=
  parts (args.map fun a => part [("Name", .string a.1), ("Value", valueDatum a.2)])

def directivesDatum (ds : List Directive) : Datum :=
  parts (ds.map fun d => part [("Name", .string d.name), ("Arguments", argumentsDatum d.args),
    ("Location", .string "")])

def optionalValue : Option GraphQL.Value → Datum
  | some v => valueDatum v
  | none => .null

mutual

def selectionDatum : Selection → Datum
  | .field aliasName n args ds sel =>
    part [("Alias", .string aliasName), ("Name", .string n), ("Arguments", argumentsDatum args),
      ("Directives", directivesDatum ds), ("SelectionSet", parts (selectionsDatum sel))]
  | .spread n ds => part [("Name", .string n), ("Directives", directivesDatum ds)]
  | .inline cond ds sel =>
    part [("TypeCondition", .string cond), ("Directives", directivesDatum ds),
      ("SelectionSet", parts (selectionsDatum sel))]

def selectionsDatum : List Selection → List Datum
  | [] => []
  | s :: ss => selectionDatum s :: selectionsDatum ss

end

def variablesDatum (vs : List VariableDef) : Datum :=
  parts (vs.map fun v => part [("Variable", .string v.name), ("Type", typeDatum v.type),
    ("DefaultValue", optionalValue v.default), ("Directives", directivesDatum v.directives),
    ("Used", .bool false)])

def queryDatum (doc : QueryDocument) : Datum :=
  part [("Operations", parts (doc.operations.map fun o => part [("Operation", .string o.kind),
      ("Name", .string o.name), ("VariableDefinitions", variablesDatum o.variableDefs),
      ("Directives", directivesDatum o.directives),
      ("SelectionSet", parts (selectionsDatum o.selections))])),
    ("Fragments", parts (doc.fragments.map fun f => part [("Name", .string f.name),
      ("VariableDefinition", variablesDatum f.variableDefs), ("TypeCondition", .string f.typeCondition),
      ("Directives", directivesDatum f.directives),
      ("SelectionSet", parts (selectionsDatum f.selections))]))]

def inputValuesDatum (args : List InputValueDef) : Datum :=
  parts (args.map fun a => part [("Description", .string a.description), ("Name", .string a.name),
    ("DefaultValue", optionalValue a.default), ("Type", typeDatum a.type),
    ("Directives", directivesDatum a.directives)])

def definitionDatum (d : TypeDef) : Datum :=
  part [("Kind", .string d.kind.text), ("Description", .string d.description),
    ("Name", .string d.name), ("Directives", directivesDatum d.directives),
    ("Interfaces", names d.interfaces),
    ("Fields", parts (d.fields.map fun f => part [("Description", .string f.description),
      ("Name", .string f.name), ("Arguments", inputValuesDatum f.args),
      ("DefaultValue", optionalValue f.default), ("Type", typeDatum f.type),
      ("Directives", directivesDatum f.directives)])),
    ("Types", names d.types),
    ("EnumValues", parts (d.enumValues.map fun v => part [("Description", .string v.description),
      ("Name", .string v.name), ("Directives", directivesDatum v.directives)])),
    ("BuiltIn", .bool d.builtIn)]

def schemaDefDatum (s : SchemaDef) : Datum :=
  part [("Description", .string s.description), ("Directives", directivesDatum s.directives),
    ("OperationTypes", parts (s.operationTypes.map fun o =>
      part [("Operation", .string o.1), ("Type", .string o.2)]))]

def schemaDatum (doc : SchemaDocument) : Datum :=
  part [("Schema", parts (doc.schema.map schemaDefDatum)),
    ("SchemaExtension", parts (doc.schemaExtensions.map schemaDefDatum)),
    ("Directives", parts (doc.directives.map fun d => part [("Description", .string d.description),
      ("Name", .string d.name), ("Arguments", inputValuesDatum d.args),
      ("Locations", names d.locations), ("IsRepeatable", .bool d.repeatable)])),
    ("Definitions", parts (doc.definitions.map definitionDatum)),
    ("Extensions", parts (doc.extensions.map definitionDatum))]
def schemaSound (text : String) : Bool :=
  match parseSchema text with
  | .ok doc => (checkSchema doc).toOption.isSome
  | .error _ => false

def verified? (q s : String) : Option (QueryDocument × SchemaDocument) := do
  let qd ← (parseQuery q).toOption
  let sd ← (parseSchema s).toOption
  let schema ← (checkSchema sd).toOption
  if queryValid schema qd (q.length + 16) then some (qd, sd) else none

def apply (name : String) (args : List Datum) : Option Datum :=
  match name, args with
  | "graphql.is_valid", [.string q, .string s] => some (.bool (verified? q s).isSome)
  | "graphql.is_valid", [_, _] => some (.bool false)
  | "graphql.parse", [.string q, .string s] =>
    (verified? q s).map fun (qd, sd) => .array [queryDatum qd, schemaDatum sd]
  | "graphql.parse_and_verify", [.string q, .string s] =>
    match verified? q s with
    | some (qd, sd) => some (.array [.bool true, queryDatum qd, schemaDatum sd])
    | none => some (.array [.bool false, .object [], .object []])
  | "graphql.parse_query", [.string q] => (parseQuery q).toOption.map queryDatum
  | "graphql.parse_schema", [.string s] => (parseSchema s).toOption.map schemaDatum
  | "graphql.schema_is_valid", [.string s] => some (.bool (schemaSound s))
  | "graphql.schema_is_valid", [_] => some (.bool false)
  | _, _ => none

end GraphQLTrees

end AccessPolicy.Rego
