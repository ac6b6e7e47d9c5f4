/-!
# GraphQL documents

The syntax of the two kinds of GraphQL document.
-/

namespace AccessPolicy.GraphQL

inductive Value where
  | variable (name : String)
  | int (raw : String)
  | float (raw : String)
  | string (s : String)
  | block (s : String)
  | boolean (b : Bool)
  | null
  | enum (name : String)
  | list (items : List Value)
  | object (fields : List (String × Value))
  deriving Repr, Inhabited

inductive TypeRef where
  | named (name : String) (nonNull : Bool)
  | list (elem : TypeRef) (nonNull : Bool)
  deriving Repr, Inhabited, DecidableEq
def TypeRef.name : TypeRef → String
  | .named n _ => n
  | .list e _ => e.name

def TypeRef.nonNull : TypeRef → Bool
  | .named _ b => b
  | .list _ b => b

def TypeRef.text : TypeRef → String
  | .named n b => n ++ (if b then "!" else "")
  | .list e b => "[" ++ e.text ++ "]" ++ (if b then "!" else "")

structure Directive where
  name : String
  args : List (String × Value)
  deriving Repr, Inhabited

inductive Selection where
  /-- A field: its alias (its name when none is written), its name, arguments, directives
  and selections. -/
  | field (aliasName name : String) (args : List (String × Value)) (directives : List Directive)
      (selections : List Selection)
  | spread (name : String) (directives : List Directive)
  | inline (typeCondition : String) (directives : List Directive) (selections : List Selection)
  deriving Repr, Inhabited

structure VariableDef where
  name : String
  type : TypeRef
  default : Option Value
  directives : List Directive
  deriving Repr, Inhabited

structure Operation where
  kind : String
  name : String
  variableDefs : List VariableDef
  directives : List Directive
  selections : List Selection
  deriving Repr, Inhabited

structure Fragment where
  name : String
  variableDefs : List VariableDef
  typeCondition : String
  directives : List Directive
  selections : List Selection
  deriving Repr, Inhabited

structure QueryDocument where
  operations : List Operation
  fragments : List Fragment
  deriving Repr, Inhabited

structure InputValueDef where
  description : String
  name : String
  type : TypeRef
  default : Option Value
  directives : List Directive
  deriving Repr, Inhabited

structure FieldDef where
  description : String
  name : String
  args : List InputValueDef
  default : Option Value
  type : TypeRef
  directives : List Directive
  deriving Repr, Inhabited

inductive Kind where
  | scalar
  | object
  | interface
  | union
  | enum
  | inputObject
  deriving Repr, Inhabited, DecidableEq
def Kind.text : Kind → String
  | .scalar => "SCALAR"
  | .object => "OBJECT"
  | .interface => "INTERFACE"
  | .union => "UNION"
  | .enum => "ENUM"
  | .inputObject => "INPUT_OBJECT"

structure EnumValueDef where
  description : String
  name : String
  directives : List Directive
  deriving Repr, Inhabited

structure TypeDef where
  kind : Kind
  description : String := ""
  name : String
  directives : List Directive := []
  interfaces : List String := []
  fields : List FieldDef := []
  types : List String := []
  enumValues : List EnumValueDef := []
  builtIn : Bool := false
  deriving Repr, Inhabited

structure DirectiveDef where
  description : String
  name : String
  args : List InputValueDef
  locations : List String
  repeatable : Bool
  deriving Repr, Inhabited

structure SchemaDef where
  description : String
  directives : List Directive
  operationTypes : List (String × String)
  deriving Repr, Inhabited

structure SchemaDocument where
  schema : List SchemaDef := []
  schemaExtensions : List SchemaDef := []
  directives : List DirectiveDef := []
  definitions : List TypeDef := []
  extensions : List TypeDef := []
  deriving Repr, Inhabited

end AccessPolicy.GraphQL
