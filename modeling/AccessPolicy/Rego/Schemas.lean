import AccessPolicy.Rego.Builtin
import AccessPolicy.JsonSchema.Validate
/-!
# The JSON schema built-ins

A schema, and a document to check, is given as a JSON text or as an object.
-/

namespace AccessPolicy.Rego

namespace Schemas

open JsonSchema

def documentOf (d : Datum) : Except String Json :=
  match d with
  | .string s =>
    match Json.read s with
    | .ok j => .ok j
    | .error _ => .error "invalid JSON string"
  | .object _ => .ok (Value.toJson d.toValue)
  | _ => .error "wrong type, expected string or object"

def failureDatum (f : Failure) : Datum :=
  Datum.objectOf [(.string "error", .string (f.field ++ ": " ++ f.description)),
    (.string "type", .string f.kind), (.string "field", .string f.field),
    (.string "desc", .string f.description)]

def apply (name : String) (args : List Datum) : Option Datum :=
  match name, args with
  | "json.verify_schema", [x] =>
    let verdict : Except String Unit := do
      let j ← documentOf x
      let _ ← compile j
      pure ()
    some (match verdict with
      | .ok () => .array [.bool true, .null]
      | .error e => .array [.bool false, .string ("jsonschema: " ++ e)])
  | "json.match_schema", [doc, schema] => do
    let d ← (documentOf doc).toOption
    let s ← (documentOf schema).toOption
    let c ← (compile s).toOption
    let o := c.check d
    pure (.array [.bool o.valid, .array (o.failures.map failureDatum)])
  | _, _ => none

end Schemas

end AccessPolicy.Rego
