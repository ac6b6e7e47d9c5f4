import AccessPolicy.Rego.Builtin
import AccessPolicy.Yaml.Emit
/-!
# The YAML built-ins
-/

namespace AccessPolicy.Rego

namespace YamlText

open Yaml (Tree)

def toSingle (x : Binary) : Binary :=
  match x with
  | .finite neg sig exp => Binary.round .single neg ((sig : Rat) * pow2 exp)
  | _ => x

def keyName? : Tree → Option String
  | .text s => some s
  | .int n => if n < Int.pow 2 63 then some (toString n) else none
  | .float x =>
    match toSingle x with
    | .nan => some ".nan"
    | .infinity neg => some (if neg then "-.inf" else ".inf")
    | y => some (Binary.text .single .general y)
  | .bool b => some (if b then "true" else "false")
  | .null | .list _ | .map _ => none

mutual

def treeDatum? : Tree → Option Datum
  | .null => some .null
  | .bool b => some (.bool b)
  | .int n => some (.number (toString n))
  | .float x => if x.isFinite then some (.number (Binary.text .double .json x)) else none
  | .text s => some (.string s)
  | .list items => .array <$> itemsDatum? items
  | .map entries => (fun ps => Datum.objectOf ps.reverse) <$> entriesDatum? entries

def itemsDatum? : List Tree → Option (List Datum)
  | [] => some []
  | t :: ts => do
    let d ← treeDatum? t
    let ds ← itemsDatum? ts
    pure (d :: ds)
def entriesDatum? : List (Tree × Tree) → Option (List (Datum × Datum))
  | [] => some []
  | (k, v) :: es => do
    let name ← keyName? k
    let d ← treeDatum? v
    let ps ← entriesDatum? es
    pure ((.string name, d) :: ps)

end

def unmarshal? (s : String) : Option Datum :=
  match Yaml.readTree s with
  | .ok t => treeDatum? t
  | .error _ => none

def marshal? (d : Datum) : Option String :=
  match Yaml.readTree (Json.compact true (Value.toJson d.toValue) ++ "\n") with
  | .ok t => some t.toYaml
  | .error _ => none

def apply (name : String) (args : List Datum) : Option Datum :=
  match name, args with
  | "yaml.unmarshal", [.string s] => unmarshal? s
  | "yaml.is_valid", [.string s] => some (.bool (unmarshal? s).isSome)
  | "yaml.is_valid", [_] => some (.bool false)
  | "yaml.marshal", [d] => (marshal? d).map .string
  | _, _ => none

end YamlText

end AccessPolicy.Rego
