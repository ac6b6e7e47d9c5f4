import AccessPolicy.Value.Basic
import AccessPolicy.Text.Base64
/-!
# Values as JSON

The JSON document a value is written as: nothing as `null`, bytes as base64 text, integers in
decimal, floats in their shortest positional form (exponent form below `1e-6` and from `1e21`),
numerals as written, timestamps in their long form with nanoseconds, lists as arrays and maps
as objects whose members are in ascending order of name. A float that is not finite has no
JSON form and is written as `null`.
-/

namespace AccessPolicy.Value
def sortedMembers (ms : List (String × Json)) : List (String × Json) :=
  ms.mergeSort fun a b => decide (a.1 ≤ b.1)

mutual

def toJson : Value → Json
  | .null => .null
  | .bool b => .bool b
  | .text s => .string s
  | .bytes bs => .string (Base64.encode bs)
  | .int _ n => .number (toString n)
  | .float64 x => if x.isFinite then .number (x.text .double .json) else .null
  | .float32 x => if x.isFinite then .number (x.text .single .json) else .null
  | .numeral s => .number (if s.isEmpty then "0" else s)
  | .time t => .string t.rfc3339Nano
  | .list items => .array (itemsToJson items)
  | .map fields => .object (sortedMembers (fieldsToJson fields))

def itemsToJson : List Value → List Json
  | [] => []
  | v :: vs => toJson v :: itemsToJson vs
def fieldsToJson : List (String × Value) → List (String × Json)
  | [] => []
  | (k, v) :: fs => (k, toJson v) :: fieldsToJson fs

end

def rowToJson (row : Row) : Json :=
  toJson (.map row)

end AccessPolicy.Value
