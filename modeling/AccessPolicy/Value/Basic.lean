import AccessPolicy.Number.Binary
import AccessPolicy.Value.Timestamp
import AccessPolicy.Json.Basic
/-!
# Row values

A row maps column names to dynamic values: text, bytes, booleans, integers of several widths,
binary floating-point numbers of two widths, numerals kept as written, timestamps, lists and
maps, or nothing. Masks and row filters look at the kind of a value as well as at its content,
and `Value.typeName` is the name under which an error shows a kind.
-/

namespace AccessPolicy

inductive IntWidth where
  | int
  | int64
  | int32
  | uint64
  | uint8
  | big
  deriving Repr, DecidableEq, Inhabited

def IntWidth.name : IntWidth → String
  | .int => "int"
  | .int64 => "int64"
  | .int32 => "int32"
  | .uint64 => "uint64"
  | .uint8 => "uint8"
  | .big => "*big.Int"

inductive Value where
  | null
  | bool (b : Bool)
  | text (s : String)
  | bytes (bs : List UInt8)
  | int (w : IntWidth) (n : Int)
  | float64 (x : Binary)
  | float32 (x : Binary)
  | numeral (s : String)
  | time (t : Timestamp)
  | list (items : List Value)
  | map (fields : List (String × Value))
  deriving Repr, Inhabited
abbrev Row := List (String × Value)
def Row.get? (row : Row) (column : String) : Option Value :=
  (row.find? (·.1 == column)).map (·.2)
def Row.set (row : Row) (column : String) (v : Value) : Row :=
  if row.any (·.1 == column) then row.map (fun (k, w) => if k == column then (k, v) else (k, w))
  else row ++ [(column, v)]

def Row.ofPairs (pairs : List (String × Value)) : Row :=
  pairs.foldl (fun row (k, v) => row.set k v) []

namespace Value
def typeName : Value → String
  | .null => "<nil>"
  | .bool _ => "bool"
  | .text _ => "string"
  | .bytes _ => "[]uint8"
  | .int w _ => w.name
  | .float64 _ => "float64"
  | .float32 _ => "float32"
  | .numeral _ => "json.Number"
  | .time _ => "time.Time"
  | .list _ => "[]interface \x7b\x7d"
  | .map _ => "map[string]interface \x7b\x7d"

/-- How plain JSON numbers become values: as 64-bit floating-point numbers, or as numerals kept
as written. -/
inductive NumberMode where
  | float
  | numeral
  deriving Repr, DecidableEq, Inhabited

mutual

/-- The value a JSON document stands for: objects become maps (a later member replacing an
earlier one of the same name), arrays lists, and numbers as `mode` says. A number too large for
a 64-bit float is refused, with its numeral. -/
def ofJson (mode : NumberMode) : Json → Except String Value
  | .null => .ok .null
  | .bool b => .ok (.bool b)
  | .string s => .ok (.text s)
  | .number n =>
    match mode with
    | .numeral => .ok (.numeral n)
    | .float =>
      match Numeral.read? n with
      | some num =>
        match Binary.ofNumeral .double num with
        | .infinity _ => .error n
        | x => .ok (.float64 x)
      | none => .error n
  | .array xs => (ofJsonItems mode xs).map .list
  | .object ms => (ofJsonMembers mode ms).map (fun ps => .map (Row.ofPairs ps))

def ofJsonItems (mode : NumberMode) : List Json → Except String (List Value)
  | [] => .ok []
  | x :: xs =>
    match ofJson mode x, ofJsonItems mode xs with
    | .ok v, .ok vs => .ok (v :: vs)
    | .error e, _ => .error e
    | _, .error e => .error e

def ofJsonMembers (mode : NumberMode) : List (String × Json) → Except String (List (String × Value))
  | [] => .ok []
  | (k, x) :: ms =>
    match ofJson mode x, ofJsonMembers mode ms with
    | .ok v, .ok vs => .ok ((k, v) :: vs)
    | .error e, _ => .error e
    | _, .error e => .error e

end

end Value

end AccessPolicy
