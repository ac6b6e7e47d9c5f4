import AccessPolicy.Json.Read
import AccessPolicy.Value.Basic
import AccessPolicy.Text.Base64
import AccessPolicy.Text.CharClass
/-!
# Binding JSON documents to declared shapes

A service reads a request body into a value of a declared shape: texts, bytes written in
base64, truth values, lists, records of named fields, maps, and values of any kind. The rules
are those of a statically typed program's JSON decoder:

* the first document is read whole before anything is bound, so a syntax error wins over any
  mismatch; an input that ends inside the document is truncated, and one with no document at
  all is empty; what follows the first document is ignored;
* a record takes the members whose names match a field, exactly or else ignoring case (`ſ`
  matching `s`, the Kelvin sign `k`, while `_` and `-` count), and passes over the others. A member binds into the field's current value, so of a record given
  twice the fields only the first one set stay;
* `null` leaves a text, truth value, byte or record as it is, and empties a list, bytes, map or
  value of any kind;
* a list binds item by item into the items it had, and ends up with as many items as the
  document gives;
* in a value of any kind, objects become maps, arrays lists and numbers 64-bit floats;
* a value of another kind than its shape is a mismatch. Only the first mismatch in the
  document is reported, with the kind found, the type wanted, an offset, the outermost record
  and the path that leads to it: the member names as the document writes them (with `~` and
  `/` escaped as in a pointer) and the item positions. The offset is the end of
  a scalar, or the position just inside the bracket of an array or object.
-/

namespace AccessPolicy.Json

inductive Shape where
  | text (typeName : String)
  | bytes
  | octet
  | truth
  | list (typeName : String) (item : Shape)
  | record (typeName : String) (fields : List (String × Shape))
  | anyMap
  | any
  deriving Repr, Inhabited

namespace Shape
def typeName : Shape → String
  | .text n => n
  | .bytes => "[]uint8"
  | .octet => "uint8"
  | .truth => "bool"
  | .list n _ => n
  | .record n _ => n
  | .anyMap => "map[string]interface \x7b\x7d"
  | .any => "interface \x7b\x7d"

mutual
def zero : Shape → Value
  | .text _ => .text ""
  | .bytes => .null
  | .octet => .int .uint8 0
  | .truth => .bool false
  | .list _ _ => .null
  | .record _ fields => .map (zeroFields fields)
  | .anyMap => .null
  | .any => .null

def zeroFields : List (String × Shape) → List (String × Value)
  | [] => []
  | (n, s) :: rest => (n, zero s) :: zeroFields rest

end

end Shape

structure Mismatch where
  /-- The kind found: `string`, `number`, `bool`, `array`, `object`, or `number` with the
  numeral when the number does not fit. -/
  found : String
  wanted : String
  offset : Nat
  record : String
  field : String
  cause : String := ""
  deriving Repr, Inhabited

/-- Whether the last step of a path is a number: an item position, or a member name of
digits. -/
def endsInNumber (field : String) : Bool :=
  match (field.splitOn ".").getLast? with
  | some step => !step.isEmpty && step.all Char.isDigit
  | none => false

def Mismatch.message (m : Mismatch) : String :=
  "json: cannot unmarshal " ++ m.found ++
    (if m.record.isEmpty && m.field.isEmpty then " into Go value of type " ++ m.wanted
    else if endsInNumber m.field then " into " ++ m.record ++ "." ++ m.field ++ " of type " ++ m.wanted
    else " into Go struct field " ++ m.record ++ "." ++ m.field ++ " of type " ++ m.wanted) ++
    (if m.cause.isEmpty then "" else ": " ++ m.cause)

inductive BindError where
  | malformed (offset : Nat) (reason : String)
  | truncated
  | empty
  | mismatch (m : Mismatch)
  deriving Repr, Inhabited

def BindError.message : BindError → String
  | .malformed _ reason => reason
  | .truncated => "unexpected EOF"
  | .empty => "EOF"
  | .mismatch m => m.message

structure Within where
  record : String := ""
  path : List String := []
  deriving Repr, Inhabited

def pointerStep (step : String) : String :=
  String.join (step.toList.map fun c =>
    if c = '~' then "~0" else if c = '/' then "~1" else String.singleton c)

/-- The place one step further down: a member name as the document writes it, or an item
position. -/
def Within.push (w : Within) (step : String) : Within :=
  { w with path := w.path ++ [pointerStep step] }

/-- The place inside a record of a type `package.Name`: its bare name becomes the outermost
record when none was entered yet. -/
def Within.enter (w : Within) (typeName : String) : Within :=
  if w.record.isEmpty then { w with record := ((typeName.splitOn ".").getLast?).getD typeName }
  else w

def Within.mismatch (w : Within) (found : String) (shape : Shape) (offset : Nat)
    (cause : String := "") : Mismatch :=
  ⟨found, shape.typeName, offset, w.record, ".".intercalate w.path, cause⟩

/-- The field a member name binds to: the field of that exact name, or else one whose name
matches it ignoring case. -/
def findField (fields : List (String × Shape)) (key : String) : Option (String × Shape) :=
  match fields.find? (·.1 == key) with
  | some f => some f
  | none => fields.find? fun f => CharClass.equalFold f.1 key

def octetOf? (numeral : String) : Option Nat :=
  if !numeral.isEmpty && numeral.all Char.isDigit then
    let n := numeral.foldl (fun n c => n * 10 + (c.toNat - '0'.toNat)) 0
    if n < 256 then some n else none
  else none

def floatOf? (numeral : String) : Option Value :=
  match Numeral.read? numeral with
  | some num =>
    match Binary.ofNumeral .double num with
    | .infinity _ => none
    | x => some (.float64 x)
  | none => none
def heldItems : Value → List Value
  | .list xs => xs
  | .bytes bs => bs.map fun b => .int .uint8 b.toNat
  | _ => []

def heldFields : Shape → Value → List (String × Value)
  | _, .map fs => fs
  | .record _ fields, _ => Shape.zeroFields fields
  | _, _ => []

def octets (vs : List Value) : List UInt8 :=
  vs.map fun v => match v with
    | .int _ n => n.toNat.toUInt8
    | _ => 0

def bindScalar (w : Within) (shape : Shape) (current : Value) (v : Json) (stop : Nat) :
    Except Mismatch Value :=
  match v, shape with
  | .null, .text _ | .null, .truth | .null, .octet | .null, .record .. => .ok current
  | .null, _ => .ok .null
  | .string s, .text _ | .string s, .any => .ok (.text s)
  | .string s, .bytes =>
    match Base64.decode s with
    | .ok bs => .ok (.bytes bs)
    | .error p => .error (w.mismatch "string" .bytes stop
        ("illegal base64 data at input byte " ++ toString p))
  | .string _, s => .error (w.mismatch "string" s stop)
  | .bool b, .truth | .bool b, .any => .ok (.bool b)
  | .bool _, s => .error (w.mismatch "bool" s stop)
  | .number n, .any =>
    match floatOf? n with
    | some x => .ok x
    | none => .error { w.mismatch ("number " ++ n) .any stop with wanted := "float64" }
  | .number n, .octet =>
    match octetOf? n with
    | some b => .ok (.int .uint8 b)
    | none => .error (w.mismatch ("number " ++ n) .octet stop)
  | .number _, s => .error (w.mismatch "number" s stop)
  | _, s => .error (w.mismatch "object" s stop)

mutual

def anyValue (w : Within) : Placed → Except Mismatch Value
  | .scalar v stop => bindScalar w .any .null v stop
  | .array _ items => (anyItems w 0 items).map .list
  | .object _ members => (anyMembers w [] members).map .map

def anyItems (w : Within) (i : Nat) : List Placed → Except Mismatch (List Value)
  | [] => .ok []
  | p :: ps => do
    let v ← anyValue (w.push (toString i)) p
    pure (v :: (← anyItems w (i + 1) ps))

def anyMembers (w : Within) (acc : List (String × Value)) :
    List (String × Placed) → Except Mismatch (List (String × Value))
  | [] => .ok acc
  | (k, p) :: ps => do
    let v ← anyValue (w.push k) p
    anyMembers w (Row.set acc k v) ps

end

mutual

def bindValue (w : Within) (shape : Shape) (current : Value) : Placed → Except Mismatch Value
  | .scalar v stop => bindScalar w shape current v stop
  | .array inner items =>
    match shape with
    | .list _ item => (bindItems w item (heldItems current) 0 items).map .list
    | .bytes => (bindItems w .octet (heldItems current) 0 items).map fun vs => .bytes (octets vs)
    | .any => (anyItems w 0 items).map .list
    | s => .error (w.mismatch "array" s inner)
  | .object inner members =>
    match shape with
    | .record n fields => (bindMembers (w.enter n) fields (heldFields shape current) members).map .map
    | .anyMap => (anyMembers w (heldFields shape current) members).map .map
    | .any => (anyMembers w [] members).map .map
    | s => .error (w.mismatch "object" s inner)

def bindItems (w : Within) (item : Shape) (held : List Value) (i : Nat) :
    List Placed → Except Mismatch (List Value)
  | [] => .ok []
  | p :: ps => do
    let v ← bindValue (w.push (toString i)) item (held.getD i item.zero) p
    pure (v :: (← bindItems w item held (i + 1) ps))
def bindMembers (w : Within) (fields : List (String × Shape)) (acc : List (String × Value)) :
    List (String × Placed) → Except Mismatch (List (String × Value))
  | [] => .ok acc
  | (k, p) :: ps =>
    match findField fields k with
    | none => bindMembers w fields acc ps
    | some (name, s) => do
      let v ← bindValue (w.push k) s ((Row.get? acc name).getD s.zero) p
      bindMembers w fields (Row.set acc name v) ps

end

def isBlankText (s : String) : Bool :=
  s.all fun c => c = ' ' ∨ c = '\t' ∨ c = '\n' ∨ c = '\r'
def bind (shape : Shape) (text : String) : Except BindError Value :=
  match readPlaced text with
  | .error .endOfInput => .error (if isBlankText text then .empty else .truncated)
  | .error (.badChar offset reason) => .error (.malformed offset reason)
  | .ok p => (bindValue {} shape shape.zero p).mapError .mismatch

end AccessPolicy.Json

namespace AccessPolicy.Value

def field (v : Value) (name : String) : Value :=
  match v with
  | .map fs => (Row.get? fs name).getD .null
  | _ => .null

def textOr (v : Value) : String :=
  match v with
  | .text s => s
  | _ => ""
def textsOr (v : Value) : List String :=
  match v with
  | .list xs => xs.map textOr
  | _ => []

def itemsOr (v : Value) : List Value :=
  match v with
  | .list xs => xs
  | _ => []

def fieldsOr (v : Value) : List (String × Value) :=
  match v with
  | .map fs => fs
  | _ => []
def bytesOr (v : Value) : List UInt8 :=
  match v with
  | .bytes bs => bs
  | _ => []

end AccessPolicy.Value
