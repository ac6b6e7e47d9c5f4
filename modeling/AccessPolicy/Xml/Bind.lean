import AccessPolicy.Xml.Decode
import AccessPolicy.Json.Bind
/-!
# Binding XML documents to request shapes

A request may come as an XML document instead of a JSON one. The document's first element is
the request, whatever its name; what follows that element is never read. Inside an element bound
to a record, each child element binds the field whose name, with its first letter in upper
case, is the element's name (`<Principal>` binds `principal`); other children are passed over,
and attributes play no part.
-/

namespace AccessPolicy.Xml

open Json (Shape)

def elementName (field : String) : String :=
  match field.toList with
  | c :: cs => String.ofList (c.toUpper :: cs)
  | [] => ""

def skipElement : Nat → Nat → Reader → Except XmlError Reader
  | 0, _, r => .ok r
  | fuel + 1, depth, r => do
    let (t, r) ← nextToken r
    match t with
    | .start _ => skipElement fuel (depth + 1) r
    | .finish _ => if depth == 0 then pure r else skipElement fuel (depth - 1) r
    | _ => skipElement fuel depth r

def gatherText : Nat → List UInt8 → Reader → Except XmlError (List UInt8 × Reader)
  | 0, acc, r => .ok (acc, r)
  | fuel + 1, acc, r => do
    let (t, r) ← nextToken r
    match t with
    | .text bs => gatherText fuel (acc ++ bs) r
    | .start _ => do
      let r ← skipElement fuel 0 r
      gatherText fuel acc r
    | .finish _ => pure (acc, r)
    | .markup => gatherText fuel acc r
def trimmedText (data : List UInt8) : String :=
  CharClass.trimBlank (String.ofList (Utf8.decode data))

def scalarValue (shape : Shape) (data : List UInt8) : Except XmlError Value :=
  match shape with
  | .bytes => .ok (.bytes data)
  | .truth =>
    if data.isEmpty then .ok (.bool false)
    else
      let s := trimmedText data
      if ["1", "t", "T", "TRUE", "true", "True"].contains s then .ok (.bool true)
      else if ["0", "f", "F", "FALSE", "false", "False"].contains s then .ok (.bool false)
      else .error (.other ("strconv.ParseBool: parsing \"" ++ s ++ "\": invalid syntax"))
  | .octet =>
    if data.isEmpty then .ok (.int .uint8 0)
    else
      let s := trimmedText data
      match readDigits? s.toList with
      | some n =>
        if n < 256 then .ok (.int .uint8 n)
        else .error (.other ("strconv.ParseUint: parsing \"" ++ s ++ "\": value out of range"))
      | none => .error (.other ("strconv.ParseUint: parsing \"" ++ s ++ "\": invalid syntax"))
  | _ => .ok (.text (String.ofList (Utf8.decode data)))

def setField (fields : List (String × Value)) (name : String) (v : Value) : List (String × Value) :=
  fields.map fun (n, old) => if n == name then (n, v) else (n, old)

mutual

def bindElement : Nat → Shape → Value → Reader → Except XmlError (Value × Reader)
  | 0, _, v, r => .ok (v, r)
  | fuel + 1, shape, current, r =>
    match shape with
    | .record _ fields => bindFields fuel fields (Json.heldFields shape current) r
    | .list _ item => do
      let (v, r) ← bindElement fuel item item.zero r
      pure (.list (Json.heldItems current ++ [v]), r)
    | .anyMap => .error (.other "unknown type map[string]interface \x7b\x7d")
    | .any => do
      let r ← skipElement fuel 0 r
      pure (current, r)
    | _ => do
      let (data, r) ← gatherText fuel [] r
      let v ← scalarValue shape data
      pure (v, r)

def bindFields : Nat → List (String × Shape) → List (String × Value) → Reader →
    Except XmlError (Value × Reader)
  | 0, _, acc, r => .ok (.map acc, r)
  | fuel + 1, fields, acc, r => do
    let (t, r) ← nextToken r
    match t with
    | .start name =>
      match fields.find? fun (n, _) => elementName n == name.part with
      | some (n, s) =>
        let (v, r) ← bindElement fuel s ((Row.get? acc n).getD .null) r
        bindFields fuel fields (setField acc n v) r
      | none => do
        let r ← skipElement fuel 0 r
        bindFields fuel fields acc r
    | .finish _ => pure (.map acc, r)
    | _ => bindFields fuel fields acc r

end

def findStart : Nat → Reader → Except XmlError Reader
  | 0, r => .ok r
  | fuel + 1, r => do
    let (t, r) ← nextToken r
    match t with
    | .start _ => pure r
    | _ => findStart fuel r
def bind (shape : Shape) (text : String) : Except XmlError Value := do
  let r := Reader.ofText text
  let fuel := 2 * r.rest.length + 4
  let r ← findStart fuel r
  let (v, _) ← bindElement fuel shape shape.zero r
  pure v

end AccessPolicy.Xml
