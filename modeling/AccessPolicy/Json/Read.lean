import AccessPolicy.Json.Basic
import AccessPolicy.Text.Quote
import AccessPolicy.Text.CharClass
/-!
# Reading JSON

A document is read by recursive descent over its characters. Numbers keep their numerals;
strings decode the escapes `\" \\ \/ \b \f \n \r \t \uXXXX`, a pair of `\u` surrogates giving one
character and a lone surrogate giving U+FFFD.

A refused text gives a `ReadError`: either the input ended inside a value, or a character was
not allowed where it stood, with the number of bytes read up to and including it and the reason,
worded as "invalid character 'x' looking for beginning of value". Inside a string a control
character is "invalid character '\x01' in string", and a malformed escape names the sequence,
as "invalid escape sequence `\U` in string", with the offset at its end.

A document is first read as a `Placed` value, which keeps the offsets a decoder reports its
errors at: the end of each scalar, and the position just inside the opening bracket of each
array and object.

The descent carries fuel: each level of nesting consumes at least one character, so the length
of the input is always enough.
-/

namespace AccessPolicy.Json

inductive ReadError where
  | endOfInput
  | badChar (offset : Nat) (reason : String)
  deriving Repr, BEq

/-- A character as error messages show it: between single quotes, escaped as in a quoted
literal. -/
def showChar (c : Char) : String :=
  if c = '\'' then "'\\''"
  else if c = '"' then "'\"'"
  else
    let q := AccessPolicy.Quote.string (String.singleton c)
    "'" ++ String.ofList ((q.toList.drop 1).dropLast) ++ "'"

inductive Placed where
  | scalar (value : Json) (stop : Nat)
  | array (inner : Nat) (items : List Placed)
  | object (inner : Nat) (members : List (String × Placed))
  deriving Repr, Inhabited

mutual

def Placed.toJson : Placed → Json
  | .scalar v _ => v
  | .array _ items => .array (Placed.itemsToJson items)
  | .object _ members => .object (Placed.membersToJson members)

def Placed.itemsToJson : List Placed → List Json
  | [] => []
  | x :: xs => x.toJson :: Placed.itemsToJson xs

def Placed.membersToJson : List (String × Placed) → List (String × Json)
  | [] => []
  | (k, x) :: xs => (k, x.toJson) :: Placed.membersToJson xs

end

structure Cursor where
  rest : List Char
  offset : Nat

def Cursor.advance (cur : Cursor) : Cursor :=
  match cur.rest with
  | c :: cs => ⟨cs, cur.offset + (String.singleton c).utf8ByteSize⟩
  | [] => cur

def Cursor.skipBlank (cur : Cursor) : Cursor :=
  let n := (cur.rest.takeWhile (fun c => c = ' ' ∨ c = '\t' ∨ c = '\n' ∨ c = '\r'))
  ⟨cur.rest.drop n.length, cur.offset + (String.ofList n).utf8ByteSize⟩

def Cursor.refuse {α : Type} (cur : Cursor) (reason : String) : Except ReadError α :=
  match cur.rest with
  | c :: _ => .error (.badChar (cur.offset + (String.singleton c).utf8ByteSize)
      ("invalid character " ++ showChar c ++ " " ++ reason))
  | [] => .error .endOfInput

def readWord (word : String) (cur : Cursor) : Except ReadError Cursor :=
  go (word.toList.drop 1) cur
where
  go : List Char → Cursor → Except ReadError Cursor
    | [], cur => .ok cur
    | w :: ws, cur =>
      match cur.rest with
      | c :: _ => if c = w then go ws cur.advance
        else cur.refuse ("in literal " ++ word ++ " (expecting " ++ showChar w ++ ")")
      | [] => .error .endOfInput

def hexDigit? (c : Char) : Option Nat :=
  if '0' ≤ c ∧ c ≤ '9' then some (c.toNat - '0'.toNat)
  else if 'a' ≤ c ∧ c ≤ 'f' then some (c.toNat - 'a'.toNat + 10)
  else if 'A' ≤ c ∧ c ≤ 'F' then some (c.toNat - 'A'.toNat + 10)
  else none
def hex4? (cs : List Char) : Option Nat :=
  if cs.length = 4 then cs.foldlM (fun acc c => (hexDigit? c).map (acc * 16 + ·)) 0 else none

def takeBytes : Nat → List Char → List Char
  | _, [] => []
  | n, c :: cs =>
    let w := (String.singleton c).utf8ByteSize
    if w ≤ n then c :: takeBytes (n - w) cs else []

/-- The refusal of an escape sequence of a string, written from its backslash: quoted when it
holds a backquote, a blank or a character that does not print, between backquotes otherwise.
The offset is the end of the sequence. -/
def refuseEscape {α : Type} (cur : Cursor) (what : List Char) : Except ReadError α :=
  let text := String.ofList what
  let plain := what.all fun c =>
    c ≠ '`' ∧ c ≠ '�' ∧ !CharClass.blank c ∧ CharClass.printable c
  let shown := if plain then "`" ++ text ++ "`" else AccessPolicy.Quote.string text
  .error (.badChar (cur.offset + text.utf8ByteSize) ("invalid escape sequence " ++ shown ++ " in string"))

def escapePrefix (cs : List Char) : Bool :=
  match cs with
  | [] => true
  | ['\\'] => true
  | '\\' :: 'u' :: hs => hs.all fun c => (hexDigit? c).isSome
  | _ => false

/-- Reads the four hexadecimal digits of a `\u` escape whose backslash is at the cursor: their
value and the cursor after them. A text that ends inside a sequence that could still be an
escape ends the input; any other sequence is refused with its six bytes, or with the rest of
the text when fewer are left. -/
def readUnicodeEscape (cur : Cursor) : Except ReadError (Nat × Cursor) :=
  let avail := takeBytes 6 cur.rest
  if (String.ofList avail).utf8ByteSize < 6 ∧ (cur.rest.drop avail.length).isEmpty then
    if escapePrefix cur.rest then .error .endOfInput else refuseEscape cur cur.rest
  else
    match hex4? ((cur.rest.drop 2).take 4) with
    | some v => .ok (v, cur.advance.advance.advance.advance.advance.advance)
    | none => refuseEscape cur avail

def surrogateChar (hi : Nat) (lo : Option Nat) : Char × Bool :=
  if 0xD800 ≤ hi ∧ hi < 0xDC00 then
    match lo with
    | some l => if 0xDC00 ≤ l ∧ l < 0xE000 then
        (Char.ofNat (0x10000 + (hi - 0xD800) * 0x400 + (l - 0xDC00)), true)
      else ('�', false)
    | none => ('�', false)
  else if 0xDC00 ≤ hi ∧ hi < 0xE000 then ('�', false)
  else (Char.ofNat hi, false)

def readStringBody (fuel : Nat) (acc : List Char) (cur : Cursor) : Except ReadError (String × Cursor) :=
  match fuel with
  | 0 => .error .endOfInput
  | fuel + 1 =>
    match cur.rest with
    | [] => .error .endOfInput
    | '"' :: _ => .ok (String.ofList acc.reverse, cur.advance)
    | '\\' :: _ =>
      let start := cur
      let cur := cur.advance
      match cur.rest with
      | [] => .error .endOfInput
      | e :: _ =>
        let simple : Option Char :=
          if e = '"' then some '"' else if e = '\\' then some '\\' else if e = '/' then some '/'
          else if e = 'b' then some '\x08' else if e = 'f' then some '\x0c'
          else if e = 'n' then some '\n' else if e = 'r' then some '\r'
          else if e = 't' then some '\t' else none
        match simple with
        | some c => readStringBody fuel (c :: acc) cur.advance
        | none =>
          if e = 'u' then
            match readUnicodeEscape start with
            | .error err => .error err
            | .ok (hi, cur') =>
              let second : Option (Nat × Cursor) :=
                match cur'.rest with
                | '\\' :: 'u' :: _ => match readUnicodeEscape cur' with
                  | .ok r => some r
                  | .error _ => none
                | _ => none
              match surrogateChar hi (second.map (·.1)) with
              | (c, true) => readStringBody fuel (c :: acc) ((second.map (·.2)).getD cur')
              | (c, false) => readStringBody fuel (c :: acc) cur'
          else refuseEscape start ['\\', e]
    | c :: _ =>
      if c.toNat < 0x20 then cur.refuse "in string"
      else readStringBody fuel (c :: acc) cur.advance

def takeDigits (cur : Cursor) : List Char × Cursor :=
  let ds := cur.rest.takeWhile (fun c => '0' ≤ c ∧ c ≤ '9')
  (ds, ⟨cur.rest.drop ds.length, cur.offset + ds.length⟩)

def readIntegerPart (cur : Cursor) : Except ReadError Cursor :=
  match cur.rest with
  | '0' :: _ => .ok cur.advance
  | c :: _ => if '1' ≤ c ∧ c ≤ '9' then .ok (takeDigits cur).2 else cur.refuse "in numeric literal"
  | [] => .error .endOfInput

def readFraction (cur : Cursor) : Except ReadError Cursor :=
  match cur.rest with
  | '.' :: _ =>
    let cur := cur.advance
    match cur.rest with
    | c :: _ => if '0' ≤ c ∧ c ≤ '9' then .ok (takeDigits cur).2
      else cur.refuse "after decimal point in numeric literal"
    | [] => .error .endOfInput
  | _ => .ok cur

def readExponentPart (cur : Cursor) : Except ReadError Cursor :=
  match cur.rest with
  | e :: _ =>
    if e = 'e' ∨ e = 'E' then
      let cur := cur.advance
      let cur := match cur.rest with
        | s :: _ => if s = '+' ∨ s = '-' then cur.advance else cur
        | [] => cur
      match cur.rest with
      | c :: _ => if '0' ≤ c ∧ c ≤ '9' then .ok (takeDigits cur).2
        else cur.refuse "in exponent of numeric literal"
      | [] => .error .endOfInput
    else .ok cur
  | [] => .ok cur

/-- Reads a number: an optional minus, an integer part without leading zeros, an optional
fraction and an optional exponent. -/
def readNumber (start : Cursor) : Except ReadError (String × Cursor) :=
  let afterSign := match start.rest with
    | '-' :: _ => start.advance
    | _ => start
  match (readIntegerPart afterSign).bind readFraction |>.bind readExponentPart with
  | .error e => .error e
  | .ok cur => .ok (String.ofList (start.rest.take (start.rest.length - cur.rest.length)), cur)

def readValue (fuel : Nat) (cur : Cursor) : Except ReadError (Placed × Cursor) :=
  match fuel with
  | 0 => .error .endOfInput
  | fuel + 1 =>
    let cur := cur.skipBlank
    match cur.rest with
    | [] => .error .endOfInput
    | '{' :: _ => readObject fuel cur.advance.offset [] true cur.advance
    | '[' :: _ => readArray fuel cur.advance.offset [] true cur.advance
    | '"' :: _ => (readStringBody (cur.rest.length + 1) [] cur.advance).map fun (s, c) =>
      (.scalar (.string s) c.offset, c)
    | 't' :: _ => (readWord "true" cur.advance).map fun c => (.scalar (.bool true) c.offset, c)
    | 'f' :: _ => (readWord "false" cur.advance).map fun c => (.scalar (.bool false) c.offset, c)
    | 'n' :: _ => (readWord "null" cur.advance).map fun c => (.scalar .null c.offset, c)
    | c :: _ =>
      if c = '-' ∨ ('0' ≤ c ∧ c ≤ '9') then
        (readNumber cur).map fun (n, c) => (.scalar (.number n) c.offset, c)
      else cur.refuse "looking for beginning of value"
where
  readObject (fuel inner : Nat) (acc : List (String × Placed)) (first : Bool) (cur : Cursor) :
      Except ReadError (Placed × Cursor) :=
    let cur := cur.skipBlank
    match cur.rest with
    | '}' :: _ => if first then .ok (.object inner [], cur.advance)
      else cur.refuse "looking for beginning of object key string"
    | '"' :: _ =>
      match readStringBody (cur.rest.length + 1) [] cur.advance with
      | .error e => .error e
      | .ok (key, cur) =>
        let cur := cur.skipBlank
        match cur.rest with
        | ':' :: _ =>
          match readValue fuel cur.advance with
          | .error e => .error e
          | .ok (v, cur) =>
            let cur := cur.skipBlank
            match cur.rest with
            | ',' :: _ => readObjectMore fuel inner ((key, v) :: acc) cur.advance
            | '}' :: _ => .ok (.object inner ((key, v) :: acc).reverse, cur.advance)
            | _ => cur.refuse "after object key:value pair"
        | _ => cur.refuse "after object key"
    | _ => cur.refuse "looking for beginning of object key string"
  readObjectMore (fuel inner : Nat) (acc : List (String × Placed)) (cur : Cursor) :
      Except ReadError (Placed × Cursor) :=
    match fuel with
    | 0 => .error .endOfInput
    | fuel + 1 => readObject fuel inner acc false cur
  readArray (fuel inner : Nat) (acc : List Placed) (first : Bool) (cur : Cursor) :
      Except ReadError (Placed × Cursor) :=
    let cur := cur.skipBlank
    match cur.rest with
    | ']' :: _ =>
      if first then .ok (.array inner [], cur.advance) else cur.refuse "looking for beginning of value"
    | _ =>
      match readValue fuel cur with
      | .error e => .error e
      | .ok (v, cur) =>
        let cur := cur.skipBlank
        match cur.rest with
        | ',' :: _ => readArrayMore fuel inner (v :: acc) cur.advance
        | ']' :: _ => .ok (.array inner (v :: acc).reverse, cur.advance)
        | _ => cur.refuse "after array element"
  readArrayMore (fuel inner : Nat) (acc : List Placed) (cur : Cursor) :
      Except ReadError (Placed × Cursor) :=
    match fuel with
    | 0 => .error .endOfInput
    | fuel + 1 => readArray fuel inner acc false cur

def read (s : String) : Except ReadError Json :=
  match readValue (s.length + 1) ⟨s.toList, 0⟩ with
  | .error e => .error e
  | .ok (j, cur) =>
    let cur := cur.skipBlank
    match cur.rest with
    | [] => .ok j.toJson
    | _ => cur.refuse "after top-level value"

def readPlaced (s : String) : Except ReadError Placed :=
  (readValue (s.length + 1) ⟨s.toList, 0⟩).map (·.1)

def readFirst (s : String) : Except ReadError Json :=
  (readPlaced s).map Placed.toJson

/-- The message of a read error for a whole text: an early end reads "unexpected end of JSON
input". -/
def ReadError.message : ReadError → String
  | .endOfInput => "unexpected end of JSON input"
  | .badChar _ reason => reason

end AccessPolicy.Json
