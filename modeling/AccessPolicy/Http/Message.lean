import AccessPolicy.Text.Utf8
import AccessPolicy.Text.Quote
import AccessPolicy.Text.CharClass
/-!
# HTTP requests and responses

A request is a method, a target (a path, then optionally `?` and a query), headers and an
optional body; a response is a status, a media type and a body.

Headers are looked up ignoring case, and of several with one name the last set wins. A query
is a list of `name=value` pairs joined by `&`; a pair with `;` in it, or with an escape that
does not decode, is passed over.

Escapes are `%` and two hexadecimal digits, standing for a byte; the bytes of a decoded text are
read as UTF-8. In a query, `+` stands for a blank. The first escape that is not well formed
is the error, written with the `%` and at most two characters after it.
-/

namespace AccessPolicy.Http

structure Request where
  method : String
  target : String
  headers : List (String × String) := []
  body : Option String := none
  deriving Repr, Inhabited

structure Response where
  status : Nat
  contentType : String
  body : String
  deriving Repr, Inhabited

def unescapeChars (inQuery : Bool) : List Char → Except String (List UInt8)
  | [] => .ok []
  | '%' :: rest =>
    match rest with
    | a :: b :: more =>
      match CharClass.hexValue? a, CharClass.hexValue? b with
      | some x, some y => (unescapeChars inQuery more).map ((x * 16 + y).toUInt8 :: ·)
      | _, _ => .error (String.ofList ['%', a, b])
    | _ => .error (String.ofList ('%' :: rest))
  | '+' :: rest =>
    (unescapeChars inQuery rest).map ((if inQuery then ' ' else '+').toNat.toUInt8 :: ·)
  | c :: rest => (unescapeChars inQuery rest).map (Utf8.encode (String.singleton c) ++ ·)

def unescape (inQuery : Bool) (s : String) : Except String String :=
  match unescapeChars inQuery s.toList with
  | .ok bytes => .ok (String.ofList (Utf8.decode bytes))
  | .error bad => .error ("invalid URL escape " ++ Quote.string bad)

def cut (s : String) (c : Char) : String × Option String :=
  match s.splitOn (String.singleton c) with
  | [] => (s, none)
  | [whole] => (whole, none)
  | first :: rest => (first, some ((String.singleton c).intercalate rest))

def queryPairs (query : String) : List (String × String) :=
  (query.splitOn "&").filterMap fun pair =>
    if pair.isEmpty || pair.contains ';' then none
    else
      let (k, v) := cut pair '='
      match unescape true k, unescape true (v.getD "") with
      | .ok key, .ok value => some (key, value)
      | _, _ => none

/-- Why a query cannot be read as a form: a key holding `;`, or else the first escape that is
not well formed. -/
def queryError? (query : String) : Option String :=
  let keys := (query.splitOn "&").filter (· ≠ "")
  if keys.any (·.contains ';') then some "invalid semicolon separator in query"
  else keys.findSome? fun pair =>
    let (k, v) := cut pair '='
    match unescape true k with
    | .error e => some e
    | .ok _ =>
      match unescape true (v.getD "") with
      | .error e => some e
      | .ok _ => none

namespace Request

def path (r : Request) : String := (cut r.target '?').1

def query (r : Request) : String := ((cut r.target '?').2).getD ""
def param (r : Request) (name : String) : String :=
  if r.query.isEmpty then "" else (((queryPairs r.query).lookup name)).getD ""

def header (r : Request) (name : String) : String :=
  let key := CharClass.lowerText name
  ((r.headers.filter fun (k, _) => CharClass.lowerText k == key).getLast?.map (·.2)).getD ""

def mediaType (r : Request) : String :=
  CharClass.trimBlank (cut (r.header "Content-Type") ';').1
def contentLength (r : Request) : Nat :=
  (r.body.map String.utf8ByteSize).getD 0

end Request

end AccessPolicy.Http
