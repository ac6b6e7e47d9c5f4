import AccessPolicy.Json.Basic
/-!
# Writing JSON

A document is written compactly or indented by two spaces, members in their order. Strings
escape the quote and the backslash, write `\b \f \n \r \t` short, every other control character
below U+0020 and the separators U+2028 and U+2029 as `\u` and four lower-case hexadecimal digits,
and, when `html` is set, also `<`, `>` and `&`. Numbers are written as their numerals.
-/

namespace AccessPolicy.Json

def hex4 (n : Nat) : String :=
  let digit (d : Nat) : Char := "0123456789abcdef".toList.getD d '0'
  String.ofList [digit (n / 4096 % 16), digit (n / 256 % 16), digit (n / 16 % 16), digit (n % 16)]
def escapeChar (html : Bool) (c : Char) : String :=
  if c = '"' then "\\\""
  else if c = '\\' then "\\\\"
  else if c = '\x08' then "\\b"
  else if c = '\x0c' then "\\f"
  else if c = '\n' then "\\n"
  else if c = '\r' then "\\r"
  else if c = '\t' then "\\t"
  else if c.toNat < 0x20 ∨ c.toNat = 0x2028 ∨ c.toNat = 0x2029 then "\\u" ++ hex4 c.toNat
  else if html ∧ (c = '<' ∨ c = '>' ∨ c = '&') then "\\u" ++ hex4 c.toNat
  else String.singleton c

def quote (html : Bool) (s : String) : String :=
  "\"" ++ String.join (s.toList.map (escapeChar html)) ++ "\""

mutual

def compact (html : Bool) : Json → String
  | .null => "null"
  | .bool b => if b then "true" else "false"
  | .number n => n
  | .string s => quote html s
  | .array xs => "[" ++ ",".intercalate (compactItems html xs) ++ "]"
  | .object ms => "\x7b" ++ ",".intercalate (compactMembers html ms) ++ "\x7d"

def compactItems (html : Bool) : List Json → List String
  | [] => []
  | x :: xs => compact html x :: compactItems html xs

def compactMembers (html : Bool) : List (String × Json) → List String
  | [] => []
  | (k, v) :: ms => (quote html k ++ ":" ++ compact html v) :: compactMembers html ms

end

def lineStart (pre unit : String) (depth : Nat) : String :=
  pre ++ String.join (List.replicate depth unit)

mutual

/-- The text of a document spread over lines at level `depth`: each item and member on a line
of its own, each line after the first starting with `pre` and one `unit` per level. Empty
arrays and objects stay on one line. -/
def indentedWith (html : Bool) (pre unit : String) (depth : Nat) : Json → String
  | .array xs =>
    if xs.isEmpty then "[]"
    else "[\n" ++ ",\n".intercalate (indentedItems html pre unit depth xs) ++ "\n" ++
      lineStart pre unit depth ++ "]"
  | .object ms =>
    if ms.isEmpty then "\x7b\x7d"
    else "\x7b\n" ++ ",\n".intercalate (indentedMembers html pre unit depth ms) ++ "\n" ++
      lineStart pre unit depth ++ "\x7d"
  | .null => "null"
  | .bool b => if b then "true" else "false"
  | .number n => n
  | .string s => quote html s

def indentedItems (html : Bool) (pre unit : String) (depth : Nat) : List Json → List String
  | [] => []
  | x :: xs =>
    (lineStart pre unit (depth + 1) ++ indentedWith html pre unit (depth + 1) x) ::
      indentedItems html pre unit depth xs

def indentedMembers (html : Bool) (pre unit : String) (depth : Nat) :
    List (String × Json) → List String
  | [] => []
  | (k, v) :: ms =>
    (lineStart pre unit (depth + 1) ++ quote html k ++ ": " ++
      indentedWith html pre unit (depth + 1) v) :: indentedMembers html pre unit depth ms

end

def indented (html : Bool) (depth : Nat) (j : Json) : String :=
  indentedWith html "" "  " depth j

def render (j : Json) : String := compact false j

end AccessPolicy.Json
