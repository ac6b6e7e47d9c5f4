import AccessPolicy.Text.CharClass
import AccessPolicy.Text.Utf8
/-!
# Quoted literals

The row-filter printer writes a string literal between double quotes, and error messages show a
stray character between single quotes. Both keep a printable character as it is and escape the
rest, so that the literal reads back to the same characters:

* the quote itself and the backslash take a backslash;
* bell, backspace, form feed, newline, carriage return, tab and vertical tab are `\a \b \f \n
  \r \t \v`;
* other control characters below U+0020 and U+007F are `\x` and two hexadecimal digits;
* any other character that is not printable is `\u` and four digits, or `\U` and eight past
  U+FFFF.

Hexadecimal digits are lower-case. The ASCII form escapes every character past U+007F as well,
and a text that holds no control character but the tab, no backquote, no U+007F and no byte-order
mark can also be written between backquotes as it is.
-/

namespace AccessPolicy.Quote

def hexDigits (width n : Nat) : String :=
  let digit (d : Nat) : Char := "0123456789abcdef".toList.getD d '0'
  String.ofList ((List.range width).reverse.map (fun k => digit (n / Nat.pow 16 k % 16)))

/-- The written form of one character inside a literal quoted by `q`; with `asciiOnly` a
character past U+007F is escaped even when it is printable. -/
def escapeWith (asciiOnly : Bool) (q : Char) (c : Char) : String :=
  if c = q ∨ c = '\\' then String.ofList ['\\', c]
  else if CharClass.printable c ∧ (!asciiOnly ∨ c.toNat < 0x80) then String.singleton c
  else if c = '\x07' then "\\a"
  else if c = '\x08' then "\\b"
  else if c = '\x0c' then "\\f"
  else if c = '\n' then "\\n"
  else if c = '\r' then "\\r"
  else if c = '\t' then "\\t"
  else if c = '\x0b' then "\\v"
  else if c.toNat < 0x20 ∨ c.toNat = 0x7f then "\\x" ++ hexDigits 2 c.toNat
  else if c.toNat < 0x10000 then "\\u" ++ hexDigits 4 c.toNat
  else "\\U" ++ hexDigits 8 c.toNat

def escapeChar (q : Char) (c : Char) : String :=
  escapeWith false q c

/-- The written form of one piece of a text inside a literal quoted by `q`: a raw byte is that
byte in hexadecimal. -/
def escapePiece (asciiOnly : Bool) (q : Char) : Utf8.Piece → String
  | .char c => escapeWith asciiOnly q c
  | .byte b => "\\x" ++ hexDigits 2 b.toNat

def string (s : String) : String :=
  "\"" ++ String.join ((Utf8.pieces s).map (escapePiece false '"')) ++ "\""

def char (c : Char) : String :=
  "'" ++ escapeChar '\'' c ++ "'"

def asciiString (s : String) : String :=
  "\"" ++ String.join ((Utf8.pieces s).map (escapePiece true '"')) ++ "\""

def asciiChar (c : Char) : String :=
  "'" ++ escapeWith true '\'' c ++ "'"

/-- Whether a text reads the same between backquotes on one line: no control character but the
tab, no backquote, no U+007F, no byte-order mark and no raw byte. -/
def canBackquote (s : String) : Bool :=
  (Utf8.pieces s).all fun
    | .byte _ => false
    | .char c =>
      if c.toNat ≥ 0x80 then c.toNat ≠ 0xFEFF
      else (c.toNat ≥ 0x20 ∨ c = '\t') ∧ c.toNat ≠ 0x60 ∧ c.toNat ≠ 0x7f

end AccessPolicy.Quote
