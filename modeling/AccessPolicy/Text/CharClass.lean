import AccessPolicy.Text.Category
import AccessPolicy.Text.CaseMap
/-!
# Character classes

The letter, case, digit, blank and printable classes that row masks, the row-filter lexer and
quoted literals consult, and the case maps and case classes that names and patterns are folded
with. Each class is a set of general categories of Unicode 17.0:

* `upper` is the general category Lu, `lower` is Ll, `letter` is L (Lu, Ll, Lt, Lm, Lo);
* `decimalDigit` is Nd;
* `printable` is L, M, N, P, S and the space U+0020: the characters a quoted literal keeps as
  they are.

`blank` is the White_Space property: tab to carriage return, space, U+0085, the no-break space,
the Ogham space mark, the spaces U+2000 to U+200A, the line and paragraph separators, the narrow
no-break space, the medium mathematical space and the ideographic space.
-/

namespace AccessPolicy.CharClass

/-! ## The classes -/

def upper (c : Char) : Bool :=
  if c.toNat < 0x80 then 'A' ≤ c ∧ c ≤ 'Z' else generalCategory c == .lu

def lower (c : Char) : Bool :=
  if c.toNat < 0x80 then 'a' ≤ c ∧ c ≤ 'z' else generalCategory c == .ll

def letter (c : Char) : Bool :=
  if c.toNat < 0x80 then ('a' ≤ c ∧ c ≤ 'z') ∨ ('A' ≤ c ∧ c ≤ 'Z')
  else (generalCategory c).major == 'L'

def decimalDigit (c : Char) : Bool :=
  if c.toNat < 0x80 then '0' ≤ c ∧ c ≤ '9' else generalCategory c == .nd

def blank (c : Char) : Bool :=
  let n := c.toNat
  (0x9 ≤ n ∧ n ≤ 0xD) ∨ n = 0x20 ∨ n = 0x85 ∨ n = 0xA0 ∨ n = 0x1680 ∨
    (0x2000 ≤ n ∧ n ≤ 0x200A) ∨ n = 0x2028 ∨ n = 0x2029 ∨ n = 0x202F ∨ n = 0x205F ∨ n = 0x3000
def printable (c : Char) : Bool :=
  if c.toNat < 0x80 then 0x20 ≤ c.toNat ∧ c.toNat < 0x7f
  else "LMNPS".toList.contains (generalCategory c).major

def toLower (c : Char) : Char :=
  if c.toNat < 0x80 then c.toLower else applyCaseMap lowerMap c

def toUpper (c : Char) : Char :=
  if c.toNat < 0x80 then c.toUpper else applyCaseMap upperMap c

def lowerText (s : String) : String :=
  s.map toLower

def upperText (s : String) : String :=
  s.map toUpper

/-- The representative of a character's case class, its least member: characters that only
differ in case, such as `s`, `S` and `ſ`, or `k`, `K` and the Kelvin sign, share it. The dotted
capital `İ` and the dotless `ı` are alone in their classes. -/
def foldKey (c : Char) : Char :=
  ((caseClass c).head?).getD c

def equalFold (a b : String) : Bool :=
  a.length = b.length ∧ a.toList.map foldKey = b.toList.map foldKey
def trimBlank (s : String) : String :=
  String.ofList (((s.toList.dropWhile blank).reverse.dropWhile blank).reverse)

end AccessPolicy.CharClass
