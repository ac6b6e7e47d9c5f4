import AccessPolicy.Number.Binary
import AccessPolicy.Value.Timestamp
/-!
# The types of plain scalars
-/

namespace AccessPolicy.Yaml

inductive Scalar where
  | null
  | bool (b : Bool)
  | int (n : Int)
  | float (x : Binary)
  | timestamp (t : Timestamp)
  | str (s : String)
  deriving Repr, Inhabited
def longTagPrefix : String := "tag:yaml.org,2002:"

def shortTag (tag : String) : String :=
  if tag.startsWith longTagPrefix then "!!" ++ (tag.drop longTagPrefix.length).toString else tag

/-- Whether a tag is one whose type is resolved from the text. -/
def resolvableTag (tag : String) : Bool :=
  tag = "" ∨ tag = "!!str" ∨ tag = "!!bool" ∨ tag = "!!int" ∨ tag = "!!float" ∨
    tag = "!!timestamp" ∨ tag = "!!null"

def knownScalar? (s : String) : Option (String × Scalar) :=
  if s ∈ ["true", "True", "TRUE"] then some ("!!bool", .bool true)
  else if s ∈ ["false", "False", "FALSE"] then some ("!!bool", .bool false)
  else if s ∈ ["", "~", "null", "Null", "NULL"] then some ("!!null", .null)
  else if s ∈ [".nan", ".NaN", ".NAN"] then some ("!!float", .float .nan)
  else if s ∈ [".inf", ".Inf", ".INF", "+.inf", "+.Inf", "+.INF"] then
    some ("!!float", .float (.infinity false))
  else if s ∈ ["-.inf", "-.Inf", "-.INF"] then some ("!!float", .float (.infinity true))
  else none

/-- The scalars known by their whole text under the older rules of YAML 1.1, which also read
`y`, `yes`, `on` as true and `n`, `no`, `off` as false, in three spellings each. -/
def knownScalarYaml11? (s : String) : Option (String × Scalar) :=
  if s ∈ ["y", "Y", "yes", "Yes", "YES", "on", "On", "ON"] then some ("!!bool", .bool true)
  else if s ∈ ["n", "N", "no", "No", "NO", "off", "Off", "OFF"] then some ("!!bool", .bool false)
  else knownScalar? s

/-- How the first character of a plain scalar hints at its type: `N` for the empty text, `S` for
a sign, `D` for a digit, `M` for a letter that may begin a known scalar, `.` for a point. -/
def typeHint (s : String) : Option Char :=
  match s.toList with
  | [] => some 'N'
  | c :: _ =>
    if c = '+' ∨ c = '-' then some 'S'
    else if '0' ≤ c ∧ c ≤ '9' then some 'D'
    else if "yYnNtTfFoO~".toList.contains c then some 'M'
    else if c = '.' then some '.'
    else none

def digitIn (base : Nat) (c : Char) : Option Nat :=
  let v := if '0' ≤ c ∧ c ≤ '9' then c.toNat - '0'.toNat
    else if 'a' ≤ c ∧ c ≤ 'z' then c.toNat - 'a'.toNat + 10
    else if 'A' ≤ c ∧ c ≤ 'Z' then c.toNat - 'A'.toNat + 10
    else 99
  if v < base then some v else none
def digitsIn (base : Nat) (cs : List Char) : Option Nat :=
  if cs.isEmpty then none
  else cs.foldlM (fun n c => (digitIn base c).map (n * base + ·)) 0

/-- Reads an integer with an optional sign and a base prefix: `0x`, `0o`, `0b`, or a leading
`0` for octal. -/
def readPrefixedInt? (s : String) : Option Int :=
  let (neg, body) := match s.toList with
    | '-' :: rest => (true, rest)
    | '+' :: rest => (false, rest)
    | cs => (false, cs)
  let magnitude := match body with
    | '0' :: x :: rest =>
      if x = 'x' ∨ x = 'X' then digitsIn 16 rest
      else if x = 'o' ∨ x = 'O' then digitsIn 8 rest
      else if x = 'b' ∨ x = 'B' then digitsIn 2 rest
      else digitsIn 8 (x :: rest)
    | cs => digitsIn 10 cs
  magnitude.map fun n => if neg then -(n : Int) else n

/-- Whether a text has the shape of a decimal float: sign, digits with an optional point or a
point with digits, and an optional exponent. -/
def hasFloatShape (s : String) : Bool :=
  let isDigit (c : Char) : Bool := '0' ≤ c ∧ c ≤ '9'
  let cs := match s.toList with
    | '-' :: r => r
    | '+' :: r => r
    | r => r
  let mant := cs.takeWhile (fun c => c ≠ 'e' ∧ c ≠ 'E')
  let rest := cs.drop mant.length
  let mantOk := match mant with
    | '.' :: frac => !frac.isEmpty && frac.all isDigit
    | _ =>
      let whole := mant.takeWhile isDigit
      !whole.isEmpty && (match mant.drop whole.length with
        | [] => true
        | '.' :: frac => frac.all isDigit
        | _ => false)
  let expOk := match rest with
    | [] => true
    | _ :: e =>
      let e := match e with
        | '-' :: r => r
        | '+' :: r => r
        | r => r
      !e.isEmpty && e.all isDigit
  mantOk && expOk

def readFiniteFloat? (s : String) : Option Binary :=
  (Numeral.read? s).bind fun n =>
    let x := Binary.ofNumeral .double n
    match n with
    | .finite .. => if x.isFinite then some x else none
    | _ => some x

def someDigits (n : Nat) (cs : List Char) : Option (Nat × List Char) :=
  let ds := (cs.takeWhile fun c => '0' ≤ c ∧ c ≤ '9').take n
  if ds.isEmpty then none else (readDigits? ds).map (·, cs.drop ds.length)

def readClock? (cs : List Char) : Option (Nat × Nat × Nat × Nat × List Char) := do
  let (h, cs) ← someDigits 2 cs
  let cs ← match cs with | ':' :: r => some r | _ => none
  let (m, cs) ← someDigits 2 cs
  let cs ← match cs with | ':' :: r => some r | _ => none
  let (sec, cs) ← someDigits 2 cs
  let (nanos, cs) := match cs with
    | p :: d :: r =>
      if (p = '.' ∨ p = ',') ∧ '0' ≤ d ∧ d ≤ '9' then Timestamp.readFraction (d :: r) else (0, cs)
    | _ => (0, cs)
  if h < 24 ∧ m < 60 ∧ sec < 60 then some (h, m, sec, nanos, cs) else none

/-- Reads a YAML timestamp: `YYYY-M-D`, or that with `T` or `t` and a time and zone, or with a
space and a time without zone. -/
def readTimestamp? (s : String) : Option Timestamp := do
  let cs := s.toList
  let (year, cs) ← Timestamp.fixedDigits 4 cs
  let cs ← match cs with | '-' :: r => some r | _ => none
  let (month, cs) ← someDigits 2 cs
  let cs ← match cs with | '-' :: r => some r | _ => none
  let (day, cs) ← someDigits 2 cs
  if !(1 ≤ month ∧ month ≤ 12 ∧ 1 ≤ day ∧ day ≤ Timestamp.daysIn year month) then none
  let date : Timestamp := { year, month, day, hour := 0, minute := 0, second := 0, nanos := 0, offset := 0 }
  match cs with
  | [] => some date
  | sep :: rest =>
    let (h, m, sec, nanos, rest) ← readClock? rest
    let t := { date with hour := h, minute := m, second := sec, nanos := nanos }
    if sep = 'T' ∨ sep = 't' then
      let offset ← Timestamp.readZone rest
      some { t with offset := offset }
    else if sep = ' ' ∧ rest.isEmpty then some t
    else none

def looksLikeDate (s : String) : Bool :=
  let cs := s.toList
  (cs.takeWhile fun c => '0' ≤ c ∧ c ≤ '9').length = 4 ∧ cs.getD 4 ' ' = '-'

/-- The type of a scalar's text under a resolvable tag, before the tag is checked, the texts
known by their whole text given by `known`. -/
def resolveTextWith (known : String → Option (String × Scalar)) (tag s : String) :
    String × Scalar :=
  match typeHint s with
  | none => ("!!str", .str s)
  | some hint =>
    if tag = "!!str" ∨ tag = "!!binary" then ("!!str", .str s)
    else match known s with
    | some r => r
    | none =>
      if hint = '.' then
        match readFiniteFloat? s with
        | some x => ("!!float", .float x)
        | none => ("!!str", .str s)
      else if hint = 'D' ∨ hint = 'S' then
        let stamp := if (tag = "" ∨ tag = "!!timestamp") ∧ looksLikeDate s then readTimestamp? s
          else none
        match stamp with
        | some t => ("!!timestamp", .timestamp t)
        | none =>
          let plain := String.ofList (s.toList.filter (· ≠ '_'))
          let asInt := (readPrefixedInt? plain).filter fun n =>
            (-Int.pow 2 63 ≤ n ∧ n < Int.pow 2 63) ∨ (0 ≤ n ∧ n < Int.pow 2 64 ∧ !plain.startsWith "+")
          match asInt with
          | some n => ("!!int", .int n)
          | none =>
            match (if hasFloatShape plain then readFiniteFloat? plain else none) with
            | some x => ("!!float", .float x)
            | none => ("!!str", .str s)
      else ("!!str", .str s)

def resolveText (tag s : String) : String × Scalar := resolveTextWith knownScalar? tag s

/-- Resolves a scalar under a tag: the type the text has, checked against a tag of a scalar
type; an integer under `!!float` becomes a float. -/
def resolveWith (known : String → Option (String × Scalar)) (tag s : String) :
    Except String (String × Scalar) :=
  let tag := shortTag tag
  if !resolvableTag tag then .ok (tag, .str s)
  else
    let (rtag, v) := resolveTextWith known tag s
    if tag = "" ∨ tag = rtag ∨ tag = "!!str" ∨ tag = "!!binary" then .ok (rtag, v)
    else match tag, v with
      | "!!float", .int n =>
        .ok ("!!float", .float (Binary.ofNumeral .double (.finite (n < 0) n.natAbs 0)))
      | _, _ => .error ("cannot decode " ++ rtag ++ " `" ++ s ++ "` as a " ++ tag)

def resolve (tag s : String) : Except String (String × Scalar) := resolveWith knownScalar? tag s
def plainTag (s : String) : String := (resolveText "" s).1

end AccessPolicy.Yaml
