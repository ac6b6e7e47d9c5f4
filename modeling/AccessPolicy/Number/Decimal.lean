/-!
# Decimal numerals

Numbers reach the engine as text: integer literals of row filters, mask counts, numbers kept
with their exact spelling in rows, and floating-point numerals. This module reads them.

* `readInt?` takes an optional sign and one or more ASCII digits, and refuses values outside
  `[lo, hi]`; `readNat?` takes no sign.
* `Numeral.read?` takes the floating-point grammar: an optional sign, digits with at most one
  point and at least one digit, and an optional exponent `e` or `E` with an optional sign and
  digits; or `0x`, hexadecimal digits and a binary exponent `p`; underscores may separate
  digits. Or, in any case, `inf` or `infinity` after an optional sign, or `nan`.
-/

namespace AccessPolicy
def digitValue? (c : Char) : Option Nat :=
  if '0' ≤ c ∧ c ≤ '9' then some (c.toNat - '0'.toNat) else none

/-- The number an unbroken run of ASCII digits spells, or `none` for an empty run or any other
character. -/
def readDigits? (cs : List Char) : Option Nat :=
  if cs.isEmpty then none
  else cs.foldlM (fun n c => (digitValue? c).map (n * 10 + ·)) 0

def readInt? (lo hi : Int) (s : String) : Option Int :=
  let (neg, body) := match s.toList with
    | '-' :: rest => (true, rest)
    | '+' :: rest => (false, rest)
    | cs => (false, cs)
  match readDigits? body with
  | some n =>
    let v : Int := if neg then -(n : Int) else n
    if lo ≤ v ∧ v ≤ hi then some v else none
  | none => none

def readInt64? (s : String) : Option Int :=
  readInt? (-Int.pow 2 63) (Int.pow 2 63 - 1) s

def readNat? (bound : Nat) (s : String) : Option Nat :=
  match readDigits? s.toList with
  | some n => if n < bound then some n else none
  | none => none

def decimalRat (n : Nat) (e : Int) : Rat :=
  if 0 ≤ e then ((n * Nat.pow 10 e.toNat : Nat) : Rat) else (n : Rat) / ((Nat.pow 10 (-e).toNat : Nat) : Rat)

/-- A floating-point numeral as written: a sign and `digits · 10^exp`, or one of the special
words. -/
inductive Numeral where
  | finite (neg : Bool) (digits : Nat) (exp : Int)
  | infinity (neg : Bool)
  | nan
  deriving Repr, DecidableEq

/-- Whether the underscores of a numeral stand only between digits, or between a base prefix
and a digit. -/
def underscoresFit (s : List Char) : Bool :=
  let body := match s with
    | '-' :: r => r
    | '+' :: r => r
    | r => r
  let isBase (b : Char) : Bool := b.toLower = 'b' ∨ b.toLower = 'o' ∨ b.toLower = 'x'
  let (hex, start, rest) : Bool × Char × List Char := match body with
    | '0' :: b :: r => if isBase b then (b.toLower = 'x', '0', r) else (false, '^', body)
    | _ => (false, '^', body)
  let step (saw : Option Char) (c : Char) : Option Char :=
    saw.bind fun sw =>
      if ('0' ≤ c ∧ c ≤ '9') ∨ (hex ∧ 'a' ≤ c.toLower ∧ c.toLower ≤ 'f') then some '0'
      else if c = '_' then (if sw = '0' then some '_' else none)
      else if sw = '_' then none
      else some '!'
  match rest.foldl step (some start) with
  | some sw => sw ≠ '_'
  | none => false

/-- The significand of a numeral as it is read: its digits as a number, how many there are
after the leading zeros, where the point stands among them, and what was seen. -/
structure Significand where
  value : Nat := 0
  count : Nat := 0
  point : Int := 0
  sawDot : Bool := false
  sawDigits : Bool := false
  underscores : Bool := false

/-- Reads the digits of a significand in base 10 or 16, with at most one point and underscores
anywhere; gives what was read and the characters after it. A leading zero moves the point. -/
def readSignificand (hex : Bool) : List Char → Significand → Significand × List Char
  | [], m => (m, [])
  | c :: rest, m =>
    let digit : Option Nat :=
      if '0' ≤ c ∧ c ≤ '9' then some (c.toNat - '0'.toNat)
      else if hex ∧ 'a' ≤ c.toLower ∧ c.toLower ≤ 'f' then some (c.toLower.toNat - 'a'.toNat + 10)
      else none
    match digit with
    | some d =>
      if d = 0 ∧ m.count = 0 then
        readSignificand hex rest { m with point := m.point - 1, sawDigits := true }
      else
        readSignificand hex rest
          { m with value := m.value * (if hex then 16 else 10) + d, count := m.count + 1,
                   sawDigits := true }
    | none =>
      if c = '_' then readSignificand hex rest { m with underscores := true }
      else if c = '.' ∧ !m.sawDot then
        readSignificand hex rest { m with sawDot := true, point := m.count }
      else (m, c :: rest)

/-- Reads the digits of an exponent, with underscores anywhere; the value stops growing once it
reaches 10000, which is already far beyond every finite float. -/
def readExponentDigits : List Char → Nat → Bool → Nat × Bool × List Char
  | [], e, u => (e, u, [])
  | c :: rest, e, u =>
    if '0' ≤ c ∧ c ≤ '9' then
      readExponentDigits rest (if e < 10000 then e * 10 + (c.toNat - '0'.toNat) else e) u
    else if c = '_' then readExponentDigits rest e true
    else (e, u, c :: rest)

/-- The special words a float may be written as: `inf` or `infinity` with an optional sign, and
`nan` without one, in any case. -/
def specialNumeral? (s : List Char) : Option Numeral :=
  let (neg, signed, body) := match s with
    | '-' :: rest => (true, true, rest)
    | '+' :: rest => (false, true, rest)
    | cs => (false, false, cs)
  let word := String.ofList (body.map Char.toLower)
  if word = "inf" ∨ word = "infinity" then some (.infinity neg)
  else if word = "nan" ∧ !signed then some .nan
  else none

/-- Reads a floating-point numeral: an optional sign, then decimal digits with at most one point
and an optional exponent `e`, or `0x` and hexadecimal digits with at most one point and a
binary exponent `p` that must be there; underscores may separate digits. Or one of the special
words. A hexadecimal numeral is kept as the decimal it equals exactly. -/
def Numeral.read? (s : String) : Option Numeral :=
  let cs := s.toList
  match specialNumeral? cs with
  | some n => some n
  | none =>
    let (neg, body) := match cs with
      | '-' :: rest => (true, rest)
      | '+' :: rest => (false, rest)
      | r => (false, r)
    let (hex, digits) := match body with
      | '0' :: x :: d :: r => if x.toLower = 'x' then (true, d :: r) else (false, body)
      | _ => (false, body)
    let (m, rest) := readSignificand hex digits {}
    if !m.sawDigits then none
    else
      let point : Int := if m.sawDot then m.point else m.count
      let expChar := if hex then 'p' else 'e'
      let expPart : Option (Option (Int × Bool)) := match rest with
        | [] => some none
        | c :: r =>
          if c.toLower ≠ expChar then none
          else
            let (sign, r) : Int × List Char := match r with
              | '+' :: r' => (1, r')
              | '-' :: r' => (-1, r')
              | r' => (1, r')
            match r with
            | d :: _ =>
              if '0' ≤ d ∧ d ≤ '9' then
                let (e, u, after) := readExponentDigits r 0 false
                if after.isEmpty then some (some (sign * e, u)) else none
              else none
            | [] => none
      match expPart with
      | none => none
      | some ex =>
        if hex ∧ ex.isNone then none
        else
          let (e, u) := ex.getD (0, false)
          if (m.underscores ∨ u) ∧ !underscoresFit cs then none
          else if m.value = 0 then some (.finite neg 0 0)
          else if hex then
            let e2 := 4 * (point - m.count) + e
            if 0 ≤ e2 then some (.finite neg (m.value * Nat.pow 2 e2.toNat) 0)
            else some (.finite neg (m.value * Nat.pow 5 (-e2).toNat) e2)
          else some (.finite neg m.value (point - m.count + e))

end AccessPolicy
