import AccessPolicy.Rego.Builtin
/-!
# Quantities with units

`units.parse(x)` reads a quantity such as `10K`, `250m` or `1.5e3Mi`, and `units.parse_bytes(x)`
a size such as `10KB` or `1.5GiB`. Quotes in the text are dropped, and a space makes the call
fail. The text splits into an amount and a unit. The amount is the longest head of digits,
points and signs; an `e` or `E` belongs to it when a digit or a sign follows, and then so does
that sign. So `1e3K` is a thousand thousands and `1E` one exa.
-/

namespace AccessPolicy.Rego

namespace Units

/-- The value nearest to a non-negative rational with `bits` significand bits, a tie going to
the even significand, and no bound on the exponent. -/
def roundBits (bits : Nat) (q : Rat) : Rat :=
  ((Binary.round ⟨bits, -Int.pow 2 40, Int.pow 2 40⟩ false q).toRat?).getD 0

/-- Finishes a power of five by squaring: `z` times `f` to the power `k`, each product kept to
128 bits and each square to 192. -/
def squareUp (k : Nat) (z f : Rat) : Rat :=
  if _h : k = 0 then z
  else
    let z := if k % 2 = 1 then roundBits 128 (z * f) else z
    squareUp (k / 2) z (roundBits 192 (f * f))
termination_by k
decreasing_by omega

def fivePower (n : Nat) : Rat :=
  if n ≤ 27 then ((Nat.pow 5 n : Nat) : Rat)
  else squareUp (n - 27) ((Nat.pow 5 27 : Nat) : Rat) 5

/-- A decimal amount read: its sign and its magnitude rounded to 64 bits. -/
def readAmount? (s : List Char) : Option (Bool × Rat) := do
  let (neg, body) := match s with
    | '-' :: r => (true, r)
    | '+' :: r => (false, r)
    | r => (false, r)
  let whole := body.takeWhile Char.isDigit
  let rest := body.drop whole.length
  let (fraction, rest) := match rest with
    | '.' :: r => (r.takeWhile Char.isDigit, r.drop (r.takeWhile Char.isDigit).length)
    | r => ([], r)
  if whole.isEmpty && fraction.isEmpty then none
  let exp : Int ← match rest with
    | [] => some 0
    | e :: r =>
      if e ≠ 'e' ∧ e ≠ 'E' then none
      else
        let (eneg, ds) := match r with
          | '-' :: t => (true, t)
          | '+' :: t => (false, t)
          | t => (false, t)
        if ds.isEmpty || !ds.all Char.isDigit then none
        else
          let v := digitsValue ds
          some (if eneg then -(v : Int) else v)
  let m := digitsValue (whole ++ fraction)
  let d := exp - fraction.length
  if d.natAbs > 100000 then none
  if m = 0 then return (neg, 0)
  let scale := pow2 d
  if d = 0 then return (neg, roundBits 64 m)
  else if d < 0 then return (neg, roundBits 64 (m / fivePower d.natAbs) * scale)
  else return (neg, roundBits 64 (m * fivePower d.natAbs) * scale)

/-- Splits a text into its amount and its unit: the amount runs over digits, points and signs,
and over an `e` or `E` followed by a digit or a sign, which it then also takes. -/
def splitAmount : List Char → List Char × List Char
  | [] => ([], [])
  | [c] => if c.isDigit || c == '.' || c == '+' || c == '-' then ([c], []) else ([], [c])
  | c :: s :: more =>
    if c.isDigit || c == '.' || c == '+' || c == '-' then
      let (a, u) := splitAmount (s :: more)
      (c :: a, u)
    else if (c == 'e' || c == 'E') && s.isDigit then
      let (a, u) := splitAmount (s :: more)
      (c :: a, u)
    else if (c == 'e' || c == 'E') && (s == '+' || s == '-') then
      let (a, u) := splitAmount more
      (c :: s :: a, u)
    else ([], c :: s :: more)
termination_by cs => cs.length

/-- The factor of a unit of quantity, the first letter keeping its case and the rest lower-cased:
decimal and binary multiples, and `m` for a thousandth. -/
def quantityFactor? (unit : String) : Option Rat :=
  let unit := match unit.toList with
    | c :: rest => String.ofList (c :: (CharClass.lowerText (String.ofList rest)).toList)
    | [] => ""
  let pow := fun (b e : Nat) => ((Nat.pow b e : Nat) : Rat)
  match unit with
  | "m" => (readAmount? "0.001".toList).map (·.2)
  | "" => some 1
  | "k" | "K" => some (pow 1000 1)
  | "ki" | "Ki" => some (pow 1024 1)
  | "M" => some (pow 1000 2)
  | "mi" | "Mi" => some (pow 1024 2)
  | "g" | "G" => some (pow 1000 3)
  | "gi" | "Gi" => some (pow 1024 3)
  | "t" | "T" => some (pow 1000 4)
  | "ti" | "Ti" => some (pow 1024 4)
  | "p" | "P" => some (pow 1000 5)
  | "pi" | "Pi" => some (pow 1024 5)
  | "e" | "E" => some (pow 1000 6)
  | "ei" | "Ei" => some (pow 1024 6)
  | _ => none

def byteFactor? (unit : String) : Option Nat :=
  match unit with
  | "" => some 1
  | "kb" | "k" => some (Nat.pow 1000 1)
  | "kib" | "ki" => some (Nat.pow 1024 1)
  | "mb" | "m" => some (Nat.pow 1000 2)
  | "mib" | "mi" => some (Nat.pow 1024 2)
  | "gb" | "g" => some (Nat.pow 1000 3)
  | "gib" | "gi" => some (Nat.pow 1024 3)
  | "tb" | "t" => some (Nat.pow 1000 4)
  | "tib" | "ti" => some (Nat.pow 1024 4)
  | "pb" | "p" => some (Nat.pow 1000 5)
  | "pib" | "pi" => some (Nat.pow 1024 5)
  | "eb" | "e" => some (Nat.pow 1000 6)
  | "eib" | "ei" => some (Nat.pow 1024 6)
  | _ => none

/-- A non-negative rational in decimal with ten digits after the point, rounded to the nearest
with ties to even. -/
def tenPlaces (r : Rat) : String :=
  let scaled := r * ((Nat.pow 10 10 : Nat) : Rat)
  let t := scaled.floor.toNat
  let rest := scaled - (t : Rat)
  let n := if rest > 1 / 2 ∨ (rest = 1 / 2 ∧ t % 2 = 1) then t + 1 else t
  let digits := String.ofList (Nat.toDigits 10 n)
  let digits := String.ofList (List.replicate (11 - digits.length) '0') ++ digits
  String.ofList (digits.toList.take (digits.length - 10)) ++ "." ++
    String.ofList (digits.toList.drop (digits.length - 10))

/-- The amount and unit of a text, quotes dropped, or none when it holds a space or has no
amount. -/
def amountAndUnit? (s : String) : Option (List Char × String) :=
  let s := s.toList.filter (· ≠ '"')
  if s.contains ' ' then none
  else
    let (amount, unit) := splitAmount s
    if amount.isEmpty then none else some (amount, String.ofList unit)

def parseQuantity (raw : String) : Option Datum := do
  let (amount, unit) ← amountAndUnit? raw
  let factor ← quantityFactor? unit
  let (neg, value) ← readAmount? amount
  let v := roundBits 64 (value * factor)
  let sign := if neg then "-" else ""
  if v.den = 1 then some (.number (sign ++ toString v.num))
  else some (.number (sign ++ tenPlaces v))

def parseBytes (raw : String) : Option Datum := do
  let (amount, unit) ← amountAndUnit? (CharClass.lowerText raw)
  let factor ← byteFactor? unit
  let (neg, value) ← readAmount? amount
  let whole := (roundBits 64 (value * (factor : Rat))).floor
  some (intNumber (if neg then -whole else whole))

def apply (name : String) (args : List Datum) : Option Datum :=
  match name, args with
  | "units.parse", [.string s] => parseQuantity s
  | "units.parse_bytes", [.string s] => parseBytes s
  | _, _ => none

end Units

end AccessPolicy.Rego
