import AccessPolicy.Number.Decimal
/-!
# Binary floating-point values and their shortest decimal text

Rows carry IEEE 754 binary numbers of two widths. A value is kept by its exact meaning: NaN, a
signed infinity, or a signed finite `sig · 2^exp`. A `BinaryFormat` gives a width's precision and
exponent range.

* `Binary.round` gives the value of a format nearest to a rational, a tie going to the even
  significand, and an infinity past the largest finite value.
* `Binary.shortest` gives the fewest significant decimal digits that read back to the same value:
  the decimal grids `10^s` are tried from coarse to fine, and on the first grid with a point in
  the value's rounding interval (ends included when the significand is even) the point nearest the
  value wins, a tie going to the even digit string.
* `NumberLayout` says how digits are set out: positional or scientific by the decimal exponent,
  and how many digits the exponent keeps. `NumberLayout.general` and `NumberLayout.json` are the
  two layouts the engine writes.
-/

namespace AccessPolicy

/-- An IEEE 754 binary format: significand bits (the leading one included), the exponent of the
least subnormal unit, and the power of two at which values overflow. -/
structure BinaryFormat where
  precision : Nat
  leastExp : Int
  overflowExp : Int

def BinaryFormat.double : BinaryFormat := ⟨53, -1074, 1024⟩

def BinaryFormat.single : BinaryFormat := ⟨24, -149, 128⟩

inductive Binary where
  | nan
  | infinity (neg : Bool)
  | finite (neg : Bool) (sig : Nat) (exp : Int)
  deriving Repr, DecidableEq, Inhabited

def pow2 (e : Int) : Rat :=
  if 0 ≤ e then ((Nat.pow 2 e.toNat : Nat) : Rat) else 1 / ((Nat.pow 2 (-e).toNat : Nat) : Rat)

def pow10 (e : Int) : Rat :=
  decimalRat 1 e

def decimalLength (n : Nat) : Nat :=
  (Nat.toDigits 10 n).length

def floorLog2 (q : Rat) : Int :=
  let k : Int := (q.num.natAbs.log2 : Int) - (q.den.log2 : Int)
  if pow2 k ≤ q then k else k - 1

def floorLog10 (q : Rat) : Int :=
  let k : Int := (decimalLength q.num.natAbs : Int) - (decimalLength q.den : Int)
  if pow10 k ≤ q then k else k - 1

namespace Binary

/-- The value of a format nearest to `q ≥ 0`, with the sign `neg`: a tie goes to the even
significand, and anything from the largest finite value plus half a unit up is an infinity. -/
def round (f : BinaryFormat) (neg : Bool) (q : Rat) : Binary :=
  if q ≤ 0 then .finite neg 0 0
  else
    let e := max (floorLog2 q - ((f.precision : Int) - 1)) f.leastExp
    let scaled := q / pow2 e
    let t := scaled.floor.toNat
    let r := scaled - (t : Rat)
    let t := if r > 1 / 2 ∨ (r = 1 / 2 ∧ t % 2 = 1) then t + 1 else t
    let (t, e) := if t = Nat.pow 2 f.precision then (Nat.pow 2 (f.precision - 1), e + 1) else (t, e)
    if e + f.precision > f.overflowExp then .infinity neg else .finite neg t e

/-- The value of a format nearest to a numeral. Numerals far outside the format's range go
straight to an infinity or a zero, so no huge power of ten is ever formed. -/
def ofNumeral (f : BinaryFormat) : Numeral → Binary
  | .nan => .nan
  | .infinity neg => .infinity neg
  | .finite neg digits exp =>
    if digits = 0 then .finite neg 0 0
    else
      let magnitude := (decimalLength digits : Int) + exp
      if magnitude > 400 then .infinity neg
      else if magnitude < -400 then .finite neg 0 0
      else round f neg (decimalRat digits exp)

def toRat? : Binary → Option Rat
  | .finite neg sig exp => some (if neg then -((sig : Rat) * pow2 exp) else (sig : Rat) * pow2 exp)
  | _ => none

def isFinite : Binary → Bool
  | .finite .. => true
  | _ => false

/-- Reads a numeral as a 64-bit float the way a float parser does: a special word stands for its
value, and a finite numeral that rounds past the largest float is out of range. -/
def read? (s : String) : Option Binary :=
  (Numeral.read? s).bind fun n =>
    match n, ofNumeral .double n with
    | .finite .., .infinity _ => none
    | _, x => some x

/-- The significand and exponent of a positive finite value written with the most significand
bits its format allows: the significand has `precision` bits, or the exponent is the least. -/
def normalize (f : BinaryFormat) (sig : Nat) (exp : Int) : Nat × Int :=
  let room : Int := (f.precision : Int) - 1 - (sig.log2 : Int)
  let shift := min room (exp - f.leastExp)
  if 0 < shift then (sig * Nat.pow 2 shift.toNat, exp - shift) else (sig, exp)

/-- A decimal point of the grid `10^s` near `v`: `t · 10^s` with `t` the floor or the ceiling of
`v / 10^s`, the one of them inside the interval, and the nearer to `v` when both are, a tie
going to the even one. -/
def gridPoint (inside : Rat → Bool) (v : Rat) (s : Int) : Option Nat :=
  let unit := pow10 s
  let t := (v / unit).floor.toNat
  let below := inside ((t : Rat) * unit)
  let above := inside (((t + 1 : Nat) : Rat) * unit)
  if below ∧ above then
    let dBelow := v - (t : Rat) * unit
    let dAbove := ((t + 1 : Nat) : Rat) * unit - v
    if dBelow < dAbove then some t
    else if dAbove < dBelow then some (t + 1)
    else if t % 2 = 0 then some t else some (t + 1)
  else if below then some t
  else if above then some (t + 1)
  else none

def trimZeros (t : Nat) (s : Int) (fuel : Nat) : Nat × Int :=
  match fuel with
  | 0 => (t, s)
  | fuel + 1 => if t ≠ 0 ∧ t % 10 = 0 then trimZeros (t / 10) (s + 1) fuel else (t, s)

/-- The shortest decimal `t · 10^s` that reads back to the positive finite value `sig · 2^exp` of
the format `f`, with no trailing zero in `t`. -/
def shortest (f : BinaryFormat) (sig : Nat) (exp : Int) : Nat × Int :=
  let (m, e) := normalize f sig exp
  let v : Rat := (m : Rat) * pow2 e
  let lowerGap := if m = Nat.pow 2 (f.precision - 1) ∧ e > f.leastExp then pow2 (e - 2) else pow2 (e - 1)
  let lo := v - lowerGap
  let hi := v + pow2 (e - 1)
  let inside (x : Rat) : Bool := if m % 2 = 0 then lo ≤ x ∧ x ≤ hi else lo < x ∧ x < hi
  let top := floorLog10 v
  let found := (List.range 40).findSome? fun (k : Nat) =>
    (gridPoint inside v (top - k)).map (·, top - (k : Int))
  let (t, s) := found.getD ((v / pow10 (top - 40)).floor.toNat, top - 40)
  trimZeros t s (decimalLength t)

end Binary

/-- How decimal digits are set out: scientific notation for decimal exponents below `sciBelow`
or from `sciFrom` on, positional otherwise; a scientific exponent has a sign and at least
`expDigits` digits. -/
structure NumberLayout where
  sciBelow : Int
  sciFrom : Int
  expDigits : Nat

def NumberLayout.general : NumberLayout := ⟨-4, 6, 2⟩

/-- The layout of a number in a JSON document: positional from `1e-6` to below `1e21`, and a
short exponent outside (`1e-7`, `1e+21`). -/
def NumberLayout.json : NumberLayout := ⟨-6, 21, 1⟩

def padDigits (width n : Nat) : String :=
  let ds := Nat.toDigits 10 n
  String.ofList (List.replicate (width - ds.length) '0' ++ ds)

def NumberLayout.write (L : NumberLayout) (neg : Bool) (t : Nat) (s : Int) : String :=
  let ds := Nat.toDigits 10 t
  let top : Int := s + ds.length - 1
  let sign := if neg then "-" else ""
  if top < L.sciBelow ∨ L.sciFrom ≤ top then
    let mantissa := match ds with
      | [d] => String.singleton d
      | d :: rest => String.singleton d ++ "." ++ String.ofList rest
      | [] => "0"
    let expSign := if top < 0 then "-" else "+"
    sign ++ mantissa ++ "e" ++ expSign ++ padDigits L.expDigits top.natAbs
  else if top < 0 then
    sign ++ "0." ++ String.ofList (List.replicate ((-top).toNat - 1) '0') ++ String.ofList ds
  else if top + 1 ≥ ds.length then
    sign ++ String.ofList ds ++ String.ofList (List.replicate (top.toNat + 1 - ds.length) '0')
  else
    sign ++ String.ofList (ds.take (top.toNat + 1)) ++ "." ++ String.ofList (ds.drop (top.toNat + 1))

/-- The text of a value of format `f` in layout `L`: `NaN`, `+Inf`, `-Inf`, a signed zero, or the
shortest digits that read back. -/
def Binary.text (f : BinaryFormat) (L : NumberLayout) : Binary → String
  | .nan => "NaN"
  | .infinity neg => if neg then "-Inf" else "+Inf"
  | .finite neg sig exp =>
    if sig = 0 then (if neg then "-0" else "0")
    else
      let (t, s) := Binary.shortest f sig exp
      L.write neg t s

end AccessPolicy
