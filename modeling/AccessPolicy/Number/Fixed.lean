import AccessPolicy.Number.Binary
/-!
# Numbers to a fixed precision

The decimal texts of a binary floating-point value with a chosen precision, each the exact
value rounded once, a tie going to the even neighbour:

* `scientific p`: one digit, a point and `p` digits, then `e`, a sign and at least two exponent
  digits (`1.234560e+03`);
* `positional p`: the digits before the point and `p` after it (`1234.560000`);
* `general p`: `p` significant digits (at least one) without trailing zeros, scientific when the
  exponent is below -4 or at least the precision, positional otherwise.

NaN and the infinities are written `NaN`, `+Inf` and `-Inf`.
-/

namespace AccessPolicy

def roundHalfEven (q : Rat) : Nat :=
  let fl := q.floor.toNat
  let frac := q - fl
  if frac > 1 / 2 then fl + 1
  else if frac < 1 / 2 then fl
  else if fl % 2 = 0 then fl else fl + 1

/-- The digits of a positive rational rounded to `n` significant digits, with the decimal
exponent of the first: `q ≈ d₀.d₁… · 10^e`. -/
def significantDigits (q : Rat) (n : Nat) : List Char × Int :=
  let e := floorLog10 q
  let m := roundHalfEven (q / pow10 (e - n + 1))
  let (m, e) := if m ≥ Nat.pow 10 n then (m / 10, e + 1) else (m, e)
  let ds := Nat.toDigits 10 m
  (List.replicate (n - ds.length) '0' ++ ds, e)
def trimTrailingZeros (ds : List Char) : List Char :=
  match (ds.reverse.dropWhile (· = '0')).reverse with
  | [] => ['0']
  | r => r

def exponentText (mark : Char) (e : Int) : String :=
  String.singleton mark ++ (if e < 0 then "-" else "+") ++ padDigits 2 e.natAbs

def scientificOf (mark : Char) (q : Rat) (p : Nat) : String :=
  let (ds, e) := if q = 0 then (List.replicate (p + 1) '0', (0 : Int)) else significantDigits q (p + 1)
  let head := String.singleton (ds.headD '0')
  let tail := String.ofList (ds.drop 1)
  (if p = 0 then head else head ++ "." ++ tail) ++ exponentText mark e

def positionalOf (q : Rat) (p : Nat) : String :=
  let m := roundHalfEven (q * pow10 p)
  let ds := Nat.toDigits 10 m
  let ds := List.replicate (p + 1 - ds.length) '0' ++ ds
  let whole := String.ofList (ds.take (ds.length - p))
  if p = 0 then whole else whole ++ "." ++ String.ofList (ds.drop (ds.length - p))

/-- General text of a non-negative rational with `p` significant digits; with `keepZeros`
trailing zeros are kept and the point always shown. -/
def generalOf (mark : Char) (q : Rat) (p : Nat) (keepZeros : Bool) : String :=
  let p := if p = 0 then 1 else p
  let (ds, e) := if q = 0 then (List.replicate p '0', (0 : Int)) else significantDigits q p
  let ds := if keepZeros then ds else trimTrailingZeros ds
  let nd := ds.length
  let dp := e + 1
  let eprec : Int := if (p : Int) > nd ∧ (nd : Int) ≥ dp then nd else p
  if e < -4 ∨ e ≥ eprec then
    let head := String.singleton (ds.headD '0')
    let tail := String.ofList (ds.drop 1)
    (if tail.isEmpty ∧ !keepZeros then head else head ++ "." ++ tail) ++ exponentText mark e
  else
    let decimals := if dp ≥ nd then 0 else (nd - dp).toNat
    let text := positionalOf (q.abs) decimals
    if keepZeros ∧ decimals = 0 then text ++ "." else text

def Binary.magnitude : Binary → Option (Bool × Rat)
  | .finite neg sig exp => some (neg, (sig : Rat) * pow2 exp)
  | _ => none

def Binary.specialText : Binary → String
  | .nan => "NaN"
  | .infinity neg => if neg then "-Inf" else "+Inf"
  | .finite .. => ""

end AccessPolicy
