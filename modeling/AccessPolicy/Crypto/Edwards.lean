import AccessPolicy.Crypto.Modular
import AccessPolicy.Text.Sha
/-!
# Ed25519 signatures

Ed25519 (RFC 8032) signs over the twisted Edwards curve `-x² + y² = 1 + d·x²·y²` modulo the
prime `p = 2^255 - 19`, with `d = -121665/121666`. Points are added by the unified formula in
extended coordinates `(X : Y : Z : T)` with `x = X/Z`, `y = Y/Z` and `x·y = T/Z`, which holds
for every pair of points of this curve, doubling included. The base point `B` has `y = 4/5` and
an even `x`, and generates a group of prime order `L = 2^252 + 27742317777372353535851937790883648493`.
-/

namespace AccessPolicy.Edwards

open Modular

def prime : Nat := Nat.pow 2 255 - 19

def order : Nat := Nat.pow 2 252 + 27742317777372353535851937790883648493

def curveD : Nat := (prime - 121665) * inverse 121666 prime % prime

def sqrtMinusOne : Nat := power 2 ((prime - 1) / 4) prime

structure Point where
  x : Nat
  y : Nat
  z : Nat
  t : Nat
deriving Inhabited

def Point.zero : Point := ⟨0, 1, 1, 0⟩

def fe (n : Nat) : Nat := n % prime

def Point.add (a b : Point) : Point :=
  let p := prime
  let m := fe ((sub a.y a.x p) * (sub b.y b.x p))
  let n := fe ((a.y + a.x) * (b.y + b.x))
  let c := fe (a.t * 2 * curveD % p * b.t)
  let dd := fe (a.z * 2 * b.z)
  let e := sub n m p
  let f := sub dd c p
  let g := fe (dd + c)
  let h := fe (n + m)
  ⟨fe (e * f), fe (g * h), fe (f * g), fe (e * h)⟩

def Point.neg (a : Point) : Point := ⟨sub 0 a.x prime, a.y, a.z, sub 0 a.t prime⟩

def Point.mul : Nat → Nat → Point → Point
  | 0, _, _ => Point.zero
  | bits + 1, k, a =>
    let r := Point.mul bits (k / 2) (a.add a)
    if k % 2 = 1 then r.add a else r

def Point.encode (a : Point) : List UInt8 :=
  let zi := inverse a.z prime
  let x := fe (a.x * zi)
  let y := fe (a.y * zi)
  bytesLittle 32 (y + (x % 2) * Nat.pow 2 255)

def sqrtRatio? (u v : Nat) : Option Nat :=
  let p := prime
  let v3 := fe (fe (v * v) * v)
  let v7 := fe (fe (v3 * v3) * v)
  let r := fe (fe (u * v3) * power (fe (u * v7)) ((p - 5) / 8) p)
  let check := fe (v * fe (r * r))
  let negU := sub 0 u p
  let r := if check = negU ∨ check = fe (negU * sqrtMinusOne) then fe (r * sqrtMinusOne) else r
  let r := if r % 2 = 1 then sub 0 r p else r
  if check = fe u ∨ check = negU then some r else none

def pointOfY? (y : Nat) (odd : Bool) : Option Point := do
  let y := fe y
  let yy := fe (y * y)
  let x ← sqrtRatio? (sub yy 1 prime) (fe (curveD * yy + 1))
  let x := if odd then sub 0 x prime else x
  some ⟨x, y, 1, fe (x * y)⟩

def Point.decode? (bs : List UInt8) : Option Point :=
  if bs.length != 32 then none
  else
    let n := littleEndian bs
    pointOfY? (n % Nat.pow 2 255) (n / Nat.pow 2 255 = 1)

def base : Point := (pointOfY? (4 * inverse 5 prime) false).getD Point.zero

def scalarOf (bs : List UInt8) : Nat := littleEndian bs % order
def expand (seed : List UInt8) : Nat × List UInt8 :=
  let h := Sha.sha512 seed
  let a := littleEndian (h.take 32)
  let a := a - a % 8
  let a := a % Nat.pow 2 255
  let a := if a / Nat.pow 2 254 % 2 = 1 then a else a + Nat.pow 2 254
  (a, h.drop 32)

def publicKey (seed : List UInt8) : List UInt8 := (base.mul 256 (expand seed).1).encode

def sign (seed pub msg : List UInt8) : List UInt8 :=
  let (a, nonceKey) := expand seed
  let r := scalarOf (Sha.sha512 (nonceKey ++ msg))
  let rBytes := (base.mul 256 r).encode
  let k := scalarOf (Sha.sha512 (rBytes ++ pub ++ msg))
  rBytes ++ bytesLittle 32 ((r + k * (a % order)) % order)

def verify (pub msg sig : List UInt8) : Bool :=
  sig.length == 64 && sig.getLast?.any (fun b => b &&& 224 == 0) &&
    match Point.decode? pub with
    | none => false
    | some a =>
      let s := littleEndian (sig.drop 32)
      let k := scalarOf (Sha.sha512 (sig.take 32 ++ pub ++ msg))
      s < order && ((base.mul 256 s).add (a.neg.mul 256 k)).encode == sig.take 32

end AccessPolicy.Edwards
