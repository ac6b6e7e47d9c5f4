import AccessPolicy.Crypto.Der
/-!
# Arithmetic modulo a number

Public-key signatures work with numbers of a few hundred to a few thousand bits, modulo a
prime or a product of two. Powers are taken by squaring and multiplying over the bits of the
exponent, low bit first; inverses modulo a prime `p` are the power `p - 2` (Fermat), since every
modulus whose inverses are needed here is prime.
-/

namespace AccessPolicy.Modular

/-- `a ^ n % m` by square-and-multiply over the `bits` low bits of `n`; exact when
`n < 2 ^ bits`. -/
def powMod (m : Nat) : Nat → Nat → Nat → Nat
  | 0, _, _ => 1 % m
  | bits + 1, a, n =>
    let r := powMod m bits (a * a % m) (n / 2)
    if n % 2 = 1 then r * a % m else r
def bitLength (n : Nat) : Nat := if n = 0 then 0 else Nat.log2 n + 1

def power (a n m : Nat) : Nat := powMod m (bitLength n) (a % m) n

def inverse (a p : Nat) : Nat := power a (p - 2) p

def sub (a b m : Nat) : Nat := (a + m - b % m) % m

def littleEndian (bs : List UInt8) : Nat := Der.bigEndian bs.reverse

def bytesLittle (n value : Nat) : List UInt8 := (Der.bytesOfNat n value).reverse

end AccessPolicy.Modular
