import AccessPolicy.Crypto.Modular
import AccessPolicy.Crypto.Digest
/-!
# ECDSA over the NIST prime curves

The curves P-224, P-256, P-384 and P-521 of FIPS 186 are `y² = x³ - 3x + b` modulo a prime
`p`, with a base point `G` of prime order `n`. Points are added in Jacobian coordinates
`(X : Y : Z)`, standing for `(X/Z², Y/Z³)`, and `Z = 0` is the point at infinity.
-/

namespace AccessPolicy.Crypto

structure Curve where
  name : String
  p : Nat
  b : Nat
  n : Nat
  gx : Nat
  gy : Nat
  bitSize : Nat
  oid : List Nat
deriving BEq, Inhabited

namespace Curve

def p224 : Curve :=
  ⟨"P-224", 0xffffffffffffffffffffffffffffffff000000000000000000000001,
   0xb4050a850c04b3abf54132565044b0b7d7bfd8ba270b39432355ffb4,
   0xffffffffffffffffffffffffffff16a2e0b8f03e13dd29455c5c2a3d,
   0xb70e0cbd6bb4bf7f321390b94a03c1d356c21122343280d6115c1d21,
   0xbd376388b5f723fb4c22dfe6cd4375a05a07476444d5819985007e34, 224, [1, 3, 132, 0, 33]⟩

def p256 : Curve :=
  ⟨"P-256", 0xffffffff00000001000000000000000000000000ffffffffffffffffffffffff,
   0x5ac635d8aa3a93e7b3ebbd55769886bc651d06b0cc53b0f63bce3c3e27d2604b,
   0xffffffff00000000ffffffffffffffffbce6faada7179e84f3b9cac2fc632551,
   0x6b17d1f2e12c4247f8bce6e563a440f277037d812deb33a0f4a13945d898c296,
   0x4fe342e2fe1a7f9b8ee7eb4a7c0f9e162bce33576b315ececbb6406837bf51f5, 256,
   [1, 2, 840, 10045, 3, 1, 7]⟩

def p384 : Curve :=
  ⟨"P-384",
   0xfffffffffffffffffffffffffffffffffffffffffffffffffffffffffffffffeffffffff0000000000000000ffffffff,
   0xb3312fa7e23ee7e4988e056be3f82d19181d9c6efe8141120314088f5013875ac656398d8a2ed19d2a85c8edd3ec2aef,
   0xffffffffffffffffffffffffffffffffffffffffffffffffc7634d81f4372ddf581a0db248b0a77aecec196accc52973,
   0xaa87ca22be8b05378eb1c71ef320ad746e1d3b628ba79b9859f741e082542a385502f25dbf55296c3a545e3872760ab7,
   0x3617de4a96262c6f5d9e98bf9292dc29f8f41dbd289a147ce9da3113b5f0b8c00a60b1ce1d7e819d7a431d7c90ea0e5f,
   384, [1, 3, 132, 0, 34]⟩

def p521 : Curve :=
  ⟨"P-521", Nat.pow 2 521 - 1,
   0x0051953eb9618e1c9a1f929a21a0b68540eea2da725b99b315f3b8b489918ef109e156193951ec7e937b1652c0bd3bb1bf073573df883d2c34f1ef451fd46b503f00,
   0x01fffffffffffffffffffffffffffffffffffffffffffffffffffffffffffffffffa51868783bf2f966b7fcc0148f709a5d03bb5c9b8899c47aebb6fb71e91386409,
   0x00c6858e06b70404e9cd9e3ecb662395b4429c648139053fb521f828af606b4d3dbaa14b5e77efe75928fe1dc127a2ffa8de3348b3c1856a429bf97e7e31c2e5bd66,
   0x011839296a789a3bc0045c8a5fb42c7d1bd998f54449579b446817afbd17273e662c97ee72995ef42640c550b9013fad0761353c7086a272c24088be94769fd16650,
   521, [1, 3, 132, 0, 35]⟩

def known : List Curve := [p224, p256, p384, p521]

def ofOid? (oid : List Nat) : Option Curve := known.find? (·.oid == oid)

def ofName? (name : String) : Option Curve := known.find? (·.name == name)

def byteSize (c : Curve) : Nat := (c.bitSize + 7) / 8
def orderSize (c : Curve) : Nat := (Modular.bitLength c.n + 7) / 8

def onCurve (c : Curve) (x y : Nat) : Bool :=
  x < c.p && y < c.p && (y * y) % c.p == (x * x % c.p * x + c.b + 3 * (c.p - x)) % c.p

structure Point where
  x : Nat
  y : Nat
  z : Nat
deriving Inhabited

def infinity : Point := ⟨1, 1, 0⟩

def affine (x y : Nat) : Point := ⟨x, y, 1⟩

def double (c : Curve) (a : Point) : Point :=
  let p := c.p
  if a.z = 0 ∨ a.y = 0 then infinity
  else
    let yy := a.y * a.y % p
    let s := 4 * a.x % p * yy % p
    let zz := a.z * a.z % p
    let m := (3 * a.x % p * a.x + 3 * (p - zz * zz % p)) % p
    let x := Modular.sub (m * m % p) (2 * s) p
    let y := Modular.sub (m * Modular.sub s x p % p) (8 * (yy * yy % p)) p
    ⟨x, y, 2 * a.y % p * a.z % p⟩

def add (c : Curve) (a b : Point) : Point :=
  let p := c.p
  if a.z = 0 then b
  else if b.z = 0 then a
  else
    let z1z1 := a.z * a.z % p
    let z2z2 := b.z * b.z % p
    let u1 := a.x * z2z2 % p
    let u2 := b.x * z1z1 % p
    let s1 := a.y * (z2z2 * b.z % p) % p
    let s2 := b.y * (z1z1 * a.z % p) % p
    if u1 = u2 then (if s1 = s2 then double c a else infinity)
    else
      let h := Modular.sub u2 u1 p
      let r := Modular.sub s2 s1 p
      let hh := h * h % p
      let hhh := hh * h % p
      let x := Modular.sub (Modular.sub (r * r % p) hhh p) (2 * (u1 * hh % p)) p
      let y := Modular.sub (r * Modular.sub (u1 * hh % p) x p % p) (s1 * hhh % p) p
      ⟨x, y, h * a.z % p * b.z % p⟩

def mul (c : Curve) : Nat → Nat → Point → Point
  | 0, _, _ => infinity
  | bits + 1, k, a =>
    let r := mul c bits (k / 2) (double c a)
    if k % 2 = 1 then add c r a else r
def toAffine (c : Curve) (a : Point) : Option (Nat × Nat) :=
  if a.z = 0 then none
  else
    let zi := Modular.inverse a.z c.p
    let zi2 := zi * zi % c.p
    some (a.x * zi2 % c.p, a.y * (zi2 * zi % c.p) % c.p)

def baseMul (c : Curve) (k : Nat) : Point := mul c (Modular.bitLength k) k (affine c.gx c.gy)

def decodePoint? (c : Curve) (bs : List UInt8) : Option (Nat × Nat) :=
  match bs with
  | 0x04 :: rest =>
    if rest.length != 2 * c.byteSize then none
    else
      let x := Der.bigEndian (rest.take c.byteSize)
      let y := Der.bigEndian (rest.drop c.byteSize)
      if c.onCurve x y then some (x, y) else none
  | _ => none

def encodePoint (c : Curve) (x y : Nat) : List UInt8 :=
  [0x04] ++ Der.bytesOfNat c.byteSize x ++ Der.bytesOfNat c.byteSize y

def digestNumber (c : Curve) (digest : List UInt8) : Nat :=
  let size := c.orderSize
  let value := if digest.length ≥ size then
      Der.bigEndian (digest.take size) / Nat.pow 2 (size * 8 - Modular.bitLength c.n)
    else Der.bigEndian digest
  value % c.n

def verify (c : Curve) (qx qy : Nat) (digest : List UInt8) (r s : Nat) : Bool :=
  0 < r && r < c.n && 0 < s && s < c.n &&
    let w := Modular.inverse s c.n
    let u1 := digestNumber c digest * w % c.n
    let u2 := r * w % c.n
    let sum := add c (baseMul c u1) (mul c (Modular.bitLength u2) u2 (affine qx qy))
    match toAffine c sum with
    | some (x, _) => x % c.n == r
    | none => false

def publicPoint (c : Curve) (d : Nat) : Option (Nat × Nat) := toAffine c (baseMul c d)

/-- A signature `(r, s)` of a digest under a private scalar, the nonce drawn from the digest of
the scalar, the digest and a counter; a draw that gives a zero `r` or `s` is followed by the
next. -/
def sign (c : Curve) (d : Nat) (digest : List UInt8) : Option (Nat × Nat) :=
  go 8 0
where
  go : Nat → Nat → Option (Nat × Nat)
    | 0, _ => none
    | fuel + 1, i =>
      let seed := Der.bytesOfNat c.orderSize d ++ digest ++ Der.bytesOfNat 4 i
      let k := Der.bigEndian (Sha.sha512 seed ++ Sha.sha512 (seed ++ [1])) % (c.n - 1) + 1
      match toAffine c (baseMul c k) with
      | none => go fuel (i + 1)
      | some (x, _) =>
        let r := x % c.n
        let s := Modular.inverse k c.n * ((digestNumber c digest + r * d) % c.n) % c.n
        if r = 0 ∨ s = 0 then go fuel (i + 1) else some (r, s)

end Curve

end AccessPolicy.Crypto
