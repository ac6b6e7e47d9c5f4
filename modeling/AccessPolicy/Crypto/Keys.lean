import AccessPolicy.Crypto.Der
import AccessPolicy.Crypto.Rsa
import AccessPolicy.Crypto.Edwards
import AccessPolicy.Crypto.Curves
/-!
# Public and private keys in DER
-/

namespace AccessPolicy.Crypto

inductive PublicKey where
  | rsa (key : RsaPublic)
  | ecdsa (curve : Curve) (x y : Nat)
  | ed25519 (bytes : List UInt8)
  | x25519 (bytes : List UInt8)
  | dsa (p q g y : Nat)
deriving BEq, Inhabited

inductive PrivateKey where
  | rsa (key : RsaPrivate)
  | ecdsa (curve : Curve) (d x y : Nat)
  | ed25519 (seed pub : List UInt8)
  | x25519 (bytes : List UInt8)
deriving BEq, Inhabited

def rsaOid : List Nat := [1, 2, 840, 113549, 1, 1, 1]
def dsaOid : List Nat := [1, 2, 840, 10040, 4, 1]
def ecOid : List Nat := [1, 2, 840, 10045, 2, 1]
def ed25519Oid : List Nat := [1, 3, 101, 112]
def x25519Oid : List Nat := [1, 3, 101, 110]

/-- An algorithm identifier: the algorithm's object identifier and the bytes of its parameters
element, empty when there is none. -/
structure AlgorithmId where
  oid : List Nat
  params : List UInt8
deriving BEq, Inhabited

/-- The algorithm identifier the content of its sequence gives: an object identifier, and
perhaps one element of parameters. -/
def AlgorithmId.read? (c : List UInt8) : Option AlgorithmId := do
  let (oid, rest) ← Der.readOid? c
  if rest.isEmpty then return ⟨oid, []⟩
  let (params, _) ← Der.element? rest
  some ⟨oid, params.encoded⟩

namespace PublicKey

def isNull (bs : List UInt8) : Bool := bs == [0x05, 0x00]
def read? (alg : AlgorithmId) (bits : Der.BitString) : Option PublicKey :=
  let der := bits.rightAlign
  if alg.oid == rsaOid then do
    if !isNull alg.params then none
    let (c, _) ← Der.read? Der.sequenceTag der
    let (n, rest) ← Der.readInteger? c
    let (e, _) ← Der.readSmallInt? rest
    if n ≤ 0 ∨ e ≤ 0 then none
    some (.rsa ⟨n.toNat, e.toNat⟩)
  else if alg.oid == ecOid then do
    let (curveOid, _) ← Der.readOid? alg.params
    let curve ← Curve.ofOid? curveOid
    let (x, y) ← curve.decodePoint? der
    some (.ecdsa curve x y)
  else if alg.oid == ed25519Oid then
    if !alg.params.isEmpty ∨ der.length != 32 then none else some (.ed25519 der)
  else if alg.oid == x25519Oid then
    if !alg.params.isEmpty ∨ der.length != 32 then none else some (.x25519 der)
  else if alg.oid == dsaOid then do
    let (y, _) ← Der.readInteger? der
    let (ps, _) ← Der.read? Der.sequenceTag alg.params
    let (p, ps) ← Der.readInteger? ps
    let (q, ps) ← Der.readInteger? ps
    let (g, _) ← Der.readInteger? ps
    if y ≤ 0 ∨ p ≤ 0 ∨ q ≤ 0 ∨ g ≤ 0 then none
    some (.dsa p.toNat q.toNat g.toNat y.toNat)
  else none

def readInfo? (c : List UInt8) : Option (AlgorithmId × Der.BitString) := do
  let (ai, rest) ← Der.read? Der.sequenceTag c
  let alg ← AlgorithmId.read? ai
  let (bits, _) ← Der.readBitString? rest
  some (alg, bits)

def ofPkix? (der : List UInt8) : Option PublicKey := do
  let (c, rest) ← Der.read? Der.sequenceTag der
  if !rest.isEmpty then none
  let (alg, bits) ← readInfo? c
  read? alg bits

end PublicKey

namespace PrivateKey

def toPublic : PrivateKey → PublicKey
  | .rsa k => .rsa k.toPublic
  | .ecdsa c _ x y => .ecdsa c x y
  | .ed25519 _ pub => .ed25519 pub
  | .x25519 bytes => .x25519 bytes

/-- The optional integers at the end of a sequence, in order: each one read while an integer
comes next. -/
def optionalIntegers : Nat → List UInt8 → Option (List Int)
  | 0, _ => some []
  | fuel + 1, s =>
    if Der.peek Der.integerTag s then do
      let (v, rest) ← Der.readInteger? s
      let more ← optionalIntegers fuel rest
      some (v :: more)
    else some []

def ofPkcs1? (der : List UInt8) : Option PrivateKey := do
  let (c, rest) ← Der.read? Der.sequenceTag der
  if !rest.isEmpty then none
  let (version, c) ← Der.readSmallInt? c
  let (n, c) ← Der.readInteger? c
  let (e, c) ← Der.readSmallInt? c
  let (d, c) ← Der.readInteger? c
  let (p, c) ← Der.readInteger? c
  let (q, c) ← Der.readInteger? c
  let crt ← optionalIntegers 3 c
  if version > 1 then none
  if n ≤ 0 ∨ d ≤ 0 ∨ p ≤ 0 ∨ q ≤ 0 ∨ crt.any (· ≤ 0) then none
  if e < 0 then none
  let key := match crt with
    | [dp, dq, qinv] => ⟨n.toNat, e.toNat, d.toNat, p.toNat, q.toNat, dp.toNat, dq.toNat, qinv.toNat⟩
    | _ => RsaPrivate.ofPrimes n.toNat e.toNat d.toNat p.toNat q.toNat
  if Rsa.validPrivate key then some (.rsa key) else none

/-- The private elliptic curve key of a SEC 1 encoding, on the curve given, or else on the one
it names. -/
def ofSec1? (curve? : Option Curve) (der : List UInt8) : Option PrivateKey := do
  let (c, _) ← Der.read? Der.sequenceTag der
  let (version, c) ← Der.readSmallInt? c
  let (scalar, c) ← Der.read? Der.octetStringTag c
  let (named, _) ← Der.readOptional? (Der.contextConstructed 0) c
  if version != 1 then none
  let curve ← match curve? with
    | some curve => some curve
    | none => do
      let inner ← named
      let (oid, _) ← Der.readOid? inner
      Curve.ofOid? oid
  let d := Der.bigEndian scalar
  if d ≥ curve.n then none
  let size := curve.orderSize
  let extra := scalar.take (scalar.length - size)
  if !extra.all (· == 0) ∨ d = 0 then none
  let (x, y) ← curve.publicPoint d
  some (.ecdsa curve d x y)

def ofPkcs8? (der : List UInt8) : Option PrivateKey := do
  let (c, _) ← Der.read? Der.sequenceTag der
  let (_, c) ← Der.readSmallInt? c
  let (ai, c) ← Der.read? Der.sequenceTag c
  let alg ← AlgorithmId.read? ai
  let (inner, _) ← Der.read? Der.octetStringTag c
  if alg.oid == rsaOid then ofPkcs1? inner
  else if alg.oid == ecOid then
    let curve? := (Der.readOid? alg.params).bind fun (oid, _) => Curve.ofOid? oid
    let named := (Der.readOid? alg.params).isSome
    if named ∧ curve?.isNone then none else ofSec1? curve? inner
  else if alg.oid == ed25519Oid then do
    if !alg.params.isEmpty then none
    let (seed, _) ← Der.read? Der.octetStringTag inner
    if seed.length != 32 then none
    some (.ed25519 seed (Edwards.publicKey seed))
  else if alg.oid == x25519Oid then do
    if !alg.params.isEmpty then none
    let (bytes, _) ← Der.read? Der.octetStringTag inner
    if bytes.length != 32 then none
    some (.x25519 bytes)
  else none
def pairsWith : PrivateKey → PublicKey → Bool
  | .rsa k, .rsa pub => k.n == pub.n
  | .ecdsa _ _ x y, .ecdsa _ px py => x == px && y == py
  | .ed25519 _ pub, .ed25519 bytes => pub == bytes
  | _, _ => false

end PrivateKey

end AccessPolicy.Crypto
