import AccessPolicy.Crypto.Modular
import AccessPolicy.Crypto.Digest
/-!
# RSA signatures

An RSA key is a modulus `n`, the product of two primes `p` and `q`, a public exponent `e`, and
a private exponent `d` with `e·d ≡ 1` modulo `p - 1` and `q - 1`. A signature is a number below
`n`, written in as many bytes as `n` takes (its size `k`); signing raises an encoded block to the
power `d`, and checking raises the signature to the power `e` and compares the result with the
block the digest should give.
-/

namespace AccessPolicy.Crypto

structure RsaPublic where
  n : Nat
  e : Nat
deriving BEq, Inhabited

/-- A private RSA key of two primes, with the exponents and the coefficient that let it be used
by the Chinese remainder theorem. -/
structure RsaPrivate where
  n : Nat
  e : Nat
  d : Nat
  p : Nat
  q : Nat
  dp : Nat
  dq : Nat
  qinv : Nat
deriving BEq, Inhabited

namespace RsaPrivate

def toPublic (k : RsaPrivate) : RsaPublic := ⟨k.n, k.e⟩

/-- A private key from its modulus, exponents and primes, with the values for the Chinese
remainder theorem worked out. -/
def ofPrimes (n e d p q : Nat) : RsaPrivate :=
  ⟨n, e, d, p, q, d % (p - 1), d % (q - 1), Modular.inverse q p⟩

end RsaPrivate

namespace Rsa

def size (n : Nat) : Nat := (Modular.bitLength n + 7) / 8

/-- Whether the exponent and the modulus of a key are sound: an odd modulus, and an odd
exponent from 3 up to `2^31 - 1`. -/
def soundPublic (k : RsaPublic) : Bool :=
  k.n % 2 == 1 && k.e ≥ 2 && k.e % 2 == 1 && k.e < Nat.pow 2 31

/-- Whether a public key may be used to check a signature: sound, with a modulus of at least
1024 bits. -/
def usablePublic (k : RsaPublic) : Bool :=
  soundPublic k && Modular.bitLength k.n ≥ 1024

def validPrivate (k : RsaPrivate) : Bool :=
  let half : Int := (Modular.bitLength k.n / 2 : Nat)
  let gap : Nat := if k.p ≥ k.q then k.p - k.q else k.q - k.p
  soundPublic k.toPublic && k.p > 2 && k.q > 2 && k.p * k.q == k.n && k.d < k.n &&
    k.dp < k.p - 1 && k.e * k.dp % (k.p - 1) == 1 &&
    k.dq < k.q - 1 && k.e * k.dq % (k.q - 1) == 1 &&
    k.qinv < k.p && k.q * k.qinv % k.p == 1 &&
    k.p != k.q && ((Modular.bitLength gap : Nat) : Int) > half - 100 &&
    Modular.bitLength k.d > Modular.bitLength k.n / 2

def usablePrivate (k : RsaPrivate) : Bool :=
  validPrivate k && Modular.bitLength k.n ≥ 1024

def pkcs1Block (k : Nat) (hash : HashKind) (digest : List UInt8) : Option (List UInt8) :=
  let t := hash.digestInfo ++ digest
  if k < t.length + 11 then none
  else some ([0x00, 0x01] ++ List.replicate (k - t.length - 3) 0xff ++ [0x00] ++ t)

/-- The private operation on a block: the block as a number raised to the power `d`, in `k`
bytes. -/
def privateOp (key : RsaPrivate) (block : List UInt8) : List UInt8 :=
  Der.bytesOfNat (size key.n) (Modular.power (Der.bigEndian block) key.d key.n)

/-- The public operation on a signature, in `k` bytes; none when the signature is not `k` bytes
long or is not below the modulus. -/
def publicOp (key : RsaPublic) (sig : List UInt8) : Option (List UInt8) :=
  let s := Der.bigEndian sig
  if sig.length != size key.n || s ≥ key.n then none
  else some (Der.bytesOfNat (size key.n) (Modular.power s key.e key.n))

def signPkcs1 (key : RsaPrivate) (hash : HashKind) (digest : List UInt8) :
    Option (List UInt8) := do
  if !usablePrivate key then none
  let block ← pkcs1Block (size key.n) hash digest
  some (privateOp key block)

def verifyPkcs1 (key : RsaPublic) (hash : HashKind) (digest sig : List UInt8) : Bool :=
  usablePublic key &&
    match publicOp key sig, pkcs1Block (size key.n) hash digest with
    | some block, some expected => block == expected
    | _, _ => false

/-- The mask of `len` bytes that MGF1 draws from a seed: the digests of the seed followed by a
four-byte counter from zero, one after another. -/
def mgf1 (hash : HashKind) (seed : List UInt8) (len : Nat) : List UInt8 :=
  ((List.range (len / hash.size + 1)).flatMap fun i =>
    hash.digest (seed ++ Der.bytesOfNat 4 i)).take len

def xorBytes (a b : List UInt8) : List UInt8 := (a.zip b).map fun (x, y) => x ^^^ y

def clearTop (emLen emBits : Nat) : List UInt8 → List UInt8
  | [] => []
  | b :: rest => (b &&& ((0xff : UInt8) >>> (8 * emLen - emBits).toUInt8)) :: rest

def pssBlock (hash : HashKind) (emBits : Nat) (digest salt : List UInt8) : Option (List UInt8) :=
  let emLen := (emBits + 7) / 8
  let hLen := hash.size
  if emLen < hLen + salt.length + 2 then none
  else
    let h := hash.digest (List.replicate 8 0 ++ digest ++ salt)
    let db := List.replicate (emLen - salt.length - hLen - 2) 0 ++ [0x01] ++ salt
    let masked := clearTop emLen emBits (xorBytes db (mgf1 hash h (emLen - hLen - 1)))
    some (masked ++ h ++ [0xbc])

def signPss (key : RsaPrivate) (hash : HashKind) (digest : List UInt8) : Option (List UInt8) := do
  if !usablePrivate key then none
  let emBits := Modular.bitLength key.n - 1
  let block ← pssBlock hash emBits digest (List.replicate hash.size 0)
  some (privateOp key (List.replicate (size key.n - block.length) 0 ++ block))

/-- Whether a PSS block holds a digest, with a salt of the given length, or of the length the
position of its `01` gives. -/
def pssHolds (hash : HashKind) (emBits : Nat) (digest em : List UInt8) (saltLength : Option Nat) :
    Bool :=
  let emLen := (emBits + 7) / 8
  let hLen := hash.size
  let minimum := hLen + saltLength.getD 0 + 2 - (if saltLength.isNone then 1 else 0)
  if em.length != emLen || digest.length != hLen || emLen < minimum then false
  else if em.getLast? != some 0xbc then false
  else if em.head?.any (fun b => b &&& ~~~((0xff : UInt8) >>> (8 * emLen - emBits).toUInt8) ≠ 0)
  then false
  else
    let masked := em.take (emLen - hLen - 1)
    let h := (em.drop (emLen - hLen - 1)).take hLen
    let db := clearTop emLen emBits (xorBytes masked (mgf1 hash h masked.length))
    let sLen? := match saltLength with
      | some s => some s
      | none => (db.idxOf? 0x01).map fun i => db.length - i - 1
    match sLen? with
    | none => false
    | some sLen =>
      if emLen < hLen + sLen + 2 then false
      else
        let psLen := emLen - hLen - sLen - 2
        (db.take psLen).all (· == 0) && db[psLen]? == some 0x01 &&
          hash.digest (List.replicate 8 0 ++ digest ++ db.drop (db.length - sLen)) == h

/-- Whether a signature is a PSS signature of a digest; the salt's length is found from the
block when it is not given. -/
def verifyPss (key : RsaPublic) (hash : HashKind) (digest sig : List UInt8)
    (saltLength : Option Nat) : Bool :=
  usablePublic key &&
    match publicOp key sig with
    | none => false
    | some em =>
      let emBits := Modular.bitLength key.n - 1
      let emLen := (emBits + 7) / 8
      let extra := em.take (em.length - emLen)
      extra.all (· == 0) && pssHolds hash emBits digest (em.drop (em.length - emLen)) saltLength

end Rsa

end AccessPolicy.Crypto
