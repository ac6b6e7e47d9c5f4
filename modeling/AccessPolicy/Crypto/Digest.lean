import AccessPolicy.Text.Sha
/-!
# Digests a signature is made over

A signature is made over the digest of a message, under one of the hash functions MD5, SHA-1,
SHA-256, SHA-384 and SHA-512. Each is named here by its kind, with its size and, for the
signatures of PKCS #1, the DER prefix that names it inside the signed block (RFC 8017, 9.2).
-/

namespace AccessPolicy.Crypto

inductive HashKind where
  | md5
  | sha1
  | sha256
  | sha384
  | sha512
deriving DecidableEq, Repr, Inhabited

namespace HashKind

def digest : HashKind → List UInt8 → List UInt8
  | .md5 => Md5.digest
  | .sha1 => Sha.sha1
  | .sha256 => Sha.sha256
  | .sha384 => Sha.sha384
  | .sha512 => Sha.sha512

def size : HashKind → Nat
  | .md5 => 16
  | .sha1 => 20
  | .sha256 => 32
  | .sha384 => 48
  | .sha512 => 64

/-- The DER prefix of the digest inside a PKCS #1 signature block: a sequence of the hash's
algorithm identifier and the header of an octet string of the digest's size. -/
def digestInfo : HashKind → List UInt8
  | .md5 => [0x30, 0x20, 0x30, 0x0c, 0x06, 0x08, 0x2a, 0x86, 0x48, 0x86, 0xf7, 0x0d, 0x02, 0x05,
      0x05, 0x00, 0x04, 0x10]
  | .sha1 => [0x30, 0x21, 0x30, 0x09, 0x06, 0x05, 0x2b, 0x0e, 0x03, 0x02, 0x1a, 0x05, 0x00, 0x04,
      0x14]
  | .sha256 => [0x30, 0x31, 0x30, 0x0d, 0x06, 0x09, 0x60, 0x86, 0x48, 0x01, 0x65, 0x03, 0x04, 0x02,
      0x01, 0x05, 0x00, 0x04, 0x20]
  | .sha384 => [0x30, 0x41, 0x30, 0x0d, 0x06, 0x09, 0x60, 0x86, 0x48, 0x01, 0x65, 0x03, 0x04, 0x02,
      0x02, 0x05, 0x00, 0x04, 0x30]
  | .sha512 => [0x30, 0x51, 0x30, 0x0d, 0x06, 0x09, 0x60, 0x86, 0x48, 0x01, 0x65, 0x03, 0x04, 0x02,
      0x03, 0x05, 0x00, 0x04, 0x40]

end HashKind

end AccessPolicy.Crypto
