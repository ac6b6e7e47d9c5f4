import AccessPolicy.Rego.Builtin
import AccessPolicy.Text.Sha
/-!
# The digest built-ins

`crypto.md5`, `crypto.sha1` and `crypto.sha256` give the digest of a string's UTF-8 bytes, and
`crypto.hmac.md5`, `crypto.hmac.sha1`, `crypto.hmac.sha256` and `crypto.hmac.sha512` the keyed
digest of a message under a key, all as lower-case hexadecimal text. `crypto.hmac.equal`
compares two digests as byte strings.
-/

namespace AccessPolicy.Rego

namespace Digests
def keyed (digest : List UInt8 → List UInt8) (block : Nat) (msg key : String) : Datum :=
  .string (Sha.hexText (Sha.hmac digest block (Utf8.bytesOf key) (Utf8.bytesOf msg)))

/-- The value of a call of a digest built-in; none when the call fails or the function is not
one of these. -/
def apply (name : String) (args : List Datum) : Option Datum :=
  match name, args with
  | "crypto.md5", [.string s] => some (.string (Md5.hexDigest (Utf8.bytesOf s)))
  | "crypto.sha1", [.string s] => some (.string (Sha.hexText (Sha.sha1 (Utf8.bytesOf s))))
  | "crypto.sha256", [.string s] => some (.string (Sha.hexText (Sha.sha256 (Utf8.bytesOf s))))
  | "crypto.hmac.md5", [.string m, .string k] => some (keyed Md5.digest 64 m k)
  | "crypto.hmac.sha1", [.string m, .string k] => some (keyed Sha.sha1 64 m k)
  | "crypto.hmac.sha256", [.string m, .string k] => some (keyed Sha.sha256 64 m k)
  | "crypto.hmac.sha512", [.string m, .string k] => some (keyed Sha.sha512 128 m k)
  | "crypto.hmac.equal", [.string a, .string b] => some (.bool (Utf8.bytesOf a == Utf8.bytesOf b))
  | _, _ => none

end Digests

end AccessPolicy.Rego
