import AccessPolicy.Rego.WebKeys
import AccessPolicy.Crypto.Certificate
import AccessPolicy.Crypto.Pem
import AccessPolicy.Text.Hex
/-!
# JSON web tokens
-/

namespace AccessPolicy.Rego

namespace Jwt

open Crypto

structure Token where
  header : String
  payload : String
  signature : String
def Token.read? (s : String) : Option Token :=
  match s.splitOn "." with
  | [h, p, g] => some ⟨h, p, g⟩
  | _ => none

def Token.signed (t : Token) : List UInt8 := Utf8.encode (t.header ++ "." ++ t.payload)

def textOf (bs : List UInt8) : String := String.ofList (Utf8.decode bs)

def jsonObject? (s : String) : Option (List (Datum × Datum)) :=
  match Json.read s with
  | .ok j =>
    match Builtin.Datum.ofJson j with
    | .object ps => some ps
    | _ => none
  | .error _ => none

/-- The string a field of an object holds: empty when the field is missing or `null`, none
when it holds anything but a string. -/
def textField? (ps : List (Datum × Datum)) (name : String) : Option String :=
  match Datum.lookup (.string name) ps with
  | none | some .null => some ""
  | some (.string s) => some s
  | some _ => none

def Token.headerPairs? (t : Token) : Option (List (Datum × Datum)) := do
  let header ← jsonObject? (textOf (← base64UrlBytes? t.header))
  if (Datum.lookup (.string "enc") header).isSome then none
  some header

/-- A token decoded into its header, its payload and its signature in hexadecimal. -/
def decode : Nat → String → Option Datum
  | 0, _ => none
  | fuel + 1, s => do
    let t ← Token.read? s
    let header ← t.headerPairs?
    let payload := textOf (← base64UrlBytes? t.payload)
    if (Datum.lookup (.string "cty") header).any (·.same (.string "JWT")) then
      let quotes := "\"'".toList
      decode fuel (String.ofList (trimStart quotes (trimStart quotes payload.toList).reverse).reverse)
    else
      let body ← jsonObject? payload
      let signature ← base64UrlBytes? t.signature
      some (.array [.object header, .object body, .string (Hex.encode signature)])

inductive Algorithm where
  | hmac (hash : HashKind)
  | rsa (hash : HashKind)
  | pss (hash : HashKind)
  | ecdsa (hash : HashKind)
  | eddsa

namespace Algorithm

def ofName? : String → Option Algorithm
  | "HS256" => some (.hmac .sha256)
  | "HS384" => some (.hmac .sha384)
  | "HS512" => some (.hmac .sha512)
  | "RS256" => some (.rsa .sha256)
  | "RS384" => some (.rsa .sha384)
  | "RS512" => some (.rsa .sha512)
  | "PS256" => some (.pss .sha256)
  | "PS384" => some (.pss .sha384)
  | "PS512" => some (.pss .sha512)
  | "ES256" => some (.ecdsa .sha256)
  | "ES384" => some (.ecdsa .sha384)
  | "ES512" => some (.ecdsa .sha512)
  | "EdDSA" => some .eddsa
  | _ => none

def keyed (hash : HashKind) (secret msg : List UInt8) : List UInt8 :=
  Sha.hmac hash.digest (if hash == .sha256 then 64 else 128) secret msg
def verifies : Algorithm → KeyMaterial → List UInt8 → List UInt8 → Bool
  | .hmac h, .secret s, msg, sig => keyed h s msg == sig
  | .rsa h, .publicKey (.rsa k), msg, sig => Rsa.verifyPkcs1 k h (h.digest msg) sig
  | .pss h, .publicKey (.rsa k), msg, sig => Rsa.verifyPss k h (h.digest msg) sig none
  | .ecdsa h, .publicKey (.ecdsa c x y), msg, sig =>
    let half := sig.length / 2
    c.verify x y (h.digest msg) (Der.bigEndian (sig.take half)) (Der.bigEndian (sig.drop half))
  | .eddsa, .publicKey (.ed25519 pub), msg, sig => pub.length == 32 && Edwards.verify pub msg sig
  | _, _, _, _ => false

def sign : Algorithm → KeyMaterial → List UInt8 → Option (List UInt8)
  | .hmac h, .secret s, msg => if s.isEmpty then none else some (keyed h s msg)
  | .rsa h, .privateKey (.rsa k), msg => Rsa.signPkcs1 k h (h.digest msg)
  | .pss h, .privateKey (.rsa k), msg => Rsa.signPss k h (h.digest msg)
  | .ecdsa h, .privateKey (.ecdsa c d _ _), msg =>
    (c.sign d (h.digest msg)).map fun (r, s) =>
      Der.bytesOfNat c.byteSize r ++ Der.bytesOfNat c.byteSize s
  | .eddsa, .privateKey (.ed25519 seed pub), msg => some (Edwards.sign seed pub msg)
  | _, _, _ => none

end Algorithm

/-- A token signed under a key: the header and the payload as written, and the signature the
header's algorithm makes of the two under the first key given. -/
def signRaw (header payload jwk : String) : Option String := do
  let keys ← WebKey.readSet? jwk
  let key ← keys.head?
  let fields ← jsonObject? header
  let alg ← textField? fields "alg"
  let typ ← textField? fields "typ"
  let algorithm ← Algorithm.ofName? alg
  if (typ == "" || typ == "JWT") && !(Json.read payload).toBool then none
  let input := base64UrlText (Utf8.encode header) ++ "." ++ base64UrlText (Utf8.encode payload)
  let signature ← algorithm.sign key.material (Utf8.encode input)
  some (input ++ "." ++ base64UrlText signature)

def verify (digest : List UInt8 → List UInt8 → List UInt8) (token secret : String) :
    Option Datum := do
  let t ← Token.read? token
  let expected := digest (Utf8.encode secret) t.signed
  let signature ← base64UrlBytes? t.signature
  some (.bool (signature == expected))

structure Header where
  alg : String := ""
  kid : String := ""
  cty : String := ""
  crit : List String := []
  unknown : List String := []

/-- The header fields of a header's pairs: `alg`, `kid`, `typ` and `cty` must be strings, and
`crit` a non-empty array of strings. -/
def Header.read? (ps : List (Datum × Datum)) : Option Header :=
  ps.foldlM (fun (h : Header) (kv : Datum × Datum) =>
    match kv with
    | (.string "alg", .string v) => some { h with alg := v }
    | (.string "kid", .string v) => some { h with kid := v }
    | (.string "typ", .string _) => some h
    | (.string "cty", .string v) => some { h with cty := v }
    | (.string "crit", .array items@(_ :: _)) => do
      let names ← stringsOf items
      some { h with crit := names }
    | (.string k, _) =>
      if ["alg", "kid", "typ", "cty", "crit"].contains k then none
      else some { h with unknown := h.unknown ++ [k] }
    | _ => some h) {}

/-- Whether a header may be verified: it names an algorithm, and marks as critical no field that
is not understood. -/
def Header.valid (h : Header) : Bool := h.alg != "" && !h.unknown.any h.crit.contains

def unusableKey : WebKey := ⟨.secret [], "none", "\x00"⟩

/-- The keys a text gives to check tokens with: the public key of one PEM block with nothing
after it (a certificate or a public key), or else a JSON web key or key set. -/
def verificationKeys? (text : String) : Option (List WebKey) :=
  match Pem.decode? (Utf8.bytesOf text) with
  | some (block, rest) =>
    if !rest.isEmpty then none
    else if block.kind == "CERTIFICATE" then do
      let cert ← X509.readCertificate1? block.bytes
      match cert.publicKey with
      | some k => some [{ material := .publicKey k }]
      | none => some [unusableKey]
    else if block.kind == "PUBLIC KEY" then do
      let k ← PublicKey.ofPkix? block.bytes
      some [{ material := .publicKey k }]
    else none
  | none => WebKey.readSet? text

/-- Whether a signature checks under a set of keys: under the key whose `kid` is the header's
when there is one, else under one of the keys whose `alg` is missing or the header's. -/
def checksUnder (algorithm : Algorithm) (keys : List WebKey) (h : Header)
    (msg sig : List UInt8) : Bool :=
  match (if h.kid == "" then none else keys.find? (·.kid == h.kid)) with
  | some k => algorithm.verifies k.material msg sig
  | none => keys.any fun k => (k.alg == "" || k.alg == h.alg) && algorithm.verifies k.material msg sig

def verifyUnder (algorithm : Algorithm) (token keyText : String) : Option Datum := do
  let t ← Token.read? token
  let keys ← verificationKeys? keyText
  let signature ← base64UrlBytes? t.signature
  let h ← Header.read? (← t.headerPairs?)
  some (.bool (checksUnder algorithm keys h t.signed signature))

structure Constraints where
  secret : String := ""
  keys : Option (List WebKey) := none
  alg : String := ""
  iss : String := ""
  aud : String := ""
  time : Option Rat := none

/-- The constraints an object gives; a known key of the wrong kind, an unknown key, or keys
that do not read give none. -/
def Constraints.read? (pairs : List (Datum × Datum)) : Option Constraints :=
  pairs.foldlM (fun (c : Constraints) (kv : Datum × Datum) =>
    match kv with
    | (.string "secret", .string v) => some { c with secret := v }
    | (.string "cert", .string v) => (verificationKeys? v).map fun ks => { c with keys := some ks }
    | (.string "alg", .string v) => some { c with alg := v }
    | (.string "iss", .string v) => some { c with iss := v }
    | (.string "aud", .string v) => some { c with aud := v }
    | (.string "time", .number n) => do
      let t ← doubleValue? n
      if t < 0 then none
      some { c with time := some t }
    | _ => none) {}

/-- Checks the signature of a token and of the tokens nested in it: the header and the payload
text of the innermost token when every signature verifies, `none` inside when one does not, or
none when a token is malformed or cannot be checked. -/
def verifyChain (c : Constraints) : Nat → String → Option (Option (List (Datum × Datum) × String))
  | 0, _ => none
  | fuel + 1, s => do
    let t ← Token.read? s
    let header ← t.headerPairs?
    let h ← Header.read? header
    if !h.valid ∨ (c.alg ≠ "" ∧ c.alg ≠ h.alg) then return none
    let signature ← base64UrlBytes? t.signature
    let algorithm ← Algorithm.ofName? h.alg
    let verified ← match c.keys, algorithm with
      | some keys, _ => some (checksUnder algorithm keys h t.signed signature)
      | none, .hmac _ => some (algorithm.verifies (.secret (Utf8.encode c.secret)) t.signed signature)
      | none, _ => none
    if !verified then return none
    let payload := textOf (← base64UrlBytes? t.payload)
    if h.cty.toUpper = "JWT" then verifyChain c fuel payload
    else some (some (header, payload))

/-- Whether a payload's audience holds the expected one: a string equal to it, or an array with
a string equal to it. -/
def audienceHolds (expected : String) : Datum → Bool
  | .string s => s = expected
  | .array items => items.any fun i => i.same (.string expected)
  | _ => false

/-- A token decoded and checked against constraints: `[true, header, payload]`, or
`[false, {}, {}]` when it fails a check. -/
def decodeVerify (token : String) (pairs : List (Datum × Datum)) : Option Datum := do
  let c ← Constraints.read? pairs
  if c.keys.isSome == (c.secret ≠ "") then none
  let unverified : Datum := .array [.bool false, .object [], .object []]
  match ← verifyChain c (token.length + 1) token with
  | none => some unverified
  | some (header, text) =>
    let payload ← jsonObject? text
    let issOk ← if c.iss = "" then some true
      else match Datum.lookup (.string "iss") payload with
        | some (.string v) => some (v == c.iss)
        | some _ => none
        | none => some false
    let audOk := match Datum.lookup (.string "aud") payload with
      | some a => audienceHolds c.aud a
      | none => c.aud = ""
    let seconds : Option String := c.time.map fun t =>
      let q := t / 1000000000
      Binary.text .double .general (Binary.round .double (q < 0) (if q < 0 then -q else q))
    let expOk ← match Datum.lookup (.string "exp") payload with
      | some (.number e) => seconds.map fun now => compareNumerals now e == .lt
      | some _ => none
      | none => some true
    let nbfOk ← match Datum.lookup (.string "nbf") payload with
      | some (.number n) => seconds.map fun now => compareNumerals now n != .lt
      | some _ => none
      | none => some true
    if issOk && audOk && expOk && nbfOk then some (.array [.bool true, .object header, .object payload])
    else some unverified

def jsonText (d : Datum) : String := Json.compact true (Value.toJson d.toValue)

def apply (name : String) (args : List Datum) : Option Datum :=
  match name, args with
  | "io.jwt.decode", [.string s] => decode (s.length + 1) s
  | "io.jwt.encode_sign_raw", [.string h, .string p, .string k] => (signRaw h p k).map .string
  | "io.jwt.encode_sign", [h@(.object _), p@(.object _), k@(.object _)] =>
    (signRaw (jsonText h) (jsonText p) (jsonText k)).map .string
  | "io.jwt.decode_verify", [.string t, .object c] => decodeVerify t c
  | "io.jwt.verify_hs256", [.string t, .string k] => verify (Algorithm.keyed .sha256) t k
  | "io.jwt.verify_hs384", [.string t, .string k] => verify (Algorithm.keyed .sha384) t k
  | "io.jwt.verify_hs512", [.string t, .string k] => verify (Algorithm.keyed .sha512) t k
  | "io.jwt.verify_rs256", [.string t, .string k] => verifyUnder (.rsa .sha256) t k
  | "io.jwt.verify_rs384", [.string t, .string k] => verifyUnder (.rsa .sha384) t k
  | "io.jwt.verify_rs512", [.string t, .string k] => verifyUnder (.rsa .sha512) t k
  | "io.jwt.verify_ps256", [.string t, .string k] => verifyUnder (.pss .sha256) t k
  | "io.jwt.verify_ps384", [.string t, .string k] => verifyUnder (.pss .sha384) t k
  | "io.jwt.verify_ps512", [.string t, .string k] => verifyUnder (.pss .sha512) t k
  | "io.jwt.verify_es256", [.string t, .string k] => verifyUnder (.ecdsa .sha256) t k
  | "io.jwt.verify_es384", [.string t, .string k] => verifyUnder (.ecdsa .sha384) t k
  | "io.jwt.verify_es512", [.string t, .string k] => verifyUnder (.ecdsa .sha512) t k
  | "io.jwt.verify_eddsa", [.string t, .string k] => verifyUnder .eddsa t k
  | _, _ => none

end Jwt

end AccessPolicy.Rego
