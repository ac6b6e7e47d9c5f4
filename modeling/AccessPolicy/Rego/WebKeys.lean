import AccessPolicy.Rego.Builtin
import AccessPolicy.Crypto.Keys
/-!
# JSON web keys

A JSON web key (RFC 7517) is an object naming its type in `kty`, with its numbers and bytes as
base64 text: standard or URL-safe, padded or not (a text with `+` or `/` is standard, one that
ends in `=` is padded). A set of keys is an object whose `keys` holds an array of keys.
-/

namespace AccessPolicy.Rego

open Crypto

inductive KeyMaterial where
  | secret (bytes : List UInt8)
  | publicKey (key : PublicKey)
  | privateKey (key : PrivateKey)
deriving Inhabited

structure WebKey where
  material : KeyMaterial
  alg : String := ""
  kid : String := ""
deriving Inhabited

namespace WebKey

def fieldBytes? (s : String) : Option (List UInt8) := do
  let std := s.contains '+' || s.contains '/'
  if std && (s.contains '-' || s.contains '_') then none
  let padded := s.endsWith "="
  let text := if std then s
    else String.map (fun c => if c = '-' then '+' else if c = '_' then '/' else c) s
  let size := (Utf8.encode text).length
  let text ← if padded then some text
    else match size % 4 with
      | 0 => some text
      | 2 => some (text ++ "==")
      | 3 => some (text ++ "=")
      | _ => none
  match Base64.decode text with
  | .ok bs => some bs
  | .error _ => none

def bytesField? (ps : List (Datum × Datum)) (name : String) : Option (List UInt8) :=
  match Datum.lookup (.string name) ps with
  | some (.string s) => fieldBytes? s
  | _ => none

def numberField? (ps : List (Datum × Datum)) (name : String) : Option Nat :=
  (bytesField? ps name).map Der.bigEndian

def textField? (ps : List (Datum × Datum)) (name : String) : Option String :=
  match Datum.lookup (.string name) ps with
  | none => some ""
  | some (.string s) => some s
  | some _ => none

def has (ps : List (Datum × Datum)) (name : String) : Bool :=
  (Datum.lookup (.string name) ps).isSome

def materialOf? (ps : List (Datum × Datum)) : Option KeyMaterial := do
  let kty ← textField? ps "kty"
  match kty with
  | "oct" => (bytesField? ps "k").map .secret
  | "RSA" =>
    let n ← numberField? ps "n"
    let e ← numberField? ps "e"
    if !has ps "d" then return .publicKey (.rsa ⟨n, e⟩)
    let d ← numberField? ps "d"
    let p ← numberField? ps "p"
    let q ← numberField? ps "q"
    let key := match numberField? ps "dp", numberField? ps "dq", numberField? ps "qi" with
      | some dp, some dq, some qi => ⟨n, e, d, p, q, dp, dq, qi⟩
      | _, _, _ => RsaPrivate.ofPrimes n e d p q
    some (.privateKey (.rsa key))
  | "EC" =>
    let curve ← Curve.ofName? (← textField? ps "crv")
    let x ← numberField? ps "x"
    let y ← numberField? ps "y"
    if !curve.onCurve x y then none
    if !has ps "d" then return .publicKey (.ecdsa curve x y)
    let d ← numberField? ps "d"
    if d = 0 ∨ d ≥ curve.n then none
    some (.privateKey (.ecdsa curve d x y))
  | "OKP" =>
    let crv ← textField? ps "crv"
    let x ← bytesField? ps "x"
    if x.length != 32 then none
    if crv == "Ed25519" then
      if !has ps "d" then return .publicKey (.ed25519 x)
      let seed ← bytesField? ps "d"
      if seed.length != 32 then none
      some (.privateKey (.ed25519 seed (Edwards.publicKey seed)))
    else if crv == "X25519" then
      if !has ps "d" then return .publicKey (.x25519 x)
      let d ← bytesField? ps "d"
      if d.length != 32 then none
      some (.privateKey (.x25519 d))
    else none
  | _ => none

def ofPairs? (ps : List (Datum × Datum)) : Option WebKey := do
  let material ← materialOf? ps
  let alg ← textField? ps "alg"
  let kid ← textField? ps "kid"
  some ⟨material, alg, kid⟩
def readSet? (text : String) : Option (List WebKey) := do
  let j ← (Json.read text).toOption
  match Builtin.Datum.ofJson j with
  | .object ps =>
    match Datum.lookup (.string "keys") ps with
    | some (.array items) =>
      items.mapM fun item => match item with
        | .object kps => ofPairs? kps
        | _ => none
    | some _ => none
    | none => (ofPairs? ps).map ([·])
  | _ => none

def numberText (n : Nat) : Datum := .string (base64UrlText (Der.minimalBytes n))

def sizedText (size n : Nat) : Datum := .string (base64UrlText (Der.bytesOfNat size n))

def ofPrivate? : PrivateKey → Option Datum
  | .rsa k => some (Datum.objectOf [
      (.string "kty", .string "RSA"), (.string "n", numberText k.n), (.string "e", numberText k.e),
      (.string "d", numberText k.d), (.string "p", numberText k.p), (.string "q", numberText k.q),
      (.string "dp", numberText k.dp), (.string "dq", numberText k.dq),
      (.string "qi", numberText k.qinv)])
  | .ecdsa c d x y => some (Datum.objectOf [
      (.string "kty", .string "EC"), (.string "crv", .string c.name),
      (.string "x", sizedText c.byteSize x), (.string "y", sizedText c.byteSize y),
      (.string "d", sizedText c.orderSize d)])
  | .ed25519 seed pub => some (Datum.objectOf [
      (.string "kty", .string "OKP"), (.string "crv", .string "Ed25519"),
      (.string "x", .string (base64UrlText pub)), (.string "d", .string (base64UrlText seed))])
  | .x25519 _ => none

end WebKey

end AccessPolicy.Rego
