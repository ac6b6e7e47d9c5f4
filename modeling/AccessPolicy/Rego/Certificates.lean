import AccessPolicy.Rego.WebKeys
import AccessPolicy.Rego.Networks
import AccessPolicy.Crypto.Chain
import AccessPolicy.Crypto.Pem
/-!
# Certificates and keys given as text

The certificate built-ins read PEM blocks, or base64 text of DER data (or of PEM text), and give
what they read as the objects a JSON encoder writes for certificates and keys: field names as
in the X.509 library of the Go language, byte strings as standard base64 text, big numbers as
numbers, times in RFC 3339, lists that are empty as `null`.
-/

namespace AccessPolicy.Rego

namespace Certificates

open Crypto

def bytesDatum (bs : List UInt8) : Datum := .string (Base64.encode bs)

def listDatum {α : Type} (f : α → Datum) (xs : List α) : Datum :=
  if xs.isEmpty then .null else .array (xs.map f)

def natDatum (n : Nat) : Datum := intNumber n

def oidDatum (arcs : List Nat) : Datum := .array (arcs.map natDatum)

def oidBytesText (bs : List UInt8) : String := ((Der.oidValue? bs).map Der.oidText).getD ""

def obj (ps : List (String × Datum)) : Datum := Datum.objectOf (ps.map fun (k, v) => (.string k, v))

def anyDatum : AnyValue → Datum
  | .text s => .string s
  | .integer n => intNumber n
  | .octets bs => bytesDatum bs
  | .bits b => obj [("Bytes", bytesDatum b.bytes), ("BitLength", natDatum b.bitLength)]
  | .oid arcs => oidDatum arcs
  | .time t => .string t.rfc3339Nano
  | .empty => .null

def attributeDatum (a : NameAttribute) : Datum :=
  obj [("Type", oidDatum a.oid), ("Value", anyDatum a.value)]

def valuesOf (attrs : List NameAttribute) (n : Nat) : List String :=
  attrs.filterMap fun a => match a.oid, a.value with
    | [2, 5, 4, m], .text s => if m = n then some s else none
    | _, _ => none

def nameDatum (rdns : Rdns) : Datum :=
  let attrs := rdns.flatten
  let strings (n : Nat) := listDatum .string (valuesOf attrs n)
  let single (n : Nat) := .string ((valuesOf attrs n).getLast?.getD "")
  obj [("Country", strings 6), ("Organization", strings 10), ("OrganizationalUnit", strings 11),
       ("Locality", strings 7), ("Province", strings 8), ("StreetAddress", strings 9),
       ("PostalCode", strings 17), ("SerialNumber", single 5), ("CommonName", single 3),
       ("Names", listDatum attributeDatum attrs), ("ExtraNames", .null)]

def extensionDatum (e : Extension) : Datum :=
  obj [("Id", oidDatum e.oid), ("Critical", .bool e.critical), ("Value", bytesDatum e.value)]

def publicKeyDatum : Option PublicKey → Datum
  | none => .null
  | some (.rsa k) => obj [("N", natDatum k.n), ("E", natDatum k.e)]
  | some (.ecdsa _ x y) => obj [("Curve", obj []), ("X", natDatum x), ("Y", natDatum y)]
  | some (.ed25519 bs) => bytesDatum bs
  | some (.x25519 _) => obj []
  | some (.dsa p q g y) =>
    obj [("P", natDatum p), ("Q", natDatum q), ("G", natDatum g), ("Y", natDatum y)]

def privateKeyDatum : PrivateKey → Datum
  | .rsa k => obj [("N", natDatum k.n), ("E", natDatum k.e), ("D", natDatum k.d),
      ("Primes", .array [natDatum k.p, natDatum k.q]),
      ("Precomputed", obj [("Dp", natDatum k.dp), ("Dq", natDatum k.dq),
        ("Qinv", natDatum k.qinv), ("CRTValues", .array [])])]
  | .ecdsa _ d x y => obj [("Curve", obj []), ("X", natDatum x), ("Y", natDatum y),
      ("D", natDatum d)]
  | .ed25519 seed pub => bytesDatum (seed ++ pub)
  | .x25519 _ => obj []

def ipText (bs : List UInt8) : String := Networks.addressText (bs.map (·.toNat))

/-- A URL as its fields: the path and fragment unescaped, with their escaped forms kept when
they are not the usual ones. -/
def urlDatum (u : Url) : Datum :=
  let unescaped (part : Url.Part) (s : String) : String :=
    match Url.unescape part s.toList with
    | .ok bs => Utf8.textOfBytes bs
    | .error _ => s
  let raw (part : Url.Part) (s : String) : String :=
    match Url.unescape part s.toList with
    | .ok bs => if Url.escapeBytes part bs == s then "" else s
    | .error _ => ""
  obj [("Scheme", .string u.scheme), ("Opaque", .string u.rootless),
       ("User", if u.user.isSome then obj [] else .null), ("Host", .string (unescaped .host u.host)),
       ("Path", .string (unescaped .path u.path)), ("RawPath", .string (raw .path u.path)),
       ("OmitHost", .bool u.omitHost), ("ForceQuery", .bool (u.query == some "")),
       ("RawQuery", .string (u.query.getD "")),
       ("Fragment", .string (unescaped .fragment u.fragment)),
       ("RawFragment", .string (raw .fragment u.fragment))]

def rangeDatum (r : IpRange) : Datum := obj [("IP", .string (ipText r.ip)), ("Mask", bytesDatum r.mask)]

def certificateDatum (extended : Bool) (c : Certificate) : Datum :=
  let strings := listDatum Datum.string
  let optionalBytes (b : Option (List UInt8)) := match b with
    | some bs => bytesDatum bs
    | none => .null
  obj ([("Raw", bytesDatum c.raw), ("RawTBSCertificate", bytesDatum c.rawTbs),
       ("RawSubjectPublicKeyInfo", bytesDatum c.rawSpki), ("RawSubject", bytesDatum c.rawSubject),
       ("RawIssuer", bytesDatum c.rawIssuer),
       ("RawSignatureAlgorithm", bytesDatum c.rawSignatureAlgorithm),
       ("Signature", bytesDatum c.signature), ("SignatureAlgorithm", natDatum c.signatureAlgorithm),
       ("PublicKeyAlgorithm", natDatum c.publicKeyAlgorithm),
       ("PublicKey", publicKeyDatum c.publicKey), ("Version", natDatum c.version),
       ("SerialNumber", intNumber c.serial), ("Issuer", nameDatum c.issuer),
       ("Subject", nameDatum c.subject), ("NotBefore", .string c.notBefore.rfc3339Nano),
       ("NotAfter", .string c.notAfter.rfc3339Nano), ("KeyUsage", natDatum c.keyUsage),
       ("Extensions", listDatum extensionDatum c.extensions), ("ExtraExtensions", .null),
       ("UnhandledCriticalExtensions", listDatum oidDatum c.unhandledCritical),
       ("ExtKeyUsage", listDatum natDatum c.extKeyUsage),
       ("UnknownExtKeyUsage", listDatum oidDatum c.unknownExtKeyUsage),
       ("BasicConstraintsValid", .bool c.basicConstraintsValid), ("IsCA", .bool c.isCA),
       ("MaxPathLen", intNumber c.maxPathLen), ("MaxPathLenZero", .bool c.maxPathLenZero),
       ("SubjectKeyId", optionalBytes c.subjectKeyId),
       ("AuthorityKeyId", optionalBytes c.authorityKeyId),
       ("OCSPServer", strings c.ocspServer),
       ("IssuingCertificateURL", strings c.issuingCertificateUrl),
       ("DNSNames", strings c.dnsNames), ("EmailAddresses", strings c.emailAddresses),
       ("IPAddresses", listDatum (fun ip => .string (ipText ip)) c.ipAddresses),
       ("URIs", listDatum urlDatum c.uris),
       ("PermittedDNSDomainsCritical", .bool c.permittedDnsDomainsCritical),
       ("PermittedDNSDomains", strings c.permittedDnsDomains),
       ("ExcludedDNSDomains", strings c.excludedDnsDomains),
       ("PermittedIPRanges", listDatum rangeDatum c.permittedIpRanges),
       ("ExcludedIPRanges", listDatum rangeDatum c.excludedIpRanges),
       ("PermittedEmailAddresses", strings c.permittedEmailAddresses),
       ("ExcludedEmailAddresses", strings c.excludedEmailAddresses),
       ("PermittedURIDomains", strings c.permittedUriDomains),
       ("ExcludedURIDomains", strings c.excludedUriDomains),
       ("CRLDistributionPoints", strings c.crlDistributionPoints),
       ("PolicyIdentifiers", match c.policyIdentifiers with
         | some ids => .array (ids.map oidDatum)
         | none => .null),
       ("Policies", match c.policies with
         | some ps => .array (ps.map fun p => .string (oidBytesText p))
         | none => .null),
       ("InhibitAnyPolicy", intNumber c.inhibitAnyPolicy),
       ("InhibitAnyPolicyZero", .bool c.inhibitAnyPolicyZero),
       ("InhibitPolicyMapping", intNumber c.inhibitPolicyMapping),
       ("InhibitPolicyMappingZero", .bool c.inhibitPolicyMappingZero),
       ("RequireExplicitPolicy", intNumber c.requireExplicitPolicy),
       ("RequireExplicitPolicyZero", .bool c.requireExplicitPolicyZero),
       ("PolicyMappings", listDatum (fun m => obj [
          ("IssuerDomainPolicy", .string (oidBytesText m.issuer)),
          ("SubjectDomainPolicy", .string (oidBytesText m.subject))]) c.policyMappings)] ++
    (if extended then [("URIStrings", listDatum (fun u => .string u.render) c.uris)] else []))

def requestDatum (r : CertificateRequest) : Datum :=
  let strings := listDatum Datum.string
  obj [("Raw", bytesDatum r.raw), ("RawTBSCertificateRequest", bytesDatum r.rawTbs),
       ("RawSubjectPublicKeyInfo", bytesDatum r.rawSpki), ("RawSubject", bytesDatum r.rawSubject),
       ("RawSignatureAlgorithm", bytesDatum r.rawSignatureAlgorithm),
       ("Version", intNumber r.version), ("Signature", bytesDatum r.signature),
       ("SignatureAlgorithm", natDatum r.signatureAlgorithm),
       ("PublicKeyAlgorithm", natDatum r.publicKeyAlgorithm),
       ("PublicKey", publicKeyDatum r.publicKey), ("Subject", nameDatum r.subject),
       ("Attributes", listDatum (fun (oid, sets) => obj [("Type", oidDatum oid),
          ("Value", .array (sets.map fun set => .array (set.map attributeDatum)))]) r.attributes),
       ("Extensions", listDatum extensionDatum r.extensions), ("ExtraExtensions", .null),
       ("DNSNames", strings r.dnsNames), ("EmailAddresses", strings r.emailAddresses),
       ("IPAddresses", listDatum (fun ip => .string (ipText ip)) r.ipAddresses),
       ("URIs", listDatum urlDatum r.uris)]

def pemOrBase64? (s : String) : Option (List UInt8) :=
  if s.startsWith "-----BEGIN" then some (Utf8.bytesOf s)
  else (Base64.decode s).toOption

def startsPem (bs : List UInt8) : Bool := (Pem.ascii "-----BEGIN").isPrefixOf bs

def certificatesOfPem? (bytes : List UInt8) : Option (List Certificate) := do
  let blocks := Pem.blocks bytes
  if blocks.any (·.kind != "CERTIFICATE") then none
  X509.readCertificates? (blocks.flatMap (·.bytes))

def certificatesOf? (s : String) : Option (List Certificate) := do
  if s.startsWith "-----BEGIN" then certificatesOfPem? (Utf8.bytesOf s)
  else
    let bytes ← (Base64.decode s).toOption
    if startsPem bytes then certificatesOfPem? bytes else X509.readCertificates? bytes

def usageNames : List (String × Nat) :=
  [("KeyUsageAny", 0), ("KeyUsageServerAuth", 1), ("KeyUsageClientAuth", 2),
   ("KeyUsageCodeSigning", 3), ("KeyUsageEmailProtection", 4), ("KeyUsageIPSECEndSystem", 5),
   ("KeyUsageIPSECTunnel", 6), ("KeyUsageIPSECUser", 7), ("KeyUsageTimeStamping", 8),
   ("KeyUsageOCSPSigning", 9), ("KeyUsageMicrosoftServerGatedCrypto", 10),
   ("KeyUsageNetscapeServerGatedCrypto", 11), ("KeyUsageMicrosoftCommercialCodeSigning", 12),
   ("KeyUsageMicrosoftKernelCodeSigning", 13)]

/-- The usages of the items of a `KeyUsages` option: strings, quotes trimmed, must name
usages; other items are passed over. -/
def usagesOf? (items : List Datum) : Option (List Nat) :=
  items.foldlM (fun (acc : List Nat) (i : Datum) => match i with
    | .string u =>
      let name := String.ofList ((u.toList.dropWhile (· = '"')).reverse.dropWhile (· = '"')).reverse
      (usageNames.lookup name).map (acc ++ [·])
    | _ => some acc) []

def optionsOf? (pairs : List (Datum × Datum)) : Option VerifyOptions :=
  pairs.foldlM (fun (o : VerifyOptions) (kv : Datum × Datum) => match kv with
    | (.string "DNSName", .string d) =>
      some { o with dnsName := String.ofList ((d.toList.dropWhile (· = '"')).reverse.dropWhile (· = '"')).reverse }
    | (.string "CurrentTime", .number t) => (readInt64? t).map fun n => { o with currentTime := some n }
    | (.string "MaxConstraintComparisons", .number t) => (readInt64? t).map fun _ => o
    | (.string "KeyUsages", .array items) => (usagesOf? items).map fun u => { o with keyUsages := o.keyUsages ++ u }
    | (.string "KeyUsages", .set items) => (usagesOf? items).map fun u => { o with keyUsages := o.keyUsages ++ u }
    | (.string _, _) => none
    | _ => some o) {}

def chainAnswer (opts : VerifyOptions) (certs : List Certificate) : Datum :=
  match Chain.verify opts certs with
  | some chain => .array [.bool true, .array (chain.map (certificateDatum true))]
  | none => .array [.bool false, .array []]

def requestOf? (s : String) : Option CertificateRequest := do
  let bytes ← if s.startsWith "-----BEGIN CERTIFICATE REQUEST-----" then some (Utf8.bytesOf s)
    else (Base64.decode s).toOption
  let der ← match Pem.decode? bytes with
    | some (block, _) => if block.kind == "CERTIFICATE REQUEST" then some block.bytes else none
    | none => some bytes
  X509.readRequest? der

/-- The private key of DER data as a key pair's key is read: PKCS #1, else PKCS #8 of an RSA,
elliptic curve or Ed25519 key, else SEC 1. -/
def pairKey? (der : List UInt8) : Option PrivateKey :=
  (PrivateKey.ofPkcs1? der).orElse fun _ =>
    match PrivateKey.ofPkcs8? der with
    | some (.x25519 _) => none
    | some k => some k
    | none => PrivateKey.ofSec1? none der

def keyPair? (certText keyText : String) : Option Datum := do
  let certBytes ← pemOrBase64? certText
  let keyBytes ← pemOrBase64? keyText
  let certBlocks := if startsPem certBytes then Pem.blocks certBytes else [⟨"CERTIFICATE", certBytes⟩]
  let keyBlocks := if startsPem keyBytes then Pem.blocks keyBytes else [⟨"PRIVATE KEY", keyBytes⟩]
  let ders := (certBlocks.filter (·.kind == "CERTIFICATE")).map (·.bytes)
  let first ← ders.head?
  let keyBlock ← keyBlocks.find? fun b => b.kind == "PRIVATE KEY" || b.kind.endsWith " PRIVATE KEY"
  let leaf ← X509.readCertificate1? first
  let key ← pairKey? keyBlock.bytes
  let pub ← leaf.publicKey
  match pub with
  | .rsa _ | .ecdsa .. | .ed25519 _ => if !key.pairsWith pub then none
  | _ => none
  some (obj [("Certificate", .array (ders.map bytesDatum)), ("PrivateKey", privateKeyDatum key),
             ("Leaf", certificateDatum false leaf), ("OCSPStaple", .null),
             ("SignedCertificateTimestamps", .null), ("SupportedSignatureAlgorithms", .null)])

def rsaPrivateKey? (s : String) : Option Datum := do
  let bytes ← pemOrBase64? s
  let (block, _) ← Pem.decode? bytes
  let key ← if block.kind == "RSA PRIVATE KEY" then PrivateKey.ofPkcs1? block.bytes
    else if block.kind == "PRIVATE KEY" then PrivateKey.ofPkcs8? block.bytes
    else none
  WebKey.ofPrivate? key

def privateKeys? (s : String) : Option Datum := do
  if s.isEmpty then return .null
  let bytes ← pemOrBase64? s
  let keys ← (Pem.blocks bytes).foldlM (fun (acc : List PrivateKey) (b : Pem.Block) =>
    if b.kind == "RSA PRIVATE KEY" then (PrivateKey.ofPkcs1? b.bytes).map (acc ++ [·])
    else if b.kind == "PRIVATE KEY" then (PrivateKey.ofPkcs8? b.bytes).map (acc ++ [·])
    else if b.kind == "EC PRIVATE KEY" then (PrivateKey.ofSec1? none b.bytes).map (acc ++ [·])
    else some acc) []
  some (.array (keys.map privateKeyDatum))

def apply (name : String) (args : List Datum) : Option Datum :=
  match name, args with
  | "crypto.x509.parse_certificates", [.string s] =>
    (certificatesOf? s).map fun cs => .array (cs.map (certificateDatum true))
  | "crypto.x509.parse_and_verify_certificates", [.string s] =>
    match certificatesOf? s with
    | some certs => some (chainAnswer {} certs)
    | none => some (.array [.bool false, .array []])
  | "crypto.x509.parse_and_verify_certificates_with_options", [.string s, .object opts] =>
    match certificatesOf? s with
    | some certs => (optionsOf? opts).map fun o => chainAnswer o certs
    | none => some (.array [.bool false, .array []])
  | "crypto.x509.parse_certificate_request", [.string s] => (requestOf? s).map requestDatum
  | "crypto.x509.parse_keypair", [.string c, .string k] => keyPair? c k
  | "crypto.x509.parse_rsa_private_key", [.string s] => rsaPrivateKey? s
  | "crypto.parse_private_keys", [.string s] => privateKeys? s
  | _, _ => none

end Certificates

end AccessPolicy.Rego
