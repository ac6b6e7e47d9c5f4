import AccessPolicy.Crypto.Keys
import AccessPolicy.Crypto.Names
import AccessPolicy.Net.Url
/-!
# X.509 certificates and requests for them

A certificate (RFC 5280) is a sequence of the signed part, the signature algorithm and the
signature. The signed part holds, in order: an optional explicit `[0]` version (0 to 2, read as
1 to 3), the serial number, the signature algorithm again (which must equal the outer one), the
issuer, the validity (two times), the subject, the subject's public key info, and for versions 2
and 3 the optional unique identifiers `[1]` and `[2]`, and for version 3 the optional `[3]`
sequence of extensions. Each extension is an object identifier, an optional critical flag and an
octet string; no two extensions may share an identifier. Data after the signed part's known
fields is left aside.
-/

namespace AccessPolicy.Crypto

structure Extension where
  oid : List Nat
  critical : Bool
  value : List UInt8
deriving Inhabited

structure IpRange where
  ip : List UInt8
  mask : List UInt8
deriving Inhabited

structure PolicyMapping where
  issuer : List UInt8
  subject : List UInt8
deriving Inhabited

structure Certificate where
  raw : List UInt8
  rawTbs : List UInt8
  rawSpki : List UInt8
  rawSubject : List UInt8
  rawIssuer : List UInt8
  rawSignatureAlgorithm : List UInt8
  signature : List UInt8
  signatureAlgorithm : Nat
  publicKeyAlgorithm : Nat
  publicKey : Option PublicKey
  version : Nat
  serial : Int
  issuer : Rdns
  subject : Rdns
  notBefore : Timestamp
  notAfter : Timestamp
  keyUsage : Nat := 0
  extensions : List Extension := []
  unhandledCritical : List (List Nat) := []
  extKeyUsage : List Nat := []
  unknownExtKeyUsage : List (List Nat) := []
  basicConstraintsValid : Bool := false
  isCA : Bool := false
  maxPathLen : Int := 0
  maxPathLenZero : Bool := false
  subjectKeyId : Option (List UInt8) := none
  authorityKeyId : Option (List UInt8) := none
  ocspServer : List String := []
  issuingCertificateUrl : List String := []
  dnsNames : List String := []
  emailAddresses : List String := []
  ipAddresses : List (List UInt8) := []
  uris : List Url := []
  permittedDnsDomainsCritical : Bool := false
  permittedDnsDomains : List String := []
  excludedDnsDomains : List String := []
  permittedIpRanges : List IpRange := []
  excludedIpRanges : List IpRange := []
  permittedEmailAddresses : List String := []
  excludedEmailAddresses : List String := []
  permittedUriDomains : List String := []
  excludedUriDomains : List String := []
  crlDistributionPoints : List String := []
  policies : Option (List (List UInt8)) := none
  policyIdentifiers : Option (List (List Nat)) := none
  inhibitAnyPolicy : Int := 0
  inhibitAnyPolicyZero : Bool := false
  inhibitPolicyMapping : Int := 0
  inhibitPolicyMappingZero : Bool := false
  requireExplicitPolicy : Int := 0
  requireExplicitPolicyZero : Bool := false
  policyMappings : List PolicyMapping := []
deriving Inhabited

structure CertificateRequest where
  raw : List UInt8
  rawTbs : List UInt8
  rawSpki : List UInt8
  rawSubject : List UInt8
  rawSignatureAlgorithm : List UInt8
  version : Int
  signature : List UInt8
  signatureAlgorithm : Nat
  publicKeyAlgorithm : Nat
  publicKey : Option PublicKey
  subject : Rdns
  attributes : List (List Nat × List (List NameAttribute))
  extensions : List Extension
  dnsNames : List String
  emailAddresses : List String
  ipAddresses : List (List UInt8)
  uris : List Url
deriving Inhabited

namespace X509

def pssOid : List Nat := [1, 2, 840, 113549, 1, 1, 10]

def ed25519SigOid : List Nat := [1, 3, 101, 112]

/-- The signature algorithms by object identifier: their number, the key algorithm they use and
their hash (none for Ed25519, which signs the message itself). -/
def signatureAlgorithms : List (List Nat × Nat × Nat × Option HashKind) :=
  [([1, 2, 840, 113549, 1, 1, 4], 2, 1, some .md5),
   ([1, 2, 840, 113549, 1, 1, 5], 3, 1, some .sha1),
   ([1, 3, 14, 3, 2, 29], 3, 1, some .sha1),
   ([1, 2, 840, 113549, 1, 1, 11], 4, 1, some .sha256),
   ([1, 2, 840, 113549, 1, 1, 12], 5, 1, some .sha384),
   ([1, 2, 840, 113549, 1, 1, 13], 6, 1, some .sha512),
   ([1, 2, 840, 10040, 4, 3], 7, 2, some .sha1),
   ([2, 16, 840, 1, 101, 3, 4, 3, 2], 8, 2, some .sha256),
   ([1, 2, 840, 10045, 4, 1], 9, 3, some .sha1),
   ([1, 2, 840, 10045, 4, 3, 2], 10, 3, some .sha256),
   ([1, 2, 840, 10045, 4, 3, 3], 11, 3, some .sha384),
   ([1, 2, 840, 10045, 4, 3, 4], 12, 3, some .sha512),
   ([1, 3, 101, 112], 16, 4, none)]

def signatureHash? (algo : Nat) : Option (Option HashKind × Nat × Bool) :=
  match algo with
  | 13 => some (some .sha256, 1, true)
  | 14 => some (some .sha384, 1, true)
  | 15 => some (some .sha512, 1, true)
  | _ => (signatureAlgorithms.find? (·.2.1 == algo)).map fun (_, _, key, h) => (h, key, false)

def emptyOrNull (params : List UInt8) : Bool := params.isEmpty || params == [0x05, 0x00]

/-- The explicitly tagged element `[n]` at the head of some bytes, or nothing when another
element is next. -/
def explicit? (n : Nat) (s : List UInt8) : Option (Option (List UInt8) × List UInt8) :=
  Der.readOptional? (Der.contextConstructed n) s

/-- The number of a PSS signature algorithm from its parameters: SHA-256, SHA-384 or SHA-512
with MGF1 over the same hash, a salt of the hash's size and the usual trailer. -/
def pssAlgorithm (params : List UInt8) : Nat :=
  let found : Option Nat := do
    let (c, _) ← Der.read? Der.sequenceTag params
    let (hashC, c) ← explicit? 0 c
    let (mgfC, c) ← explicit? 1 c
    let (saltC, c) ← explicit? 2 c
    let (trailerC, _) ← explicit? 3 c
    let (hashAi, _) ← Der.read? Der.sequenceTag (← hashC)
    let hash ← AlgorithmId.read? hashAi
    let (mgfAi, _) ← Der.read? Der.sequenceTag (← mgfC)
    let mgf ← AlgorithmId.read? mgfAi
    let (mgfHashAi, _) ← Der.read? Der.sequenceTag mgf.params
    let mgfHash ← AlgorithmId.read? mgfHashAi
    let (salt, _) ← Der.readSmallInt? (← saltC)
    let trailer ← match trailerC with
      | none => some 1
      | some t => (Der.readSmallInt? t).map (·.1)
    if !emptyOrNull hash.params || mgf.oid != [1, 2, 840, 113549, 1, 1, 8] ||
        mgfHash.oid != hash.oid || !emptyOrNull mgfHash.params || trailer != 1 then none
    if hash.oid == [2, 16, 840, 1, 101, 3, 4, 2, 1] && salt == 32 then some 13
    else if hash.oid == [2, 16, 840, 1, 101, 3, 4, 2, 2] && salt == 48 then some 14
    else if hash.oid == [2, 16, 840, 1, 101, 3, 4, 2, 3] && salt == 64 then some 15
    else none
  found.getD 0

def signatureAlgorithmOf (alg : AlgorithmId) : Nat :=
  if alg.oid == ed25519SigOid && !alg.params.isEmpty then 0
  else if alg.oid == pssOid then pssAlgorithm alg.params
  else ((signatureAlgorithms.find? (·.1 == alg.oid)).map (·.2.1)).getD 0

def publicKeyAlgorithmOf (oid : List Nat) : Nat :=
  if oid == rsaOid then 1 else if oid == dsaOid then 2 else if oid == ecOid then 3
  else if oid == ed25519Oid then 4 else 0

def extKeyUsages : List (List Nat × Nat) :=
  [([2, 5, 29, 37, 0], 0), ([1, 3, 6, 1, 5, 5, 7, 3, 1], 1), ([1, 3, 6, 1, 5, 5, 7, 3, 2], 2),
   ([1, 3, 6, 1, 5, 5, 7, 3, 3], 3), ([1, 3, 6, 1, 5, 5, 7, 3, 4], 4),
   ([1, 3, 6, 1, 5, 5, 7, 3, 5], 5), ([1, 3, 6, 1, 5, 5, 7, 3, 6], 6),
   ([1, 3, 6, 1, 5, 5, 7, 3, 7], 7), ([1, 3, 6, 1, 5, 5, 7, 3, 8], 8),
   ([1, 3, 6, 1, 5, 5, 7, 3, 9], 9), ([1, 3, 6, 1, 4, 1, 311, 10, 3, 3], 10),
   ([2, 16, 840, 1, 113730, 4, 1], 11), ([1, 3, 6, 1, 4, 1, 311, 2, 1, 22], 12),
   ([1, 3, 6, 1, 4, 1, 311, 61, 1, 1], 13)]

/-- The labels of a domain, last first; none when a label is empty or holds a character that is
not visible ASCII, or the domain ends with a dot. -/
def reverseLabels? (domain : String) : Option (List String) :=
  if domain.isEmpty then some []
  else
    let labels := (domain.splitOn ".").reverse
    if labels.any (fun l => l.isEmpty || l.any fun c => c.toNat < 33 || c.toNat > 126) then none
    else some labels

def ia5? (bs : List UInt8) : Option String :=
  if bs.all (· < 0x80) then some (Names.asciiText bs) else none

/-- The names of a subject alternative names extension: DNS names, mail addresses, IP
addresses and URIs. -/
def sanNames? (value : List UInt8) :
    Option (List String × List String × List (List UInt8) × List Url) := do
  let (c, _) ← Der.read? Der.sequenceTag value
  let items ← Der.elements? c
  items.foldlM (fun (dns, mail, ips, uris) (e : Der.Element) => do
    let tag := e.tag.toNat ^^^ 0x80
    if tag = 1 then
      let s ← ia5? e.content
      some (dns, mail ++ [s], ips, uris)
    else if tag = 2 then
      let s ← ia5? e.content
      some (dns ++ [s], mail, ips, uris)
    else if tag = 6 then
      let s ← ia5? e.content
      let u ← (Url.parse s).toOption
      if !u.host.isEmpty ∧ (reverseLabels? u.host).isNone then none
      some (dns, mail, ips, uris ++ [u])
    else if tag = 7 then
      if e.content.length = 4 ∨ e.content.length = 16 then some (dns, mail, ips ++ [e.content], uris)
      else none
    else some (dns, mail, ips, uris)) ([], [], [], [])
def validMask (mask : List UInt8) : Bool :=
  let bits := mask.flatMap fun b => (List.range 8).reverse.map fun i => b.toNat >>> i % 2
  !((bits.dropWhile (· == 1)).contains 1)

/-- What the subtrees of one kind of name constraints give: DNS domains, IP ranges, mail
addresses and URI domains, and whether a kind of name is met that is not understood. -/
structure Subtrees where
  dns : List String := []
  ips : List IpRange := []
  mails : List String := []
  uris : List String := []
  unhandled : Bool := false

def dropDot (s : String) : String := if s.startsWith "." then s.drop 1 |>.toString else s

def subtrees? (c : List UInt8) : Option Subtrees := do
  let items ← Der.elements? c
  items.foldlM (fun (acc : Subtrees) (e : Der.Element) => do
    if e.tag != Der.sequenceTag then none
    let (v, _) ← Der.element? e.content
    if v.tag = Der.contextTag 2 then
      let s ← ia5? v.content
      let _ ← reverseLabels? (dropDot s)
      some { acc with dns := acc.dns ++ [s] }
    else if v.tag = Der.contextTag 7 then
      let n := v.content.length
      if n != 8 ∧ n != 32 then none
      let (ip, mask) := (v.content.take (n / 2), v.content.drop (n / 2))
      if !validMask mask then none
      some { acc with ips := acc.ips ++ [⟨ip, mask⟩] }
    else if v.tag = Der.contextTag 1 then
      let s ← ia5? v.content
      if s.contains '@' then
        match s.splitOn "@" with
        | [localPart, domain] =>
          if localPart.isEmpty then none
          let _ ← reverseLabels? domain
          some { acc with mails := acc.mails ++ [s] }
        | _ => none
      else
        let _ ← reverseLabels? (dropDot s)
        some { acc with mails := acc.mails ++ [s] }
    else if v.tag = Der.contextTag 6 then
      let s ← ia5? v.content
      let _ ← reverseLabels? (dropDot s)
      some { acc with uris := acc.uris ++ [s] }
    else some { acc with unhandled := true }) {}

/-- The integer of an implicitly tagged optional field within 64 bits, if it is there: the
field's content is the integer's own. -/
def implicitInteger? (tag : UInt8) (s : List UInt8) : Option (Option Int × List UInt8) := do
  let (c, rest) ← Der.readOptional? tag s
  match c with
  | none => some (none, rest)
  | some bytes =>
    let v ← Der.integerValue? bytes
    if bytes.length > 8 then none else some (some v, rest)

def optionalInteger? (tag : UInt8) (default : Int) (s : List UInt8) : Option (Int × List UInt8) := do
  let (c, rest) ← Der.readOptional? tag s
  match c with
  | none => some (default, rest)
  | some inner =>
    let (v, after) ← Der.readSmallInt? inner
    if !after.isEmpty then none else some (v, rest)

/-- The bytes of each object identifier of a list of policy information sequences; none when
one is malformed or repeats. -/
def policyOids? (value : List UInt8) : Option (List (List UInt8)) := do
  let (c, _) ← Der.read? Der.sequenceTag value
  let items ← Der.elements? c
  items.foldlM (fun (acc : List (List UInt8)) (e : Der.Element) => do
    if e.tag != Der.sequenceTag then none
    let (oid, _) ← Der.read? Der.oidTag e.content
    if acc.contains oid then none
    if oid.isEmpty || oid.getLast?.any (· ≥ 0x80) || oid.head? == some 0x80 then none
    let _ ← Der.oidValue? oid <|> some []
    some (acc ++ [oid])) []

/-- Applies one extension to a certificate: the fields it fills, and whether it is left
unhandled; none when its value is malformed. -/
def applyExtension (cert : Certificate) (e : Extension) : Option Certificate := do
  let unhandled (c : Certificate) : Certificate :=
    if e.critical then { c with unhandledCritical := c.unhandledCritical ++ [e.oid] } else c
  match e.oid with
  | [2, 5, 29, 15] =>
    let (bits, _) ← Der.readBitString? e.value
    let usage := (List.range 9).foldl (fun acc i => if bits.at i != 0 then acc + Nat.pow 2 i else acc) 0
    some { cert with keyUsage := usage }
  | [2, 5, 29, 19] =>
    let (c, _) ← Der.read? Der.sequenceTag e.value
    let (isCA, c) ← if Der.peek Der.booleanTag c then Der.readBoolean? c else some (false, c)
    let (maxPath, _) ← if Der.peek Der.integerTag c then Der.readSmallInt? c else some (-1, c)
    some { cert with isCA, maxPathLen := maxPath, basicConstraintsValid := true,
                     maxPathLenZero := maxPath == 0 }
  | [2, 5, 29, 17] =>
    let (dns, mail, ips, uris) ← sanNames? e.value
    let cert := { cert with dnsNames := dns, emailAddresses := mail, ipAddresses := ips, uris }
    if dns.isEmpty ∧ mail.isEmpty ∧ ips.isEmpty ∧ uris.isEmpty then some (unhandled cert)
    else some cert
  | [2, 5, 29, 30] =>
    let (top, rest) ← Der.read? Der.sequenceTag e.value
    if !rest.isEmpty then none
    let (permitted, top) ← Der.readOptional? (Der.contextConstructed 0) top
    let (excluded, top) ← Der.readOptional? (Der.contextConstructed 1) top
    if !top.isEmpty then none
    if permitted.getD [] == [] ∧ excluded.getD [] == [] then none
    let p ← subtrees? (permitted.getD [])
    let x ← subtrees? (excluded.getD [])
    let cert := { cert with
      permittedDnsDomains := p.dns, permittedIpRanges := p.ips,
      permittedEmailAddresses := p.mails, permittedUriDomains := p.uris,
      excludedDnsDomains := x.dns, excludedIpRanges := x.ips,
      excludedEmailAddresses := x.mails, excludedUriDomains := x.uris,
      permittedDnsDomainsCritical := e.critical }
    some (if p.unhandled || x.unhandled then unhandled cert else cert)
  | [2, 5, 29, 31] =>
    let (c, _) ← Der.read? Der.sequenceTag e.value
    let points ← Der.elements? c
    let uris ← points.foldlM (fun (acc : List String) (dp : Der.Element) => do
      if dp.tag != Der.sequenceTag then none
      let (name, _) ← Der.readOptional? (Der.contextConstructed 0) dp.content
      match name with
      | none => some acc
      | some name =>
        let (full, _) ← Der.read? (Der.contextConstructed 0) name
        let names ← Der.elements? full
        some (acc ++ (names.takeWhile (·.tag == Der.contextTag 6)).map
          fun n => Utf8.textOfBytes n.content)) []
    some { cert with crlDistributionPoints := uris }
  | [2, 5, 29, 35] =>
    if e.critical then none
    let (c, _) ← Der.read? Der.sequenceTag e.value
    if Der.peek (Der.contextTag 0) c then
      let (kid, _) ← Der.read? (Der.contextTag 0) c
      some { cert with authorityKeyId := some kid }
    else some cert
  | [2, 5, 29, 37] =>
    let (c, _) ← Der.read? Der.sequenceTag e.value
    let items ← Der.elements? c
    let oids ← items.mapM fun i =>
      if i.tag != Der.oidTag then none else Der.oidValue? i.content
    some { cert with
      extKeyUsage := oids.filterMap fun o => (extKeyUsages.find? (·.1 == o)).map (·.2),
      unknownExtKeyUsage := oids.filter fun o => !(extKeyUsages.any (·.1 == o)) }
  | [2, 5, 29, 14] =>
    if e.critical then none
    let (kid, _) ← Der.read? Der.octetStringTag e.value
    some { cert with subjectKeyId := some kid }
  | [2, 5, 29, 32] =>
    let oids ← policyOids? e.value
    some { cert with
      policies := if oids.isEmpty then none else some oids,
      policyIdentifiers := some (oids.filterMap fun o =>
        (Der.oidValue? o).filter fun arcs => arcs.all (· < Nat.pow 2 31)) }
  | [2, 5, 29, 33] =>
    let (c, _) ← Der.read? Der.sequenceTag e.value
    let items ← Der.elements? c
    let maps ← items.mapM fun (m : Der.Element) => do
      if m.tag != Der.sequenceTag then none
      let (a, rest) ← Der.read? Der.oidTag m.content
      let (b, _) ← Der.read? Der.oidTag rest
      some (PolicyMapping.mk a b)
    some { cert with policyMappings := maps }
  | [2, 5, 29, 36] =>
    let (c, _) ← Der.read? Der.sequenceTag e.value
    let (explicit, c) ← implicitInteger? (Der.contextTag 0) c
    let (inhibit, _) ← implicitInteger? (Der.contextTag 1) c
    some { cert with requireExplicitPolicy := explicit.getD 0, inhibitPolicyMapping := inhibit.getD 0,
                     requireExplicitPolicyZero := explicit == some 0,
                     inhibitPolicyMappingZero := inhibit == some 0 }
  | [2, 5, 29, 54] =>
    let (v, _) ← Der.readSmallInt? e.value
    some { cert with inhibitAnyPolicy := v, inhibitAnyPolicyZero := v == 0 }
  | [2, 5, 29, _] => some (unhandled cert)
  | [1, 3, 6, 1, 5, 5, 7, 1, 1] =>
    if e.critical then none
    let (c, _) ← Der.read? Der.sequenceTag e.value
    let items ← Der.elements? c
    items.foldlM (fun (cert : Certificate) (i : Der.Element) => do
      if i.tag != Der.sequenceTag then none
      let (method, rest) ← Der.readOid? i.content
      if !Der.peek (Der.contextTag 6) rest then return cert
      let (loc, _) ← Der.read? (Der.contextTag 6) rest
      let loc := Utf8.textOfBytes loc
      if method == [1, 3, 6, 1, 5, 5, 7, 48, 1] then
        some { cert with ocspServer := cert.ocspServer ++ [loc] }
      else if method == [1, 3, 6, 1, 5, 5, 7, 48, 2] then
        some { cert with issuingCertificateUrl := cert.issuingCertificateUrl ++ [loc] }
      else some cert) cert
  | _ => some (unhandled cert)

def readExtension? (c : List UInt8) : Option Extension := do
  let (oid, c) ← Der.readOid? c
  let (critical, c) ← if Der.peek Der.booleanTag c then Der.readBoolean? c else some (false, c)
  let (value, _) ← Der.read? Der.octetStringTag c
  some ⟨oid, critical, value⟩

/-- The extensions of the content of a `[3]` of a certificate, none when one is malformed or
two share an identifier. -/
def readExtensions? (c : List UInt8) : Option (List Extension) := do
  let (c, _) ← Der.read? Der.sequenceTag c
  let items ← Der.elements? c
  items.foldlM (fun (acc : List Extension) (i : Der.Element) => do
    if i.tag != Der.sequenceTag then none
    let e ← readExtension? i.content
    if acc.any (·.oid == e.oid) then none
    some (acc ++ [e])) []

def skipOptional? (tag : UInt8) (s : List UInt8) : Option (List UInt8) :=
  (Der.readOptional? tag s).map (·.2)

def readCertificate? (der : List UInt8) : Option (Certificate × List UInt8) := do
  let (whole, after) ← Der.tagged? Der.sequenceTag der
  let (tbsEl, input) ← Der.tagged? Der.sequenceTag whole.content
  let tbs := tbsEl.content
  let (version, tbs) ← optionalInteger? (Der.contextConstructed 0) 0 tbs
  if version < 0 ∨ version > 2 then none
  let version := version.toNat + 1
  let (serial, tbs) ← Der.readInteger? tbs
  let (sigAi, tbs) ← Der.read? Der.sequenceTag tbs
  let (outerEl, input) ← Der.tagged? Der.sequenceTag input
  if outerEl.content != sigAi then none
  let sigAlg ← AlgorithmId.read? sigAi
  let (issuerEl, tbs) ← Der.tagged? Der.sequenceTag tbs
  let issuer ← Names.readRdns? true issuerEl.content
  let (validity, tbs) ← Der.read? Der.sequenceTag tbs
  let (notBefore, validity) ← Names.readTime? validity
  let (notAfter, _) ← Names.readTime? validity
  let (subjectEl, tbs) ← Der.tagged? Der.sequenceTag tbs
  let subject ← Names.readRdns? true subjectEl.content
  let (spkiEl, tbs) ← Der.tagged? Der.sequenceTag tbs
  let (pkAlg, keyBits) ← PublicKey.readInfo? spkiEl.content
  let pkAlgorithm := publicKeyAlgorithmOf pkAlg.oid
  let publicKey ← if pkAlgorithm = 0 then some none else (PublicKey.read? pkAlg keyBits).map some
  let extensions ← if version = 1 then some [] else do
    let tbs ← skipOptional? (Der.contextTag 1) tbs
    let tbs ← skipOptional? (Der.contextTag 2) tbs
    if version = 3 then
      let (exts, _) ← Der.readOptional? (Der.contextConstructed 3) tbs
      match exts with
      | none => some []
      | some c => readExtensions? c
    else some []
  let (sigBits, _) ← Der.readBitString? input
  let cert : Certificate := {
    raw := whole.encoded, rawTbs := tbsEl.encoded, rawSpki := spkiEl.encoded,
    rawSubject := subjectEl.encoded, rawIssuer := issuerEl.encoded,
    rawSignatureAlgorithm := outerEl.encoded, signature := sigBits.rightAlign,
    signatureAlgorithm := signatureAlgorithmOf sigAlg, publicKeyAlgorithm := pkAlgorithm,
    publicKey, version, serial, issuer, subject, notBefore, notAfter, extensions }
  let cert ← extensions.foldlM applyExtension cert
  some (cert, after)

def readCertificates? (der : List UInt8) : Option (List Certificate) :=
  go (der.length + 1) der
where
  go : Nat → List UInt8 → Option (List Certificate)
    | _, [] => some []
    | 0, _ => none
    | fuel + 1, s => do
      let (c, rest) ← readCertificate? s
      let more ← go fuel rest
      some (c :: more)

def readCertificate1? (der : List UInt8) : Option Certificate := do
  let (c, rest) ← readCertificate? der
  if rest.isEmpty then some c else none

def readAttribute? (e : Der.Element) : Option (List Nat × List (List NameAttribute)) := do
  if e.tag != Der.sequenceTag then none
  let (oid, rest) ← Der.readOid? e.content
  let (set, _) ← Der.read? Der.setTag rest
  let items ← Der.elements? set
  let values ← items.mapM fun (i : Der.Element) => do
    if i.tag != Der.sequenceTag then none
    let inner ← Der.elements? i.content
    inner.mapM fun (a : Der.Element) => do
      if a.tag != Der.sequenceTag then none
      let (t, r) ← Der.readOid? a.content
      let (v, _) ← Der.element? r
      let value ← Names.anyValue? v
      some (NameAttribute.mk t value)
  some (oid, values)

/-- The extensions a request asks for: those of the first value of each `extensionRequest`
attribute; none when such a value is malformed or two share an identifier. -/
def requestedExtensions? (attrs : List Der.Element) : Option (List Extension) :=
  attrs.foldlM (fun (acc : List Extension) (e : Der.Element) =>
    let first : Option (List Nat × Der.Element) := do
      if e.tag != Der.sequenceTag then none
      let (oid, rest) ← Der.readOid? e.content
      let (set, _) ← Der.read? Der.setTag rest
      let items ← Der.elements? set
      let v ← items.head?
      some (oid, v)
    match first with
    | some (oid, v) =>
      if oid != [1, 2, 840, 113549, 1, 9, 14] then some acc
      else do
        if v.tag != Der.sequenceTag then none
        let items ← Der.elements? v.content
        let exts ← items.mapM fun (i : Der.Element) => do
          if i.tag != Der.sequenceTag then none
          readExtension? i.content
        exts.foldlM (fun (acc : List Extension) ext =>
          if acc.any (·.oid == ext.oid) then none else some (acc ++ [ext])) acc
    | none => some acc) []

def readRequest? (der : List UInt8) : Option CertificateRequest := do
  let (whole, after) ← Der.tagged? Der.sequenceTag der
  if !after.isEmpty then none
  let (tbsEl, input) ← Der.tagged? Der.sequenceTag whole.content
  let (version, tbs) ← Der.readSmallInt? tbsEl.content
  let (subjectEl, tbs) ← Der.element? tbs
  let (spkiEl, tbs) ← Der.tagged? Der.sequenceTag tbs
  let (attrSet, _) ← Der.read? (Der.contextConstructed 0) tbs
  let attrs ← Der.elements? attrSet
  let (sigAiEl, input) ← Der.tagged? Der.sequenceTag input
  let sigAlg ← AlgorithmId.read? sigAiEl.content
  let (sigBits, _) ← Der.readBitString? input
  let (pkAlg, keyBits) ← PublicKey.readInfo? spkiEl.content
  let pkAlgorithm := publicKeyAlgorithmOf pkAlg.oid
  let publicKey ← if pkAlgorithm = 0 then some none else (PublicKey.read? pkAlg keyBits).map some
  if subjectEl.tag != Der.sequenceTag then none
  let subject ← Names.readRdns? false subjectEl.content
  let extensions ← requestedExtensions? attrs
  let (dns, mail, ips, uris) ← match extensions.find? (·.oid == [2, 5, 29, 17]) with
    | some e => sanNames? e.value
    | none => some ([], [], [], [])
  some {
    raw := whole.encoded, rawTbs := tbsEl.encoded, rawSpki := spkiEl.encoded,
    rawSubject := subjectEl.encoded, rawSignatureAlgorithm := sigAiEl.encoded, version,
    signature := sigBits.rightAlign, signatureAlgorithm := signatureAlgorithmOf sigAlg,
    publicKeyAlgorithm := pkAlgorithm, publicKey, subject,
    attributes := attrs.filterMap readAttribute?, extensions,
    dnsNames := dns, emailAddresses := mail, ipAddresses := ips, uris }

end X509

end AccessPolicy.Crypto
