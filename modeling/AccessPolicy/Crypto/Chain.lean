import AccessPolicy.Crypto.Certificate
import AccessPolicy.Rego.Networks
/-!
# Verifying a chain of certificates

A list of certificates is verified as a chain: the first is the trusted root, the last the leaf,
and those between are intermediates that may be used. A chain runs from the leaf up through
intermediates to the root; each certificate in it is signed by the next. The chains are found by
searching, from the leaf, the certificates whose subject is the current certificate's issuer,
roots first and then intermediates; among those, the ones whose subject key identifier matches
the authority key identifier come first, then those where only one of the two is given, then the
rest. The first chain found is the answer.
-/

namespace AccessPolicy.Crypto

structure VerifyOptions where
  dnsName : String := ""
  currentTime : Option Int := none
  keyUsages : List Nat := []

inductive ChainPlace where
  | leaf
  | intermediate
  | root
deriving DecidableEq

namespace Chain

def ecdsaSignature? (sig : List UInt8) : Option (Nat × Nat) := do
  let (c, rest) ← Der.read? Der.sequenceTag sig
  if !rest.isEmpty then none
  let (r, c) ← Der.readInteger? c
  let (s, c) ← Der.readInteger? c
  if !c.isEmpty ∨ r < 0 ∨ s < 0 then none
  some (r.toNat, s.toNat)

def checkSignature (algo : Nat) (signed sig : List UInt8) (key : PublicKey) : Bool :=
  match X509.signatureHash? algo with
  | none => false
  | some (hash?, keyAlg, pss) =>
    if hash? == some .md5 || hash? == some .sha1 then false
    else
      match key, hash? with
      | .rsa k, some h =>
        keyAlg == 1 &&
          (if pss then Rsa.verifyPss k h (h.digest signed) sig (some h.size)
           else Rsa.verifyPkcs1 k h (h.digest signed) sig)
      | .ecdsa c x y, some h =>
        keyAlg == 3 &&
          match ecdsaSignature? sig with
          | some (r, s) => c.verify x y (h.digest signed) r s
          | none => false
      | .ed25519 pub, none => keyAlg == 4 && Edwards.verify pub signed sig
      | _, _ => false

def signedBy (child parent : Certificate) : Bool :=
  !((parent.version == 3 && !parent.basicConstraintsValid) ||
      (parent.basicConstraintsValid && !parent.isCA)) &&
    !(parent.keyUsage != 0 && parent.keyUsage &&& 32 == 0) &&
    parent.publicKeyAlgorithm != 0 &&
    match parent.publicKey with
    | some k => checkSignature child.signatureAlgorithm child.rawTbs child.signature k
    | none => false

def validIn (opts : VerifyOptions) (place : ChainPlace) (chain : List Certificate)
    (c : Certificate) : Bool :=
  c.unhandledCritical.isEmpty &&
    (chain.getLast?.all fun child => child.rawIssuer == c.rawSubject) &&
    (opts.currentTime.all fun now =>
      !(now < c.notBefore.unixNanos) && !(now > c.notAfter.unixNanos)) &&
    !(place == .intermediate && (!c.basicConstraintsValid || !c.isCA)) &&
    !(c.basicConstraintsValid && c.maxPathLen ≥ 0 &&
      ((chain.length : Int) - 1) > c.maxPathLen)

def sanValue (c : Certificate) : Option (List UInt8) :=
  (c.extensions.find? (·.oid == [2, 5, 29, 17])).map (·.value)

def alreadyIn (c : Certificate) (chain : List Certificate) : Bool :=
  chain.any fun other =>
    other.rawSubject == c.rawSubject && other.publicKey == c.publicKey &&
      sanValue other == sanValue c

def parentsOf (pool : List Certificate) (c : Certificate) : List Certificate :=
  let named := pool.filter (·.rawSubject == c.rawIssuer)
  let kid (p : Certificate) := p.subjectKeyId.getD []
  let akid := c.authorityKeyId.getD []
  let matching := named.filter fun p => kid p == akid
  let one := named.filter fun p => kid p != akid && (kid p).isEmpty != akid.isEmpty
  let other := named.filter fun p => kid p != akid && (kid p).isEmpty == akid.isEmpty
  matching ++ one ++ other

/-- The chains that extend a chain so far, leaf first, up to a root; `fuel` bounds their
length. -/
def extend (opts : VerifyOptions) (roots inters : List Certificate) :
    Nat → List Certificate → List (List Certificate)
  | 0, _ => []
  | fuel + 1, chain =>
    match chain.getLast? with
    | none => []
    | some c =>
      let usable (place : ChainPlace) (p : Certificate) : Bool :=
        p.publicKey.isSome && !alreadyIn p chain && signedBy c p && validIn opts place chain p
      let viaRoots := ((parentsOf roots c).filter (usable .root)).map fun p => chain ++ [p]
      let viaInters := ((parentsOf inters c).filter (usable .intermediate)).flatMap fun p =>
        extend opts roots inters fuel (chain ++ [p])
      viaRoots ++ viaInters

def lowerAscii (s : String) : String :=
  s.map fun c => if 'A' ≤ c ∧ c ≤ 'Z' then Char.ofNat (c.toNat + 32) else c

/-- Whether a host name is valid: labels of letters, digits, `_` and inner `-`, none empty;
a pattern may start with a `*` label, and an input may end with a dot. -/
def validHostname (host : String) (pattern : Bool) : Bool :=
  let host := if !pattern ∧ host.endsWith "." then (host.dropEnd 1).toString else host
  !host.isEmpty && host != "*" &&
    ((host.splitOn ".").zipIdx.all fun (part, i) =>
      !part.isEmpty &&
        ((pattern && i == 0 && part == "*") ||
          (part.toList.zipIdx.all fun (c, j) =>
            c.isAlphanum && c.toNat < 128 || (c == '-' && j != 0) || c == '_')))

def matchHostnames (pattern host : String) : Bool :=
  let pattern := lowerAscii pattern
  let host := lowerAscii (if host.endsWith "." then (host.dropEnd 1).toString else host)
  !pattern.isEmpty && !host.isEmpty &&
    let ps := pattern.splitOn "."
    let hs := host.splitOn "."
    ps.length == hs.length &&
      (ps.zip hs).zipIdx.all fun ((p, h), i) => (i == 0 && p == "*") || p == h

def matchExactly (a b : String) : Bool :=
  a != "" && a != "." && b != "" && b != "." && lowerAscii a == lowerAscii b

def verifyHostname (c : Certificate) (h : String) : Bool :=
  let candidate := if h.length ≥ 3 ∧ h.startsWith "[" ∧ h.endsWith "]"
    then ((h.drop 1).dropEnd 1).toString else h
  match Rego.Networks.parseIP candidate with
  | some ip =>
    c.ipAddresses.any fun a =>
      let a := a.map (·.toNat)
      (if a.length == 4 then Rego.Networks.mappedPrefix ++ a else a) == ip
  | none =>
    let name := lowerAscii h
    let validName := validHostname name false
    c.dnsNames.any fun m =>
      if validName && validHostname m true then matchHostnames m name else matchExactly m name
def allowsUsages (chain : List Certificate) (usages : List Nat) : Bool :=
  let remaining := chain.reverse.foldl (fun (left : List Nat) (c : Certificate) =>
    if c.extKeyUsage.isEmpty && c.unknownExtKeyUsage.isEmpty then left
    else if c.extKeyUsage.contains 0 then left
    else left.filter c.extKeyUsage.contains) usages
  !chain.isEmpty && !remaining.isEmpty
def distinct (cs : List Certificate) : List Certificate :=
  cs.foldl (fun acc c => if acc.any (·.raw == c.raw) then acc else acc ++ [c]) []

/-- The first chain that verifies for a list of certificates, root first and leaf last: the chain
from the leaf up to the root. -/
def verify (opts : VerifyOptions) (certs : List Certificate) : Option (List Certificate) := do
  if certs.length < 2 then none
  let roots := distinct (certs.take 1)
  let inters := distinct ((certs.drop 1).take (certs.length - 2))
  let leaf ← certs.getLast?
  if !validIn opts .leaf [] leaf then none
  if opts.dnsName != "" ∧ !verifyHostname leaf opts.dnsName then none
  let candidates := if roots.any (·.raw == leaf.raw) then [[leaf]]
    else extend opts roots inters (inters.length + 2) [leaf]
  if candidates.isEmpty then none
  if opts.keyUsages.contains 0 then candidates.head?
  else
    let usages := if opts.keyUsages.isEmpty then [1] else opts.keyUsages
    candidates.find? (allowsUsages · usages)

end Chain

end AccessPolicy.Crypto
