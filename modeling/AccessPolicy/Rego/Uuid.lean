import AccessPolicy.Rego.Builtin
import AccessPolicy.Text.Hex
/-!
# UUIDs
-/

namespace AccessPolicy.Rego

namespace Uuid

def hexByte? (a b : UInt8) : Option Nat := do
  let x ← CharClass.hexValue? (Char.ofNat a.toNat)
  let y ← CharClass.hexValue? (Char.ofNat b.toNat)
  some (x * 16 + y)

def bytesAt (s : List UInt8) (places : List Nat) : Option (List Nat) :=
  places.mapM fun i => do hexByte? (← s[i]?) (← s[i + 1]?)

def hyphenPlaces : List Nat := [0, 2, 4, 6, 9, 11, 14, 16, 19, 21, 24, 26, 28, 30, 32, 34]
def readHyphenated (s : List UInt8) : Option (List Nat) :=
  if [8, 13, 18, 23].all fun i => s[i]? = some 45 then bytesAt s hyphenPlaces else none

def read? (text : String) : Option (List Nat) :=
  let s := Utf8.encode text
  match s.length with
  | 36 => readHyphenated s
  | 38 => readHyphenated (s.drop 1)
  | 45 =>
    if (String.ofList (Utf8.decode (s.take 9))).toLower == "urn:uuid:" then
      readHyphenated (s.drop 9)
    else none
  | 32 => bytesAt s ((List.range 16).map (2 * ·))
  | _ => none

def bigEndian (bs : List Nat) : Nat := bs.foldl (fun n b => n * 256 + b) 0

def gregorianOffset : Nat := 0x01B21DD213814000

def variantName (b : Nat) : String :=
  if b &&& 0xc0 = 0x80 then "RFC4122"
  else if b &&& 0xe0 = 0xc0 then "Microsoft"
  else if b &&& 0xe0 = 0xe0 then "Future"
  else "Reserved"

def domainName (b : Nat) : String :=
  match b with
  | 0 => "Person"
  | 1 => "Group"
  | 2 => "Org"
  | n => "Domain" ++ toString n

def macVariables (first : Nat) : String :=
  (if first &&& 2 = 0 then "global" else "local") ++ ":" ++
    (if first &&& 1 = 0 then "unicast" else "multicast")

def describe (u : List Nat) : Datum :=
  let at_ := fun i => u.getD i 0
  let version := at_ 6 / 16
  let base := [("version", intNumber version), ("variant", .string (variantName (at_ 8)))]
  let stamped :=
    if version = 1 ∨ version = 2 then
      let steps : Nat := bigEndian (u.take 4) + bigEndian ((u.drop 4).take 2) * Nat.pow 2 32 +
        (bigEndian ((u.drop 6).take 2) % 0x1000) * Nat.pow 2 48
      let node := (u.drop 10).take 6
      [("time", intNumber (((steps : Int) - (gregorianOffset : Int)) * 100)),
       ("clocksequence", intNumber (bigEndian ((u.drop 8).take 2) % 0x4000)),
       ("nodeid", .string ("-".intercalate (node.map fun b => Hex.encode [b.toUInt8]))),
       ("macvariables", .string (macVariables (at_ 10)))]
    else []
  let domain :=
    if version = 2 then
      [("id", intNumber (bigEndian (u.take 4))), ("domain", .string (domainName (at_ 9)))]
    else []
  Datum.objectOf ((base ++ stamped ++ domain).map fun (k, v) => (.string k, v))

def apply (name : String) (args : List Datum) : Option Datum :=
  match name, args with
  | "uuid.parse", [.string s] => (read? s).map describe
  | _, _ => none

end Uuid

end AccessPolicy.Rego
