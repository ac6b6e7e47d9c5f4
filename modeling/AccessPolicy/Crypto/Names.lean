import AccessPolicy.Crypto.Der
import AccessPolicy.Value.LayoutRead
/-!
# Names, strings and times in certificates

The subject and the issuer of a certificate are distinguished names: a sequence of relative
names, each a set of attributes, each attribute a sequence of an object identifier and a value.
-/

namespace AccessPolicy.Crypto
inductive AnyValue where
  | text (s : String)
  | integer (n : Int)
  | octets (bytes : List UInt8)
  | bits (b : Der.BitString)
  | oid (arcs : List Nat)
  | time (t : Timestamp)
  | empty
deriving Inhabited
structure NameAttribute where
  oid : List Nat
  value : AnyValue
deriving Inhabited

abbrev Rdns := List (List NameAttribute)

namespace Names
def isPrintable (b : UInt8) : Bool :=
  let c := Char.ofNat b.toNat
  ('a' ≤ c && c ≤ 'z') || ('A' ≤ c && c ≤ 'Z') || ('0' ≤ c && c ≤ '9') ||
    ('\'' ≤ c && c ≤ ')') || ('+' ≤ c && c ≤ '/') || " :=?*&".toList.contains c

def asciiText (bs : List UInt8) : String := String.ofList (bs.map fun b => Char.ofNat b.toNat)

def bmpText? (bs : List UInt8) : Option String := do
  if bs.length % 2 != 0 then none
  let n := bs.length
  let bs := if n ≥ 2 ∧ bs.drop (n - 2) == [0, 0] then bs.take (n - 2) else bs
  let units := (List.range (bs.length / 2)).map fun i =>
    (bs.getD (2 * i) 0).toNat * 256 + (bs.getD (2 * i + 1) 0).toNat
  if units.any (fun u => u = 0xfffe ∨ u = 0xffff ∨ (0xfdd0 ≤ u ∧ u ≤ 0xfdef) ∨
      (0xd800 ≤ u ∧ u ≤ 0xdfff)) then none
  some (String.ofList (units.map Char.ofNat))

/-- The text of a string element of a given tag; `latin` reads T.61 as Latin-1 rather than
keeping its bytes. -/
def stringValue? (latin : Bool) (tag : UInt8) (bs : List UInt8) : Option String :=
  if tag = Der.t61StringTag then
    some (if latin then String.ofList (bs.map fun b => Char.ofNat b.toNat) else Utf8.textOfBytes bs)
  else if tag = Der.printableStringTag then
    if bs.all isPrintable then some (asciiText bs) else none
  else if tag = Der.utf8StringTag then
    let s := Utf8.textOfBytes bs
    if Utf8.hasRaw s then none else some s
  else if tag = Der.bmpStringTag then bmpText? bs
  else if tag = Der.ia5StringTag then
    if bs.all (· < 0x80) then some (asciiText bs) else none
  else if tag = Der.numericStringTag then
    if bs.all fun b => (0x30 ≤ b ∧ b ≤ 0x39) ∨ b = 0x20 then some (asciiText bs) else none
  else none
def timeIn? (layout text : String) : Option Timestamp := do
  let t ← Timestamp.readLayout layout text
  if t.format layout == text then some t else none

def utcTime? (text : String) : Option Timestamp := do
  let t ← (timeIn? "060102150405Z0700" text).orElse fun _ => timeIn? "0601021504Z0700" text
  some (if t.year ≥ 2050 then { t with year := t.year - 100 } else t)

def generalizedTime? (text : String) : Option Timestamp := timeIn? "20060102150405Z0700" text

def readTime? (s : List UInt8) : Option (Timestamp × List UInt8) :=
  if Der.peek Der.utcTimeTag s then do
    let (c, rest) ← Der.read? Der.utcTimeTag s
    let t ← utcTime? (asciiText c)
    some (t, rest)
  else if Der.peek Der.generalizedTimeTag s then do
    let (c, rest) ← Der.read? Der.generalizedTimeTag s
    let t ← generalizedTime? (asciiText c)
    some (t, rest)
  else none

/-- The value of an element of any type, as the lenient reader takes it; none when an element
of a type it reads breaks that type's rule. -/
def anyValue? (e : Der.Element) : Option AnyValue :=
  let c := e.content
  if e.tag = Der.integerTag then do
    let v ← Der.integerValue? c
    if c.length > 8 then none else some (.integer v)
  else if e.tag = Der.bitStringTag then (Der.bitStringValue? c).map .bits
  else if e.tag = Der.oidTag then (Der.oidValue? c).map .oid
  else if e.tag = Der.utcTimeTag then
    (timeIn? "0601021504Z0700" (asciiText c) |>.orElse fun _ =>
      timeIn? "060102150405Z0700" (asciiText c)).map fun t =>
        .time (if t.year ≥ 2050 then { t with year := t.year - 100 } else t)
  else if e.tag = Der.generalizedTimeTag then (generalizedTime? (asciiText c)).map .time
  else if e.tag = Der.octetStringTag then some (.octets c)
  else if [Der.printableStringTag, Der.numericStringTag, Der.ia5StringTag, Der.t61StringTag,
      Der.utf8StringTag, Der.bmpStringTag].contains e.tag then
    (stringValue? false e.tag c).map .text
  else some .empty

def readSet? (strict : Bool) (c : List UInt8) : Option (List NameAttribute) := do
  let items ← Der.elements? c
  items.mapM fun item => do
    if item.tag != Der.sequenceTag then none
    let (oid, rest) ← Der.readOid? item.content
    let (value, _) ← Der.element? rest
    let v ← if strict then (stringValue? true value.tag value.content).map AnyValue.text
      else anyValue? value
    some ⟨oid, v⟩
def readRdns? (strict : Bool) (c : List UInt8) : Option Rdns := do
  let sets ← Der.elements? c
  sets.mapM fun set => do
    if set.tag != Der.setTag then none
    readSet? strict set.content

end Names

end AccessPolicy.Crypto
