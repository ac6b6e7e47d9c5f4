import AccessPolicy.Text.Utf8
/-!
# Distinguished encoding
-/

namespace AccessPolicy.Der

def booleanTag : UInt8 := 0x01
def integerTag : UInt8 := 0x02
def bitStringTag : UInt8 := 0x03
def octetStringTag : UInt8 := 0x04
def nullTag : UInt8 := 0x05
def oidTag : UInt8 := 0x06
def utf8StringTag : UInt8 := 0x0C
def numericStringTag : UInt8 := 0x12
def printableStringTag : UInt8 := 0x13
def t61StringTag : UInt8 := 0x14
def ia5StringTag : UInt8 := 0x16
def utcTimeTag : UInt8 := 0x17
def generalizedTimeTag : UInt8 := 0x18
def bmpStringTag : UInt8 := 0x1E
def sequenceTag : UInt8 := 0x30
def setTag : UInt8 := 0x31

def contextTag (n : Nat) : UInt8 := 0x80 + n.toUInt8

def contextConstructed (n : Nat) : UInt8 := 0xA0 + n.toUInt8
def bigEndian (bs : List UInt8) : Nat := bs.foldl (fun acc b => acc * 256 + b.toNat) 0

def bytesOfNat (n value : Nat) : List UInt8 :=
  (List.range n).reverse.map fun k => (value / Nat.pow 256 k % 256).toUInt8

def minimalBytes (value : Nat) : List UInt8 :=
  bytesOfNat ((Nat.log2 value + 8) / 8 - (if value = 0 then 1 else 0)) value

structure Element where
  tag : UInt8
  content : List UInt8
  encoded : List UInt8
deriving Inhabited, BEq

def element? (s : List UInt8) : Option (Element × List UInt8) :=
  match s with
  | tag :: lenByte :: rest =>
    if tag &&& 0x1f = 0x1f then none
    else if lenByte < 0x80 then
      let n := lenByte.toNat
      if rest.length < n then none
      else some (⟨tag, rest.take n, s.take (n + 2)⟩, rest.drop n)
    else
      let k := (lenByte &&& 0x7f).toNat
      if k = 0 ∨ k > 4 ∨ rest.length < k then none
      else
        let n := bigEndian (rest.take k)
        if n < 128 ∨ n / Nat.pow 256 (k - 1) = 0 then none
        else
          let body := rest.drop k
          if body.length < n then none
          else some (⟨tag, body.take n, s.take (2 + k + n)⟩, body.drop n)
  | _ => none

def tagged? (tag : UInt8) (s : List UInt8) : Option (Element × List UInt8) := do
  let (e, rest) ← element? s
  if e.tag = tag then some (e, rest) else none

/-- The content of the element at the head of some bytes when it has the given tag, and the
bytes after it. -/
def read? (tag : UInt8) (s : List UInt8) : Option (List UInt8 × List UInt8) :=
  (tagged? tag s).map fun (e, rest) => (e.content, rest)

def peek (tag : UInt8) (s : List UInt8) : Bool := s.head? == some tag

/-- The content of the next element when it has the given tag, or nothing when another tag is
next; the element, when there, must be well formed. -/
def readOptional? (tag : UInt8) (s : List UInt8) : Option (Option (List UInt8) × List UInt8) :=
  if peek tag s then (read? tag s).map fun (c, rest) => (some c, rest) else some (none, s)

/-- The elements one after another that make up some bytes, all of them. -/
def elements? (s : List UInt8) : Option (List Element) :=
  go (s.length + 1) s
where
  go : Nat → List UInt8 → Option (List Element)
    | _, [] => some []
    | 0, _ => none
    | fuel + 1, s => do
      let (e, rest) ← element? s
      let more ← go fuel rest
      some (e :: more)

/-- The value of the content of an integer: at least one byte, minimally written, in two's
complement. -/
def integerValue? (c : List UInt8) : Option Int :=
  let value : Int := if c.head?.any (· ≥ 0x80)
    then (bigEndian c : Int) - (Nat.pow 256 c.length : Int) else bigEndian c
  match c with
  | [] => none
  | [_] => some value
  | b0 :: b1 :: _ =>
    if (b0 = 0 ∧ b1 < 0x80) ∨ (b0 = 0xff ∧ b1 ≥ 0x80) then none else some value

def readInteger? (s : List UInt8) : Option (Int × List UInt8) := do
  let (c, rest) ← read? integerTag s
  let v ← integerValue? c
  some (v, rest)

def readSmallInt? (s : List UInt8) : Option (Int × List UInt8) := do
  let (v, rest) ← readInteger? s
  if v < -(Nat.pow 2 63 : Int) ∨ v ≥ (Nat.pow 2 63 : Int) then none else some (v, rest)

/-- One number of an object identifier, base 128: its value and the bytes after it. -/
def base128? : Nat → Nat → List UInt8 → Option (Nat × List UInt8)
  | _, _, [] => none
  | i, acc, b :: rest =>
    if i = 5 ∨ acc ≥ Nat.pow 2 24 ∨ (i = 0 ∧ b = 0x80) then none
    else
      let acc := acc * 128 + (b &&& 0x7f).toNat
      if b &&& 0x80 = 0 then some (acc, rest) else base128? (i + 1) acc rest
def oidValue? (c : List UInt8) : Option (List Nat) := do
  if c.isEmpty then none
  let (first, rest) ← base128? 0 0 c
  let head := if first < 80 then [first / 40, first % 40] else [2, first - 80]
  let more ← arcs (rest.length + 1) rest
  some (head ++ more)
where
  arcs : Nat → List UInt8 → Option (List Nat)
    | _, [] => some []
    | 0, _ => none
    | fuel + 1, s => do
      let (v, rest) ← base128? 0 0 s
      let more ← arcs fuel rest
      some (v :: more)

def readOid? (s : List UInt8) : Option (List Nat × List UInt8) := do
  let (c, rest) ← read? oidTag s
  let v ← oidValue? c
  some (v, rest)

def readBoolean? (s : List UInt8) : Option (Bool × List UInt8) := do
  let (c, rest) ← read? booleanTag s
  match c with
  | [0] => some (false, rest)
  | [0xff] => some (true, rest)
  | _ => none

/-- A string of bits: its bytes, the first bit the high bit of the first byte, and how many
bits it holds. -/
structure BitString where
  bytes : List UInt8
  bitLength : Nat
deriving Inhabited
def bitStringValue? (c : List UInt8) : Option BitString :=
  match c with
  | [] => none
  | unused :: bytes =>
    if unused > 7 then none
    else if bytes.isEmpty ∧ unused ≠ 0 then none
    else if bytes.getLast?.any (fun last => last &&& ((1 <<< unused) - 1) ≠ 0) then none
    else some ⟨bytes, bytes.length * 8 - unused.toNat⟩

def readBitString? (s : List UInt8) : Option (BitString × List UInt8) := do
  let (c, rest) ← read? bitStringTag s
  let v ← bitStringValue? c
  some (v, rest)

def BitString.at (b : BitString) (i : Nat) : Nat :=
  if i ≥ b.bitLength then 0 else ((b.bytes.getD (i / 8) 0).toNat >>> (7 - i % 8)) % 2

def BitString.rightAlign (b : BitString) : List UInt8 :=
  let shift := 8 - b.bitLength % 8
  if shift = 8 ∨ b.bytes.isEmpty then b.bytes
  else
    let value := bigEndian b.bytes / Nat.pow 2 shift
    bytesOfNat b.bytes.length value

def oidText (arcs : List Nat) : String := ".".intercalate (arcs.map toString)

end AccessPolicy.Der
