import AccessPolicy.Text.Base64
/-!
# PEM blocks
-/

namespace AccessPolicy.Pem

structure Block where
  kind : String
  bytes : List UInt8

def ascii (s : String) : List UInt8 := s.toList.map fun c => c.toNat.toUInt8

def beginText : List UInt8 := ascii "-----BEGIN "

def endText : List UInt8 := ascii "-----END "

def dashes : List UInt8 := ascii "-----"

def isBlank (b : UInt8) : Bool := b = 0x20 ∨ b = 0x09

def isSpace (b : UInt8) : Bool := isBlank b ∨ b = 0x0A ∨ b = 0x0B ∨ b = 0x0C ∨ b = 0x0D

def after? (pattern : List UInt8) : List UInt8 → Option (List UInt8)
  | [] => if pattern.isEmpty then some [] else none
  | b :: rest =>
    if pattern.isPrefixOf (b :: rest) then some ((b :: rest).drop pattern.length)
    else after? pattern rest

def indexOf? (pattern : List UInt8) (s : List UInt8) : Option Nat :=
  (List.range (s.length + 1)).find? fun i => pattern.isPrefixOf (s.drop i)

/-- The first line of some bytes, without its line break or trailing spaces and tabs, and the
bytes after the line break. -/
def line (s : List UInt8) : List UInt8 × List UInt8 :=
  let body := s.takeWhile (· ≠ 0x0A)
  let rest := s.drop (body.length + 1)
  let body := if body.getLast? == some 0x0D then body.dropLast else body
  ((body.reverse.dropWhile isBlank).reverse, rest)

def base64Bytes? (text : List UInt8) : Option (List UInt8) :=
  let kept := text.filter (fun b => !isBlank b)
  match Base64.decode (String.ofList (kept.map fun b => Char.ofNat b.toNat)) with
  | .ok bytes => some bytes
  | .error _ => none

/-- Passes over header lines, those that hold a colon: the bytes after them, and whether there
was one; none when the input ends first. -/
def skipHeaders : Nat → Bool → List UInt8 → Option (List UInt8 × Bool)
  | _, _, [] => none
  | 0, seen, s => some (s, seen)
  | fuel + 1, seen, s =>
    let (l, next) := line s
    if l.contains 0x3A then skipHeaders fuel true next else some (s, seen)

/-- Reads the rest of a block after its `-----BEGIN `: the block and what follows it, when the
rest makes one. -/
def blockAfterBegin? (s : List UInt8) : Option (Block × List UInt8) := do
  let (typeLine, rest) := line s
  if !dashes.reverse.isPrefixOf typeLine.reverse then none
  let typeLine := typeLine.take (typeLine.length - dashes.length)
  let (rest, headers) ← skipHeaders (rest.length + 1) false rest
  let (endIndex, trailerIndex) ←
    if !headers ∧ endText.isPrefixOf rest then some (0, endText.length)
    else (indexOf? ([0x0A] ++ endText) rest).map fun i => (i, i + endText.length + 1)
  let trailer := rest.drop trailerIndex
  let trailerLength := typeLine.length + dashes.length
  if trailer.length < trailerLength then none
  let (closing, restOfLine) := (trailer.take trailerLength, trailer.drop trailerLength)
  if !typeLine.isPrefixOf closing ∨ !dashes.reverse.isPrefixOf closing.reverse then none
  if !(line restOfLine).1.isEmpty then none
  let bytes ← base64Bytes? (rest.take endIndex)
  let after := (line (rest.drop (endIndex + endText.length))).2
  some (⟨Utf8.textOfBytes typeLine, bytes⟩, after)
def decode? (data : List UInt8) : Option (Block × List UInt8) :=
  go (data.length + 1) data
where
  go : Nat → List UInt8 → Option (Block × List UInt8)
    | 0, _ => none
    | fuel + 1, s => do
      let afterBegin ← if beginText.isPrefixOf s then some (s.drop beginText.length)
        else after? ([0x0A] ++ beginText) s
      match blockAfterBegin? afterBegin with
      | some found => some found
      | none => go fuel ((line afterBegin).2)

def blocks (data : List UInt8) : List Block :=
  go (data.length + 1) data
where
  go : Nat → List UInt8 → List Block
    | 0, _ => []
    | fuel + 1, s =>
      match decode? s with
      | some (b, rest) => b :: go fuel rest
      | none => []

end AccessPolicy.Pem
