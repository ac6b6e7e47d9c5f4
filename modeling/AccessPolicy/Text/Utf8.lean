/-!
# UTF-8 text from bytes

A byte value of a row is shown as text by reading it as UTF-8. Reading never fails: a byte that
starts no well-formed sequence (a stray continuation byte, an over-long form, a surrogate, a code
point past U+10FFFF or a sequence cut short) stands for one U+FFFD and reading goes on at the next
byte. Well-formed sequences are those of RFC 3629.

Text of Rego is a sequence of bytes that need not be UTF-8: decoding hexadecimal or base64 may
give any bytes, and those bytes must survive until they are encoded again. Such text is kept as
a string in which each byte `b` that starts no well-formed sequence is two characters: the
noncharacter U+FDD0 and then `U+10FF00 + b`, one of the last 128 code points, which are private
to an application. A text is thus read as a list of pieces, characters and raw bytes. Turning
the string back into bytes gives each raw byte back as itself, so decoding and encoding again is
the identity on bytes. Where the text is shown, each raw byte is a U+FFFD, as a reader of UTF-8
would show it. Characters that come in are kept as they are, the private ones included; only the
marker right before a private character past U+10FF7F reads as a raw byte.
-/

namespace AccessPolicy.Utf8

def replacement : Char := '�'

def isTail (b : UInt8) : Bool := 0x80 ≤ b ∧ b ≤ 0xBF

/-- The length of the well-formed sequence at the head of the bytes, or `0` when there is none.
The bounds on the second byte rule out over-long forms, surrogates and code points past
U+10FFFF. -/
def sequenceLength : List UInt8 → Nat
  | [] => 0
  | b0 :: rest =>
    if b0 < 0x80 then 1
    else
      let second (lo hi : UInt8) : Bool :=
        match rest with
        | b1 :: _ => lo ≤ b1 ∧ b1 ≤ hi
        | [] => false
      let tails (n : Nat) : Bool := (rest.drop 1).length + 1 ≥ n ∧ ((rest.drop 1).take (n - 1)).all isTail
      if 0xC2 ≤ b0 ∧ b0 ≤ 0xDF then (if second 0x80 0xBF then 2 else 0)
      else if b0 = 0xE0 then (if second 0xA0 0xBF ∧ tails 2 then 3 else 0)
      else if b0 = 0xED then (if second 0x80 0x9F ∧ tails 2 then 3 else 0)
      else if 0xE1 ≤ b0 ∧ b0 ≤ 0xEF then (if second 0x80 0xBF ∧ tails 2 then 3 else 0)
      else if b0 = 0xF0 then (if second 0x90 0xBF ∧ tails 3 then 4 else 0)
      else if b0 = 0xF4 then (if second 0x80 0x8F ∧ tails 3 then 4 else 0)
      else if 0xF1 ≤ b0 ∧ b0 ≤ 0xF3 then (if second 0x80 0xBF ∧ tails 3 then 4 else 0)
      else 0

def codePoint (bs : List UInt8) (n : Nat) : Nat :=
  let low6 (i : Nat) : Nat := ((bs.getD i 0).toNat % 64)
  let b0 := (bs.getD 0 0).toNat
  match n with
  | 2 => (b0 % 32) * 64 + low6 1
  | 3 => (b0 % 16) * 4096 + low6 1 * 64 + low6 2
  | 4 => (b0 % 8) * 262144 + low6 1 * 4096 + low6 2 * 64 + low6 3
  | _ => b0

/-- The characters of bytes read as UTF-8, a replacement character for each byte that starts no
well-formed sequence. -/
def decode (bs : List UInt8) : List Char :=
  match bs with
  | [] => []
  | b :: rest =>
    let n := sequenceLength (b :: rest)
    if n ≤ 1 then
      (if n = 1 then Char.ofNat b.toNat else replacement) :: decode rest
    else
      Char.ofNat (codePoint (b :: rest) n) :: decode ((b :: rest).drop n)
termination_by bs.length
decreasing_by all_goals simp_wf; all_goals omega

def encode (s : String) : List UInt8 :=
  s.toUTF8.toList

/-- The noncharacter that opens the two characters standing for a raw byte. Unicode sets
noncharacters aside for a program's own use, so text that comes in does not hold it in practice. -/
def marker : Char := '\uFDD0'

def rawBase : Nat := 0x10FF00
def rawChar (b : UInt8) : Char := Char.ofNat (rawBase + b.toNat)

def isRawChar (c : Char) : Bool := c.toNat ≥ rawBase + 0x80

/-- One piece of a text as a reader of bytes sees it: a character, or a byte that starts no
well-formed sequence. -/
inductive Piece where
  | char (c : Char)
  | byte (b : UInt8)
  deriving BEq, Repr, Inhabited

/-- The pieces of a list of characters: the marker and a character past U+10FF7F are one raw
byte, every other character is itself. -/
def piecesOfChars : List Char → List Piece
  | [] => []
  | [c] => [.char c]
  | c :: r :: more =>
    if c == marker && isRawChar r then .byte (r.toNat - rawBase).toUInt8 :: piecesOfChars more
    else .char c :: piecesOfChars (r :: more)

def charsOfPieces (ps : List Piece) : List Char :=
  ps.flatMap fun
    | .char c => [c]
    | .byte b => [marker, rawChar b]

def ofPieces (ps : List Piece) : String := String.ofList (charsOfPieces ps)

def Piece.isByte : Piece → Bool
  | .byte _ => true
  | .char _ => false

def Piece.bytes : Piece → List UInt8
  | .char c => encode (String.singleton c)
  | .byte b => [b]

def Piece.shown : Piece → Char
  | .char c => c
  | .byte _ => replacement

/-- The characters of bytes read as UTF-8, each byte that starts no well-formed sequence kept as
the two characters that stand for it. -/
def decodeKeeping (bs : List UInt8) : List Char :=
  match bs with
  | [] => []
  | b :: rest =>
    let n := sequenceLength (b :: rest)
    if n ≤ 1 then
      (if n = 1 then [Char.ofNat b.toNat] else [marker, rawChar b]) ++ decodeKeeping rest
    else
      Char.ofNat (codePoint (b :: rest) n) :: decodeKeeping ((b :: rest).drop n)
termination_by bs.length
decreasing_by all_goals simp_wf; all_goals omega

def textOfBytes (bs : List UInt8) : String := String.ofList (decodeKeeping bs)

def pieces (s : String) : List Piece := piecesOfChars s.toList

def hasRaw (s : String) : Bool := s.contains marker && (pieces s).any Piece.isByte

def bytesOf (s : String) : List UInt8 :=
  if hasRaw s then (pieces s).flatMap Piece.bytes else encode s
def shown (s : String) : String :=
  if hasRaw s then String.ofList ((pieces s).map Piece.shown) else s

def runeCount (s : String) : Nat :=
  if hasRaw s then (pieces s).length else s.length

def takeRunes (n : Nat) (s : String) : String :=
  if hasRaw s then ofPieces ((pieces s).take n) else String.ofList (s.toList.take n)

/-- The characters of a text with each raw byte as the marker alone, for readers that only ask
whether a character is a raw byte. -/
def marked (s : String) : List Char :=
  if hasRaw s then (pieces s).map fun
    | .char c => c
    | .byte _ => marker
  else s.toList

/-- A text put back together from its bytes, so that raw bytes that now form well-formed
sequences, as after joining texts, become the characters they encode. -/
def rejoin (s : String) : String :=
  if hasRaw s then textOfBytes (bytesOf s) else s

end AccessPolicy.Utf8
