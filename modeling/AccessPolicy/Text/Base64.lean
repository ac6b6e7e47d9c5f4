import AccessPolicy.Text.Utf8
/-!
# Base64

Bytes travel inside JSON documents in the standard base64 alphabet of RFC 4648 with `=`
padding. Decoding reads quanta of four characters, passing over carriage returns and newlines;
it refuses any other character, a quantum cut short by the end of the text, and padding that is
malformed or followed by more, naming a byte position as the decoder counts it. The bits a last
group carries beyond its bytes are not checked.
-/

namespace AccessPolicy.Base64

def alphabet : List Char :=
  "ABCDEFGHIJKLMNOPQRSTUVWXYZabcdefghijklmnopqrstuvwxyz0123456789+/".toList

def encodeSix (n : Nat) : Char := alphabet.getD n 'A'
def decodeSix? (c : Char) : Option Nat := alphabet.idxOf? c

def encode (bs : List UInt8) : String :=
  String.ofList (go bs)
where
  go : List UInt8 → List Char
    | [] => []
    | [a] =>
      let n := a.toNat * 65536
      [encodeSix (n / 262144), encodeSix (n / 4096 % 64), '=', '=']
    | [a, b] =>
      let n := a.toNat * 65536 + b.toNat * 256
      [encodeSix (n / 262144), encodeSix (n / 4096 % 64), encodeSix (n / 64 % 64), '=']
    | a :: b :: c :: rest =>
      let n := a.toNat * 65536 + b.toNat * 256 + c.toNat
      [encodeSix (n / 262144), encodeSix (n / 4096 % 64), encodeSix (n / 64 % 64), encodeSix (n % 64)]
        ++ go rest

def sixOf? (b : UInt8) : Option Nat := decodeSix? (Char.ofNat b.toNat)

def isBreak (b : UInt8) : Bool := b = 13 ∨ b = 10

def skipBreaks (src : Array UInt8) : Nat → Nat → Nat
  | 0, i => i
  | fuel + 1, i =>
    match src[i]? with
    | some b => if isBreak b then skipBreaks src fuel (i + 1) else i
    | none => i

def groupBytes (groups : List Nat) : List UInt8 :=
  let g := groups ++ List.replicate (4 - groups.length) 0
  let n := g[0]! * 262144 + g[1]! * 4096 + g[2]! * 64 + g[3]!
  let bytes := [(n / 65536 % 256).toUInt8, (n / 256 % 256).toUInt8, (n % 256).toUInt8]
  bytes.take (groups.length - 1)

/-- Reads one quantum from position `si`, having read the groups `groups` of it: the position
after it and its bytes, or the position of the byte that is wrong. Line breaks are passed over;
the quantum ends at four groups, at the end of the text, or at padding, which must be `==`
after two groups and `=` after three, with nothing but line breaks after it. -/
def quantum (src : Array UInt8) : Nat → Nat → List Nat → Except Nat (Nat × List UInt8)
  | 0, si, groups => .ok (si, groupBytes groups)
  | fuel + 1, si, groups =>
    if groups.length = 4 then .ok (si, groupBytes groups)
    else
      match src[si]? with
      | none => if groups.isEmpty then .ok (si, []) else .error (si - groups.length)
      | some b =>
        match sixOf? b with
        | some g => quantum src fuel (si + 1) (groups ++ [g])
        | none =>
          if isBreak b then quantum src fuel (si + 1) groups
          else if b ≠ 61 then .error si
          else if groups.length < 2 then .error si
          else
            let after : Except Nat Nat :=
              if groups.length = 2 then
                let pos := skipBreaks src src.size (si + 1)
                match src[pos]? with
                | none => .error src.size
                | some c => if c ≠ 61 then .error (pos - 1) else .ok (pos + 1)
              else .ok (si + 1)
            match after with
            | .error e => .error e
            | .ok next =>
              let next := skipBreaks src src.size next
              if next < src.size then .error next else .ok (next, groupBytes groups)

def decodeFrom (src : Array UInt8) : Nat → Nat → List UInt8 → Except Nat (List UInt8)
  | 0, _, acc => .ok acc
  | fuel + 1, si, acc =>
    if si ≥ src.size then .ok acc
    else
      match quantum src (src.size + 1) si [] with
      | .error e => .error e
      | .ok (next, bytes) =>
        if next ≤ si then .ok (acc ++ bytes) else decodeFrom src fuel next (acc ++ bytes)

/-- Decodes a text; the error is the byte position the decoder reports as wrong. The bits a
last group carries beyond its bytes are not checked. -/
def decode (s : String) : Except Nat (List UInt8) :=
  let src := (Utf8.encode s).toArray
  decodeFrom src (src.size + 1) 0 []

end AccessPolicy.Base64
