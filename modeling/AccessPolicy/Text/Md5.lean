/-!
# MD5 digests

The `hash` mask replaces a value by the MD5 digest (RFC 1321) of its text, written as 32
lower-case hexadecimal digits. The digest works on 32-bit words, whose sums wrap.
-/

namespace AccessPolicy.Md5

def constants : Array UInt32 := #[
  0xd76aa478, 0xe8c7b756, 0x242070db, 0xc1bdceee, 0xf57c0faf, 0x4787c62a, 0xa8304613, 0xfd469501,
  0x698098d8, 0x8b44f7af, 0xffff5bb1, 0x895cd7be, 0x6b901122, 0xfd987193, 0xa679438e, 0x49b40821,
  0xf61e2562, 0xc040b340, 0x265e5a51, 0xe9b6c7aa, 0xd62f105d, 0x02441453, 0xd8a1e681, 0xe7d3fbc8,
  0x21e1cde6, 0xc33707d6, 0xf4d50d87, 0x455a14ed, 0xa9e3e905, 0xfcefa3f8, 0x676f02d9, 0x8d2a4c8a,
  0xfffa3942, 0x8771f681, 0x6d9d6122, 0xfde5380c, 0xa4beea44, 0x4bdecfa9, 0xf6bb4b60, 0xbebfbc70,
  0x289b7ec6, 0xeaa127fa, 0xd4ef3085, 0x04881d05, 0xd9d4d039, 0xe6db99e5, 0x1fa27cf8, 0xc4ac5665,
  0xf4292244, 0x432aff97, 0xab9423a7, 0xfc93a039, 0x655b59c3, 0x8f0ccc92, 0xffeff47d, 0x85845dd1,
  0x6fa87e4f, 0xfe2ce6e0, 0xa3014314, 0x4e0811a1, 0xf7537e82, 0xbd3af235, 0x2ad7d2bb, 0xeb86d391]

def rotation (i : Nat) : UInt32 :=
  let r := i / 16
  let table : List UInt32 :=
    if r = 0 then [7, 12, 17, 22] else if r = 1 then [5, 9, 14, 20]
    else if r = 2 then [4, 11, 16, 23] else [6, 10, 15, 21]
  table.getD (i % 4) 0

def rotateLeft (x s : UInt32) : UInt32 :=
  (x <<< s) ||| (x >>> (32 - s))

structure State where
  a : UInt32
  b : UInt32
  c : UInt32
  d : UInt32

def State.initial : State := ⟨0x67452301, 0xefcdab89, 0x98badcfe, 0x10325476⟩

def word (block : Array UInt8) (j : Nat) : UInt32 :=
  let byte (k : Nat) : UInt32 := (block.getD (4 * j + k) 0).toUInt32
  byte 0 ||| (byte 1 <<< 8) ||| (byte 2 <<< 16) ||| (byte 3 <<< 24)
def step (block : Array UInt8) (s : State) (i : Nat) : State :=
  let (f, g) :=
    if i < 16 then ((s.b &&& s.c) ||| (~~~s.b &&& s.d), i)
    else if i < 32 then ((s.d &&& s.b) ||| (~~~s.d &&& s.c), (5 * i + 1) % 16)
    else if i < 48 then (s.b ^^^ s.c ^^^ s.d, (3 * i + 5) % 16)
    else (s.c ^^^ (s.b ||| ~~~s.d), (7 * i) % 16)
  let f := f + s.a + constants.getD i 0 + word block g
  { a := s.d, b := s.b + rotateLeft f (rotation i), c := s.b, d := s.c }

def compress (s : State) (block : Array UInt8) : State :=
  let t := (List.range 64).foldl (step block) s
  { a := s.a + t.a, b := s.b + t.b, c := s.c + t.c, d := s.d + t.d }

/-- The message with its padding: a one bit, zeros up to 56 bytes modulo 64, and the bit length
as a little-endian 64-bit number. -/
def pad (msg : List UInt8) : List UInt8 :=
  let bits := msg.length * 8
  let zeros := (119 - msg.length % 64) % 64
  msg ++ [0x80] ++ List.replicate zeros 0 ++
    (List.range 8).map (fun k => (bits / Nat.pow 2 (8 * k) % 256).toUInt8)

def blocks (bs : List UInt8) : List (Array UInt8) :=
  if bs.length ≤ 64 then (if bs = [] then [] else [bs.toArray])
  else (bs.take 64).toArray :: blocks (bs.drop 64)
termination_by bs.length
decreasing_by all_goals simp_wf <;> omega

def wordBytes (x : UInt32) : List UInt8 :=
  (List.range 4).map (fun k => (x >>> (8 * k).toUInt32).toUInt8)

def digest (msg : List UInt8) : List UInt8 :=
  let s := (blocks (pad msg)).foldl compress State.initial
  wordBytes s.a ++ wordBytes s.b ++ wordBytes s.c ++ wordBytes s.d

def hexByte (b : UInt8) : String :=
  let digit (n : Nat) : Char := "0123456789abcdef".toList.getD n '0'
  String.ofList [digit (b.toNat / 16), digit (b.toNat % 16)]

def hexDigest (msg : List UInt8) : String :=
  String.join ((digest msg).map hexByte)

end AccessPolicy.Md5
