import AccessPolicy.Text.Md5
/-!
# SHA digests and HMAC

The SHA-1, SHA-256, SHA-384 and SHA-512 digests of FIPS 180-4, and the keyed digests of
RFC 2104 built on them and on MD5.

All of them pad the message with a one bit, zeros, and the message's length in bits as a
big-endian number (64 bits for SHA-1 and SHA-256, 128 bits for SHA-384 and SHA-512), up to a
whole number of blocks (64 bytes, or 128 for SHA-384 and SHA-512). Each block is expanded into a schedule of words and
mixed into the chaining words; the digest is the final chaining words, big-endian. Sums wrap at
the word size.

An HMAC hashes the message after the key mixed with `0x36`, then the result after the key
mixed with `0x5c`; a key longer than a block is first replaced by its digest, and a shorter
one is padded with zeros.
-/

namespace AccessPolicy.Sha

def chunks (n : Nat) (bs : List UInt8) : List (Array UInt8) :=
  if n = 0 then []
  else if bs.length ≤ n then (if bs = [] then [] else [bs.toArray])
  else (bs.take n).toArray :: chunks n (bs.drop n)
termination_by bs.length
decreasing_by all_goals simp_wf; omega

/-- A message padded to blocks of `block` bytes with a `lengthBytes`-byte big-endian bit
length. -/
def pad (block lengthBytes : Nat) (msg : List UInt8) : List UInt8 :=
  let bits := msg.length * 8
  let used := (msg.length + 1 + lengthBytes) % block
  let zeros := if used = 0 then 0 else block - used
  msg ++ [0x80] ++ List.replicate zeros 0 ++
    (List.range lengthBytes).reverse.map (fun k => (bits / Nat.pow 2 (8 * k) % 256).toUInt8)

def word32 (block : Array UInt8) (j : Nat) : UInt32 :=
  let byte (k : Nat) : UInt32 := (block.getD (4 * j + k) 0).toUInt32
  (byte 0 <<< 24) ||| (byte 1 <<< 16) ||| (byte 2 <<< 8) ||| byte 3

def word64 (block : Array UInt8) (j : Nat) : UInt64 :=
  (List.range 8).foldl (fun acc k => (acc <<< 8) ||| (block.getD (8 * j + k) 0).toUInt64) 0

def bytes32 (x : UInt32) : List UInt8 :=
  [(x >>> 24).toUInt8, (x >>> 16).toUInt8, (x >>> 8).toUInt8, x.toUInt8]

def bytes64 (x : UInt64) : List UInt8 :=
  (List.range 8).reverse.map fun k => (x >>> (8 * k).toUInt64).toUInt8

def rotl32 (x : UInt32) (s : UInt32) : UInt32 := (x <<< s) ||| (x >>> (32 - s))

def rotr32 (x : UInt32) (s : UInt32) : UInt32 := (x >>> s) ||| (x <<< (32 - s))

def rotr64 (x : UInt64) (s : UInt64) : UInt64 := (x >>> s) ||| (x <<< (64 - s))

def hexText (bs : List UInt8) : String :=
  String.join (bs.map Md5.hexByte)

/-! ## SHA-1 -/

def sha1Schedule (block : Array UInt8) : Array UInt32 :=
  (List.range 64).foldl (fun (w : Array UInt32) i =>
    let t := i + 16
    w.push (rotl32 (w.getD (t - 3) 0 ^^^ w.getD (t - 8) 0 ^^^ w.getD (t - 14) 0 ^^^
      w.getD (t - 16) 0) 1)) ((List.range 16).toArray.map (word32 block))

def sha1Compress (h : Array UInt32) (block : Array UInt8) : Array UInt32 :=
  let w := sha1Schedule block
  let init := (h.getD 0 0, h.getD 1 0, h.getD 2 0, h.getD 3 0, h.getD 4 0)
  let (a, b, c, d, e) := (List.range 80).foldl (fun (s : UInt32 × UInt32 × UInt32 × UInt32 × UInt32) i =>
    let (a, b, c, d, e) := s
    let (f, k) : UInt32 × UInt32 :=
      if i < 20 then ((b &&& c) ||| (~~~b &&& d), 0x5A827999)
      else if i < 40 then (b ^^^ c ^^^ d, 0x6ED9EBA1)
      else if i < 60 then ((b &&& c) ||| (b &&& d) ||| (c &&& d), 0x8F1BBCDC)
      else (b ^^^ c ^^^ d, 0xCA62C1D6)
    let t := rotl32 a 5 + f + e + k + w.getD i 0
    (t, a, rotl32 b 30, c, d)) init
  #[h.getD 0 0 + a, h.getD 1 0 + b, h.getD 2 0 + c, h.getD 3 0 + d, h.getD 4 0 + e]

def sha1 (msg : List UInt8) : List UInt8 :=
  let h := (chunks 64 (pad 64 8 msg)).foldl sha1Compress
    #[0x67452301, 0xEFCDAB89, 0x98BADCFE, 0x10325476, 0xC3D2E1F0]
  h.toList.flatMap bytes32

/-! ## SHA-256 -/

def sha256Constants : Array UInt32 := #[
  0x428a2f98, 0x71374491, 0xb5c0fbcf, 0xe9b5dba5, 0x3956c25b, 0x59f111f1, 0x923f82a4, 0xab1c5ed5,
  0xd807aa98, 0x12835b01, 0x243185be, 0x550c7dc3, 0x72be5d74, 0x80deb1fe, 0x9bdc06a7, 0xc19bf174,
  0xe49b69c1, 0xefbe4786, 0x0fc19dc6, 0x240ca1cc, 0x2de92c6f, 0x4a7484aa, 0x5cb0a9dc, 0x76f988da,
  0x983e5152, 0xa831c66d, 0xb00327c8, 0xbf597fc7, 0xc6e00bf3, 0xd5a79147, 0x06ca6351, 0x14292967,
  0x27b70a85, 0x2e1b2138, 0x4d2c6dfc, 0x53380d13, 0x650a7354, 0x766a0abb, 0x81c2c92e, 0x92722c85,
  0xa2bfe8a1, 0xa81a664b, 0xc24b8b70, 0xc76c51a3, 0xd192e819, 0xd6990624, 0xf40e3585, 0x106aa070,
  0x19a4c116, 0x1e376c08, 0x2748774c, 0x34b0bcb5, 0x391c0cb3, 0x4ed8aa4a, 0x5b9cca4f, 0x682e6ff3,
  0x748f82ee, 0x78a5636f, 0x84c87814, 0x8cc70208, 0x90befffa, 0xa4506ceb, 0xbef9a3f7, 0xc67178f2]

def sha256Schedule (block : Array UInt8) : Array UInt32 :=
  (List.range 48).foldl (fun (w : Array UInt32) i =>
    let t := i + 16
    let x := w.getD (t - 15) 0
    let y := w.getD (t - 2) 0
    let s0 := rotr32 x 7 ^^^ rotr32 x 18 ^^^ (x >>> 3)
    let s1 := rotr32 y 17 ^^^ rotr32 y 19 ^^^ (y >>> 10)
    w.push (w.getD (t - 16) 0 + s0 + w.getD (t - 7) 0 + s1)) ((List.range 16).toArray.map (word32 block))

def sha256Compress (h : Array UInt32) (block : Array UInt8) : Array UInt32 :=
  let w := sha256Schedule block
  let out := (List.range 64).foldl (fun (v : Array UInt32) i =>
    let a := v.getD 0 0
    let b := v.getD 1 0
    let c := v.getD 2 0
    let d := v.getD 3 0
    let e := v.getD 4 0
    let f := v.getD 5 0
    let g := v.getD 6 0
    let hh := v.getD 7 0
    let s1 := rotr32 e 6 ^^^ rotr32 e 11 ^^^ rotr32 e 25
    let ch := (e &&& f) ^^^ (~~~e &&& g)
    let t1 := hh + s1 + ch + sha256Constants.getD i 0 + w.getD i 0
    let s0 := rotr32 a 2 ^^^ rotr32 a 13 ^^^ rotr32 a 22
    let maj := (a &&& b) ^^^ (a &&& c) ^^^ (b &&& c)
    let t2 := s0 + maj
    #[t1 + t2, a, b, c, d + t1, e, f, g]) h
  (List.range 8).toArray.map fun i => h.getD i 0 + out.getD i 0

def sha256 (msg : List UInt8) : List UInt8 :=
  let h := (chunks 64 (pad 64 8 msg)).foldl sha256Compress
    #[0x6a09e667, 0xbb67ae85, 0x3c6ef372, 0xa54ff53a, 0x510e527f, 0x9b05688c, 0x1f83d9ab,
      0x5be0cd19]
  h.toList.flatMap bytes32

/-! ## SHA-512 -/

def sha512Constants : Array UInt64 := #[
  0x428a2f98d728ae22, 0x7137449123ef65cd, 0xb5c0fbcfec4d3b2f, 0xe9b5dba58189dbbc,
  0x3956c25bf348b538, 0x59f111f1b605d019, 0x923f82a4af194f9b, 0xab1c5ed5da6d8118,
  0xd807aa98a3030242, 0x12835b0145706fbe, 0x243185be4ee4b28c, 0x550c7dc3d5ffb4e2,
  0x72be5d74f27b896f, 0x80deb1fe3b1696b1, 0x9bdc06a725c71235, 0xc19bf174cf692694,
  0xe49b69c19ef14ad2, 0xefbe4786384f25e3, 0x0fc19dc68b8cd5b5, 0x240ca1cc77ac9c65,
  0x2de92c6f592b0275, 0x4a7484aa6ea6e483, 0x5cb0a9dcbd41fbd4, 0x76f988da831153b5,
  0x983e5152ee66dfab, 0xa831c66d2db43210, 0xb00327c898fb213f, 0xbf597fc7beef0ee4,
  0xc6e00bf33da88fc2, 0xd5a79147930aa725, 0x06ca6351e003826f, 0x142929670a0e6e70,
  0x27b70a8546d22ffc, 0x2e1b21385c26c926, 0x4d2c6dfc5ac42aed, 0x53380d139d95b3df,
  0x650a73548baf63de, 0x766a0abb3c77b2a8, 0x81c2c92e47edaee6, 0x92722c851482353b,
  0xa2bfe8a14cf10364, 0xa81a664bbc423001, 0xc24b8b70d0f89791, 0xc76c51a30654be30,
  0xd192e819d6ef5218, 0xd69906245565a910, 0xf40e35855771202a, 0x106aa07032bbd1b8,
  0x19a4c116b8d2d0c8, 0x1e376c085141ab53, 0x2748774cdf8eeb99, 0x34b0bcb5e19b48a8,
  0x391c0cb3c5c95a63, 0x4ed8aa4ae3418acb, 0x5b9cca4f7763e373, 0x682e6ff3d6b2b8a3,
  0x748f82ee5defb2fc, 0x78a5636f43172f60, 0x84c87814a1f0ab72, 0x8cc702081a6439ec,
  0x90befffa23631e28, 0xa4506cebde82bde9, 0xbef9a3f7b2c67915, 0xc67178f2e372532b,
  0xca273eceea26619c, 0xd186b8c721c0c207, 0xeada7dd6cde0eb1e, 0xf57d4f7fee6ed178,
  0x06f067aa72176fba, 0x0a637dc5a2c898a6, 0x113f9804bef90dae, 0x1b710b35131c471b,
  0x28db77f523047d84, 0x32caab7b40c72493, 0x3c9ebe0a15c9bebc, 0x431d67c49c100d4c,
  0x4cc5d4becb3e42b6, 0x597f299cfc657e2a, 0x5fcb6fab3ad6faec, 0x6c44198c4a475817]

def sha512Schedule (block : Array UInt8) : Array UInt64 :=
  (List.range 64).foldl (fun (w : Array UInt64) i =>
    let t := i + 16
    let x := w.getD (t - 15) 0
    let y := w.getD (t - 2) 0
    let s0 := rotr64 x 1 ^^^ rotr64 x 8 ^^^ (x >>> 7)
    let s1 := rotr64 y 19 ^^^ rotr64 y 61 ^^^ (y >>> 6)
    w.push (w.getD (t - 16) 0 + s0 + w.getD (t - 7) 0 + s1)) ((List.range 16).toArray.map (word64 block))

def sha512Compress (h : Array UInt64) (block : Array UInt8) : Array UInt64 :=
  let w := sha512Schedule block
  let out := (List.range 80).foldl (fun (v : Array UInt64) i =>
    let a := v.getD 0 0
    let b := v.getD 1 0
    let c := v.getD 2 0
    let d := v.getD 3 0
    let e := v.getD 4 0
    let f := v.getD 5 0
    let g := v.getD 6 0
    let hh := v.getD 7 0
    let s1 := rotr64 e 14 ^^^ rotr64 e 18 ^^^ rotr64 e 41
    let ch := (e &&& f) ^^^ (~~~e &&& g)
    let t1 := hh + s1 + ch + sha512Constants.getD i 0 + w.getD i 0
    let s0 := rotr64 a 28 ^^^ rotr64 a 34 ^^^ rotr64 a 39
    let maj := (a &&& b) ^^^ (a &&& c) ^^^ (b &&& c)
    let t2 := s0 + maj
    #[t1 + t2, a, b, c, d + t1, e, f, g]) h
  (List.range 8).toArray.map fun i => h.getD i 0 + out.getD i 0

def sha512 (msg : List UInt8) : List UInt8 :=
  let h := (chunks 128 (pad 128 16 msg)).foldl sha512Compress
    #[0x6a09e667f3bcc908, 0xbb67ae8584caa73b, 0x3c6ef372fe94f82b, 0xa54ff53a5f1d36f1,
      0x510e527fade682d1, 0x9b05688c2b3e6c1f, 0x1f83d9abfb41bd6b, 0x5be0cd19137e2179]
  h.toList.flatMap bytes64

def sha384 (msg : List UInt8) : List UInt8 :=
  let h := (chunks 128 (pad 128 16 msg)).foldl sha512Compress
    #[0xcbbb9d5dc1059ed8, 0x629a292a367cd507, 0x9159015a3070dd17, 0x152fecd8f70e5939,
      0x67332667ffc00b31, 0x8eb44a8768581511, 0xdb0c2e0d64f98fa7, 0x47b5481dbefa4fa4]
  (h.toList.flatMap bytes64).take 48

/-! ## HMAC -/

def hmac (digest : List UInt8 → List UInt8) (block : Nat) (key msg : List UInt8) : List UInt8 :=
  let key := if key.length > block then digest key else key
  let key := key ++ List.replicate (block - key.length) 0
  let inner := digest (key.map (· ^^^ 0x36) ++ msg)
  digest (key.map (· ^^^ 0x5c) ++ inner)

end AccessPolicy.Sha
