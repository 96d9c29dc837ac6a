import Kurdistan.Support.Bytes

/-!
# Checksums and digests

CRC-32 with the IEEE polynomial and SHA-256, as `hash/crc32` and
`crypto/sha256` compute them. Both are executable; no property of them beyond
being functions is used.
-/

namespace Kurdistan.Support

/-! ## CRC-32 -/

/-- One bit of the reflected division by the IEEE polynomial. -/
def crc32Shift (crc : UInt32) : UInt32 :=
  if crc &&& 1 = 1 then (crc >>> 1) ^^^ 0xEDB88320 else crc >>> 1

/-- The entry of `crc32.IEEETable` for one byte. -/
def crc32Entry (byte : UInt32) : UInt32 :=
  (List.replicate 8 ()).foldl (fun crc _ => crc32Shift crc) byte

/-- `crc32.Update` with the IEEE table. -/
def crc32Update (crc : UInt32) (bytes : List UInt8) : UInt32 :=
  ~~~ bytes.foldl
    (fun crc byte => crc32Entry ((crc ^^^ byte.toUInt32) &&& 0xFF) ^^^ (crc >>> 8)) (~~~ crc)

variable (bytes : List UInt8)

/-- `crc32.ChecksumIEEE`. -/
def crc32ChecksumIEEE : UInt32 := crc32Update 0 bytes

example : crc32ChecksumIEEE (asciiBytes "123456789") = 0xCBF43926 := by
  decide +kernel

/-! ## SHA-256 -/

def sha256Constants : List UInt32 :=
  [0x428a2f98, 0x71374491, 0xb5c0fbcf, 0xe9b5dba5, 0x3956c25b, 0x59f111f1, 0x923f82a4,
    0xab1c5ed5, 0xd807aa98, 0x12835b01, 0x243185be, 0x550c7dc3, 0x72be5d74, 0x80deb1fe,
    0x9bdc06a7, 0xc19bf174, 0xe49b69c1, 0xefbe4786, 0x0fc19dc6, 0x240ca1cc, 0x2de92c6f,
    0x4a7484aa, 0x5cb0a9dc, 0x76f988da, 0x983e5152, 0xa831c66d, 0xb00327c8, 0xbf597fc7,
    0xc6e00bf3, 0xd5a79147, 0x06ca6351, 0x14292967, 0x27b70a85, 0x2e1b2138, 0x4d2c6dfc,
    0x53380d13, 0x650a7354, 0x766a0abb, 0x81c2c92e, 0x92722c85, 0xa2bfe8a1, 0xa81a664b,
    0xc24b8b70, 0xc76c51a3, 0xd192e819, 0xd6990624, 0xf40e3585, 0x106aa070, 0x19a4c116,
    0x1e376c08, 0x2748774c, 0x34b0bcb5, 0x391c0cb3, 0x4ed8aa4a, 0x5b9cca4f, 0x682e6ff3,
    0x748f82ee, 0x78a5636f, 0x84c87814, 0x8cc70208, 0x90befffa, 0xa4506ceb, 0xbef9a3f7, 0xc67178f2]

/-- The eight chaining words. -/
structure Sha256State where
  a : UInt32
  b : UInt32
  c : UInt32
  d : UInt32
  e : UInt32
  f : UInt32
  g : UInt32
  h : UInt32

def sha256Initial : Sha256State :=
  ⟨0x6a09e667, 0xbb67ae85, 0x3c6ef372, 0xa54ff53a, 0x510e527f, 0x9b05688c, 0x1f83d9ab, 0x5be0cd19⟩

def rotateRight (word : UInt32) (bits : UInt32) : UInt32 :=
  (word >>> bits) ||| (word <<< (32 - bits))

/-- One round with its constant and message word. -/
def sha256Round (s : Sha256State) (input : UInt32 × UInt32) : Sha256State :=
  let sum1 := rotateRight s.e 6 ^^^ rotateRight s.e 11 ^^^ rotateRight s.e 25
  let choose := (s.e &&& s.f) ^^^ (~~~ s.e &&& s.g)
  let temp1 := s.h + sum1 + choose + input.1 + input.2
  let sum0 := rotateRight s.a 2 ^^^ rotateRight s.a 13 ^^^ rotateRight s.a 22
  let majority := (s.a &&& s.b) ^^^ (s.a &&& s.c) ^^^ (s.b &&& s.c)
  ⟨temp1 + (sum0 + majority), s.a, s.b, s.c, s.d + temp1, s.e, s.f, s.g⟩

/-- The sixteen words of a block, read from its bytes. -/
def sha256Words : ℕ → List UInt8 → List UInt32
  | 0, _ => []
  | n + 1, bytes => getUint32 bytes :: sha256Words n (bytes.drop 4)

/-- Extend a message schedule, kept newest word first, by `n` words. -/
def sha256Schedule : ℕ → List UInt32 → List UInt32
  | 0, newest => newest.reverse
  | n + 1, newest =>
    let w2 := newest.getD 1 0
    let w15 := newest.getD 14 0
    let small1 := rotateRight w2 17 ^^^ rotateRight w2 19 ^^^ (w2 >>> 10)
    let small0 := rotateRight w15 7 ^^^ rotateRight w15 18 ^^^ (w15 >>> 3)
    sha256Schedule n ((small1 + newest.getD 6 0 + small0 + newest.getD 15 0) :: newest)

/-- Compress one block of sixty-four bytes. -/
def sha256Block (s : Sha256State) (block : List UInt8) : Sha256State :=
  let words := sha256Schedule 48 (sha256Words 16 block).reverse
  let r := (sha256Constants.zip words).foldl sha256Round s
  ⟨s.a + r.a, s.b + r.b, s.c + r.c, s.d + r.d, s.e + r.e, s.f + r.f, s.g + r.g, s.h + r.h⟩

def sha256Blocks : ℕ → Sha256State → List UInt8 → Sha256State
  | 0, s, _ => s
  | n + 1, s, bytes => sha256Blocks n (sha256Block s (bytes.take 64)) (bytes.drop 64)

/-- The message followed by its padding and its length in bits. -/
def sha256Padded : List UInt8 :=
  bytes ++ 0x80 :: List.replicate ((119 - bytes.length % 64) % 64) 0 ++
    bigEndian 8 (8 * bytes.length)

/-- `sha256.Sum256`. -/
def sha256 : FixedBytes 32 :=
  let padded := sha256Padded bytes
  let s := sha256Blocks (padded.length / 64) sha256Initial padded
  ⟨putUint32 s.a ++ putUint32 s.b ++ putUint32 s.c ++ putUint32 s.d ++ putUint32 s.e ++
    putUint32 s.f ++ putUint32 s.g ++ putUint32 s.h, by simp⟩

example : (sha256 (asciiBytes "abc")).toList.take 8 =
    [0xba, 0x78, 0x16, 0xbf, 0x8f, 0x01, 0xcf, 0xea] := by decide +kernel

end Kurdistan.Support
