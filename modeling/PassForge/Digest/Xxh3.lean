/-!
# The XXH3 digest of 128 bits

The digest of a byte string with seed zero.  The algorithm has a rule of its own for each range of
lengths: nothing at all, up to 3, 8, 16, 128 and 240 bytes, and longer.  All arithmetic is on words
of 64 bits, which wrap.

Reading past the end of a byte string gives zeros; no rule reads there.
-/

namespace PassForge.Digest

/-- A digest, as two words. -/
structure Hash128 where
  /-- The low half. -/
  low : UInt64
  /-- The high half. -/
  high : UInt64
deriving DecidableEq, Repr

namespace Hash128

/-- The sixteen hexadecimal digits of a word. -/
def wordDigits (w : UInt64) : List Char :=
  let digits := Nat.toDigits 16 w.toNat
  List.replicate (16 - digits.length) '0' ++ digits

/-- The digest as 32 lower-case hexadecimal digits, the high half first. -/
def hex (h : Hash128) : String := String.ofList (wordDigits h.high ++ wordDigits h.low)

end Hash128

namespace Xxh3

/-! ### Constants -/

/-- The fixed key material. -/
def secret : ByteArray := ⟨#[
  0xb8, 0xfe, 0x6c, 0x39, 0x23, 0xa4, 0x4b, 0xbe, 0x7c, 0x01, 0x81, 0x2c, 0xf7, 0x21, 0xad, 0x1c,
  0xde, 0xd4, 0x6d, 0xe9, 0x83, 0x90, 0x97, 0xdb, 0x72, 0x40, 0xa4, 0xa4, 0xb7, 0xb3, 0x67, 0x1f,
  0xcb, 0x79, 0xe6, 0x4e, 0xcc, 0xc0, 0xe5, 0x78, 0x82, 0x5a, 0xd0, 0x7d, 0xcc, 0xff, 0x72, 0x21,
  0xb8, 0x08, 0x46, 0x74, 0xf7, 0x43, 0x24, 0x8e, 0xe0, 0x35, 0x90, 0xe6, 0x81, 0x3a, 0x26, 0x4c,
  0x3c, 0x28, 0x52, 0xbb, 0x91, 0xc3, 0x00, 0xcb, 0x88, 0xd0, 0x65, 0x8b, 0x1b, 0x53, 0x2e, 0xa3,
  0x71, 0x64, 0x48, 0x97, 0xa2, 0x0d, 0xf9, 0x4e, 0x38, 0x19, 0xef, 0x46, 0xa9, 0xde, 0xac, 0xd8,
  0xa8, 0xfa, 0x76, 0x3f, 0xe3, 0x9c, 0x34, 0x3f, 0xf9, 0xdc, 0xbb, 0xc7, 0xc7, 0x0b, 0x4f, 0x1d,
  0x8a, 0x51, 0xe0, 0x4b, 0xcd, 0xb4, 0x59, 0x31, 0xc8, 0x9f, 0x7e, 0xc9, 0xd9, 0x78, 0x73, 0x64,
  0xea, 0xc5, 0xac, 0x83, 0x34, 0xd3, 0xeb, 0xc3, 0xc5, 0x81, 0xa0, 0xff, 0xfa, 0x13, 0x63, 0xeb,
  0x17, 0x0d, 0xdd, 0x51, 0xb7, 0xf0, 0xda, 0x49, 0xd3, 0x16, 0x55, 0x26, 0x29, 0xd4, 0x68, 0x9e,
  0x2b, 0x16, 0xbe, 0x58, 0x7d, 0x47, 0xa1, 0xfc, 0x8f, 0xf8, 0xb8, 0xd1, 0x7a, 0xd0, 0x31, 0xce,
  0x45, 0xcb, 0x3a, 0x8f, 0x95, 0x16, 0x04, 0x28, 0xaf, 0xd7, 0xfb, 0xca, 0xbb, 0x4b, 0x40, 0x7e]⟩

def prime32a : UInt64 := 0x9E3779B1
def prime32b : UInt64 := 0x85EBCA77
def prime32c : UInt64 := 0xC2B2AE3D
def prime64a : UInt64 := 0x9E3779B185EBCA87
def prime64b : UInt64 := 0xC2B2AE3D27D4EB4F
def prime64c : UInt64 := 0x165667B19E3779F9
def prime64d : UInt64 := 0x85EBCA77C2B2AE63
def prime64e : UInt64 := 0x27D4EB2F165667C5
def mixPrimeA : UInt64 := 0x165667919E3779F9
def mixPrimeB : UInt64 := 0x9FB21C651E98DF25

/-! ### Words -/

/-- The byte at position `i`. -/
def byteAt (b : ByteArray) (i : Nat) : UInt64 := ((b[i]?).getD 0).toUInt64

/-- The `n` bytes from position `i`, least significant first. -/
def readLE (b : ByteArray) (i n : Nat) : UInt64 :=
  (List.range n).foldl (fun acc k => acc ||| (byteAt b (i + k) <<< (8 * k).toUInt64)) 0

/-- The word of 32 bits at position `i`. -/
def read32 (b : ByteArray) (i : Nat) : UInt64 := readLE b i 4

/-- The word of 64 bits at position `i`. -/
def read64 (b : ByteArray) (i : Nat) : UInt64 := readLE b i 8

/-- The low 32 bits. -/
def low32 (x : UInt64) : UInt64 := x &&& 0xFFFFFFFF

/-- The low `n` bytes of a word in reverse order. -/
def swapBytes (n : Nat) (x : UInt64) : UInt64 :=
  (List.range n).foldl
    (fun acc k => acc ||| (((x >>> (8 * k).toUInt64) &&& 0xFF) <<< (8 * (n - 1 - k)).toUInt64)) 0

/-- Rotates a word of 32 bits to the left. -/
def rotateLeft32 (x n : UInt64) : UInt64 := low32 ((x <<< n) ||| (low32 x >>> (32 - n)))

/-- `x` with itself, shifted right, mixed in. -/
def xorShift (x n : UInt64) : UInt64 := x ^^^ (x >>> n)

/-- The full product of two words. -/
def mulWide (a b : UInt64) : Hash128 :=
  let p := a.toNat * b.toNat
  ⟨p.toUInt64, (p >>> 64).toUInt64⟩

/-- The two halves of the full product, mixed. -/
def mulFold (a b : UInt64) : UInt64 :=
  let p := mulWide a b
  p.low ^^^ p.high

/-- The final mixing of the longer rules. -/
def avalanche (h : UInt64) : UInt64 :=
  xorShift (xorShift h 37 * mixPrimeA) 32

/-- The final mixing of the shortest rules. -/
def avalancheShort (h : UInt64) : UInt64 :=
  xorShift (xorShift (xorShift h 33 * prime64b) 29 * prime64c) 32

/-! ### Up to 16 bytes -/

/-- No byte. -/
def hashEmpty : Hash128 :=
  ⟨avalancheShort (read64 secret 64 ^^^ read64 secret 72),
    avalancheShort (read64 secret 80 ^^^ read64 secret 88)⟩

/-- 1 to 3 bytes. -/
def hash1To3 (b : ByteArray) : Hash128 :=
  let len := b.size
  let low := (byteAt b 0 <<< 16) ||| (byteAt b (len / 2) <<< 24) ||| byteAt b (len - 1)
    ||| (len.toUInt64 <<< 8)
  let high := rotateLeft32 (swapBytes 4 low) 13
  ⟨avalancheShort (low ^^^ (read32 secret 0 ^^^ read32 secret 4)),
    avalancheShort (high ^^^ (read32 secret 8 ^^^ read32 secret 12))⟩

/-- 4 to 8 bytes. -/
def hash4To8 (b : ByteArray) : Hash128 :=
  let len := b.size
  let input := read32 b 0 + (read32 b (len - 4) <<< 32)
  let keyed := input ^^^ (read64 secret 16 ^^^ read64 secret 24)
  let m := mulWide keyed (prime64a + (len.toUInt64 <<< 2))
  let high := m.high + (m.low <<< 1)
  let low := m.low ^^^ (high >>> 3)
  ⟨xorShift (xorShift low 35 * mixPrimeB) 28, avalanche high⟩

/-- 9 to 16 bytes. -/
def hash9To16 (b : ByteArray) : Hash128 :=
  let len := b.size
  let flipLow := read64 secret 32 ^^^ read64 secret 40
  let flipHigh := read64 secret 48 ^^^ read64 secret 56
  let first := read64 b 0
  let last := read64 b (len - 8)
  let m := mulWide (first ^^^ last ^^^ flipLow) prime64a
  let low := m.low + ((len - 1).toUInt64 <<< 54)
  let keyed := last ^^^ flipHigh
  let high := m.high + (keyed + low32 keyed * (prime32b - 1))
  let low := low ^^^ swapBytes 8 high
  let h := mulWide low prime64b
  ⟨avalanche h.low, avalanche (h.high + high * prime64b)⟩

/-! ### 17 to 240 bytes -/

/-- The 16 bytes at `i`, keyed by the secret at `s`. -/
def mix16 (b : ByteArray) (i s : Nat) : UInt64 :=
  mulFold (read64 b i ^^^ read64 secret s) (read64 b (i + 8) ^^^ read64 secret (s + 8))

/-- Mixes the 16 bytes at `i` and those at `j` into both halves. -/
def mix32 (b : ByteArray) (acc : Hash128) (i j s : Nat) : Hash128 :=
  ⟨(acc.low + mix16 b i s) ^^^ (read64 b j + read64 b (j + 8)),
    (acc.high + mix16 b j (s + 16)) ^^^ (read64 b i + read64 b (i + 8))⟩

/-- The last step of the middle rules. -/
def finishMiddle (len : Nat) (acc : Hash128) : Hash128 :=
  ⟨avalanche (acc.low + acc.high),
    0 - avalanche (acc.low * prime64a + acc.high * prime64d + len.toUInt64 * prime64b)⟩

/-- 17 to 128 bytes: pairs of 16 bytes from both ends, the innermost first. -/
def hash17To128 (b : ByteArray) : Hash128 :=
  let len := b.size
  let rounds := (List.range 4).reverse.filter fun k => k = 0 || 32 * k < len
  finishMiddle len
    (rounds.foldl (fun acc k => mix32 b acc (16 * k) (len - 16 * (k + 1)) (32 * k))
      ⟨len.toUInt64 * prime64a, 0⟩)

/-- 129 to 240 bytes: from front to back, with one mixing after 128 bytes. -/
def hash129To240 (b : ByteArray) : Hash128 :=
  let len := b.size
  let start : Hash128 := ⟨len.toUInt64 * prime64a, 0⟩
  let front := (List.range 4).foldl
    (fun acc k => mix32 b acc (32 * k) (32 * k + 16) (32 * k)) start
  let mixed : Hash128 := ⟨avalanche front.low, avalanche front.high⟩
  let rest := (List.range (len / 32 - 4)).foldl
    (fun acc k => mix32 b acc (128 + 32 * k) (128 + 32 * k + 16) (3 + 32 * k)) mixed
  finishMiddle len (mix32 b rest (len - 16) (len - 32) 103)

/-! ### Longer -/

/-- The lanes before any byte is read. -/
def initialLanes : Array UInt64 :=
  #[prime32c, prime64a, prime64b, prime64c, prime64d, prime32b, prime64e, prime32a]

/-- The value of a lane. -/
def lane (acc : Array UInt64) (i : Nat) : UInt64 := acc[i]?.getD 0

/-- Reads the 64 bytes at `i` into the lanes, keyed by the secret at `s`. -/
def readStripe (b : ByteArray) (acc : Array UInt64) (i s : Nat) : Array UInt64 :=
  (List.range 8).foldl (fun acc k =>
    let value := read64 b (i + 8 * k)
    let key := value ^^^ read64 secret (s + 8 * k)
    let acc := acc.modify (k ^^^ 1) (· + value)
    acc.modify k (· + low32 key * (key >>> 32))) acc

/-- Reads `n` stripes from `i` on; each moves on by 8 bytes in the secret. -/
def readStripes (b : ByteArray) (acc : Array UInt64) (i n : Nat) : Array UInt64 :=
  (List.range n).foldl (fun acc k => readStripe b acc (i + 64 * k) (8 * k)) acc

/-- Mixes every lane after a whole block. -/
def scramble (acc : Array UInt64) : Array UInt64 :=
  acc.mapIdx fun k x => (xorShift x 47 ^^^ read64 secret (128 + 8 * k)) * prime32a

/-- Brings the lanes together, keyed by the secret at `s`. -/
def mergeLanes (acc : Array UInt64) (s : Nat) (start : UInt64) : UInt64 :=
  avalanche ((List.range 4).foldl (fun result k =>
    result + mulFold (lane acc (2 * k) ^^^ read64 secret (s + 16 * k))
      (lane acc (2 * k + 1) ^^^ read64 secret (s + 16 * k + 8))) start)

/-- More than 240 bytes: blocks of 16 stripes, the stripes of the last block, and the last 64
bytes once more. -/
def hashLong (b : ByteArray) : Hash128 :=
  let len := b.size
  let blocks := (len - 1) / 1024
  let acc := (List.range blocks).foldl
    (fun acc k => scramble (readStripes b acc (1024 * k) 16)) initialLanes
  let acc := readStripes b acc (1024 * blocks) ((len - 1 - 1024 * blocks) / 64)
  let acc := readStripe b acc (len - 64) 121
  ⟨mergeLanes acc 11 (len.toUInt64 * prime64a),
    mergeLanes acc 117 (~~~(len.toUInt64 * prime64b))⟩

/-- The digest of a byte string. -/
def hash (b : ByteArray) : Hash128 :=
  if b.size = 0 then hashEmpty
  else if b.size ≤ 3 then hash1To3 b
  else if b.size ≤ 8 then hash4To8 b
  else if b.size ≤ 16 then hash9To16 b
  else if b.size ≤ 128 then hash17To128 b
  else if b.size ≤ 240 then hash129To240 b
  else hashLong b

end Xxh3

end PassForge.Digest
