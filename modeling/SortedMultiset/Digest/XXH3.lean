/-!
# The 64-bit XXH3 hash

`XXH3.hash data` is the XXH3 hash of `data` with seed zero and the default secret, as the description
of the algorithm defines it.  Inputs of up to 16, 128 and 240 bytes have formulas of their own; longer
ones are consumed in stripes of 64 bytes by eight accumulators, which are scrambled after every block of
16 stripes.

All words are read least byte first; a read past the end gives zero bytes, and no formula makes one.
-/

namespace SortedMultiset.XXH3

/-! ### Words -/

/-- The byte at `i`, or zero past the end. -/
def byteAt (data : ByteArray) (i : Nat) : UInt8 :=
  if h : i < data.size then data[i] else 0

/-- The word of `n` bytes from `i` on, least byte first. -/
def readWord (data : ByteArray) (i : Nat) : Nat → UInt64
  | 0 => 0
  | n + 1 => (byteAt data i).toUInt64 ||| (readWord data (i + 1) n <<< 8)

def read32 (data : ByteArray) (i : Nat) : UInt64 := readWord data i 4

def read64 (data : ByteArray) (i : Nat) : UInt64 := readWord data i 8

/-- The word with its bits turned left by `n` places. -/
def rotateLeft (x : UInt64) (n : UInt64) : UInt64 := (x <<< n) ||| (x >>> (64 - n))

/-- The word with its bytes in reverse order. -/
def swapBytes (x : UInt64) : UInt64 :=
  (List.range 8).foldl (fun acc i => (acc <<< 8) ||| ((x >>> UInt64.ofNat (8 * i)) &&& 0xff)) 0

/-- The two halves of the 128-bit product, combined. -/
def foldProduct (a b : UInt64) : UInt64 :=
  let product := a.toNat * b.toNat
  UInt64.ofNat product ^^^ UInt64.ofNat (product >>> 64)

/-! ### Constants -/

def prime32First : UInt64 := 0x9E3779B1
def prime32Second : UInt64 := 0x85EBCA77
def prime32Third : UInt64 := 0xC2B2AE3D
def prime64First : UInt64 := 0x9E3779B185EBCA87
def prime64Second : UInt64 := 0xC2B2AE3D27D4EB4F
def prime64Third : UInt64 := 0x165667B19E3779F9
def prime64Fourth : UInt64 := 0x85EBCA77C2B2AE63
def prime64Fifth : UInt64 := 0x27D4EB2F165667C5

/-- The default secret. -/
def secret : ByteArray :=
  ⟨#[
    0xb8, 0xfe, 0x6c, 0x39, 0x23, 0xa4, 0x4b, 0xbe, 0x7c, 0x01, 0x81, 0x2c,
    0xf7, 0x21, 0xad, 0x1c, 0xde, 0xd4, 0x6d, 0xe9, 0x83, 0x90, 0x97, 0xdb,
    0x72, 0x40, 0xa4, 0xa4, 0xb7, 0xb3, 0x67, 0x1f, 0xcb, 0x79, 0xe6, 0x4e,
    0xcc, 0xc0, 0xe5, 0x78, 0x82, 0x5a, 0xd0, 0x7d, 0xcc, 0xff, 0x72, 0x21,
    0xb8, 0x08, 0x46, 0x74, 0xf7, 0x43, 0x24, 0x8e, 0xe0, 0x35, 0x90, 0xe6,
    0x81, 0x3a, 0x26, 0x4c, 0x3c, 0x28, 0x52, 0xbb, 0x91, 0xc3, 0x00, 0xcb,
    0x88, 0xd0, 0x65, 0x8b, 0x1b, 0x53, 0x2e, 0xa3, 0x71, 0x64, 0x48, 0x97,
    0xa2, 0x0d, 0xf9, 0x4e, 0x38, 0x19, 0xef, 0x46, 0xa9, 0xde, 0xac, 0xd8,
    0xa8, 0xfa, 0x76, 0x3f, 0xe3, 0x9c, 0x34, 0x3f, 0xf9, 0xdc, 0xbb, 0xc7,
    0xc7, 0x0b, 0x4f, 0x1d, 0x8a, 0x51, 0xe0, 0x4b, 0xcd, 0xb4, 0x59, 0x31,
    0xc8, 0x9f, 0x7e, 0xc9, 0xd9, 0x78, 0x73, 0x64, 0xea, 0xc5, 0xac, 0x83,
    0x34, 0xd3, 0xeb, 0xc3, 0xc5, 0x81, 0xa0, 0xff, 0xfa, 0x13, 0x63, 0xeb,
    0x17, 0x0d, 0xdd, 0x51, 0xb7, 0xf0, 0xda, 0x49, 0xd3, 0x16, 0x55, 0x26,
    0x29, 0xd4, 0x68, 0x9e, 0x2b, 0x16, 0xbe, 0x58, 0x7d, 0x47, 0xa1, 0xfc,
    0x8f, 0xf8, 0xb8, 0xd1, 0x7a, 0xd0, 0x31, 0xce, 0x45, 0xcb, 0x3a, 0x8f,
    0x95, 0x16, 0x04, 0x28, 0xaf, 0xd7, 0xfb, 0xca, 0xbb, 0x4b, 0x40, 0x7e]⟩

/-! ### Final mixing -/

/-- Mixes a word for the shortest inputs. -/
def avalancheShort (h : UInt64) : UInt64 :=
  let h := (h ^^^ (h >>> 33)) * prime64Second
  let h := (h ^^^ (h >>> 29)) * prime64Third
  h ^^^ (h >>> 32)

/-- Mixes a word. -/
def avalanche (h : UInt64) : UInt64 :=
  let h := (h ^^^ (h >>> 37)) * 0x165667919E3779F9
  h ^^^ (h >>> 32)

/-! ### Up to 16 bytes -/

def hashEmpty : UInt64 := avalancheShort (read64 secret 56 ^^^ read64 secret 64)

/-- One to three bytes. -/
def hashUpTo3 (data : ByteArray) : UInt64 :=
  let length := data.size
  let first := (byteAt data 0).toUInt64
  let middle := (byteAt data (length / 2)).toUInt64
  let last := (byteAt data (length - 1)).toUInt64
  let combined := (first <<< 16) ||| (middle <<< 24) ||| last ||| (UInt64.ofNat length <<< 8)
  avalancheShort (combined ^^^ (read32 secret 0 ^^^ read32 secret 4))

/-- Four to eight bytes. -/
def hashUpTo8 (data : ByteArray) : UInt64 :=
  let length := data.size
  let word := read32 data (length - 4) + (read32 data 0 <<< 32)
  let h := word ^^^ (read64 secret 8 ^^^ read64 secret 16)
  let h := h ^^^ rotateLeft h 49 ^^^ rotateLeft h 24
  let h := h * 0x9FB21C651E98DF25
  let h := h ^^^ ((h >>> 35) + UInt64.ofNat length)
  let h := h * 0x9FB21C651E98DF25
  h ^^^ (h >>> 28)

/-- Nine to 16 bytes. -/
def hashUpTo16 (data : ByteArray) : UInt64 :=
  let length := data.size
  let low := read64 data 0 ^^^ (read64 secret 24 ^^^ read64 secret 32)
  let high := read64 data (length - 8) ^^^ (read64 secret 40 ^^^ read64 secret 48)
  avalanche (UInt64.ofNat length + swapBytes low + high + foldProduct low high)

/-! ### Up to 240 bytes -/

/-- Sixteen bytes from `i` on, mixed with the secret from `s` on. -/
def mix16 (data : ByteArray) (i s : Nat) : UInt64 :=
  foldProduct (read64 data i ^^^ read64 secret s) (read64 data (i + 8) ^^^ read64 secret (s + 8))

/-- Seventeen to 128 bytes: pairs of 16 bytes from both ends, as many as it takes to meet. -/
def hashUpTo128 (data : ByteArray) : UInt64 :=
  let length := data.size
  let pairs := (length + 31) / 32
  avalanche <| (List.range pairs).foldl
    (fun acc i =>
      acc + mix16 data (16 * i) (32 * i) + mix16 data (length - 16 * (i + 1)) (32 * i + 16))
    (UInt64.ofNat length * prime64First)

/-- Up to 240 bytes: eight pieces of 16 bytes, the other whole pieces, and the last 16 bytes. -/
def hashUpTo240 (data : ByteArray) : UInt64 :=
  let length := data.size
  let leading := avalanche <| (List.range 8).foldl
    (fun acc i => acc + mix16 data (16 * i) (16 * i)) (UInt64.ofNat length * prime64First)
  let others := (List.range (length / 16 - 8)).foldl
    (fun acc i => acc + mix16 data (16 * (i + 8)) (16 * i + 3)) leading
  avalanche (others + mix16 data (length - 16) 119)

/-! ### Longer inputs -/

/-- The accumulators before the first stripe. -/
def accumulators : Vector UInt64 8 := #v[
  prime32Third, prime64First, prime64Second, prime64Third,
  prime64Fourth, prime32Second, prime64Fifth, prime32First]

/-- Takes in the stripe from `i` on, keyed by the secret from `s` on: each accumulator gains the
product of the halves of its own keyed word and the plain word of its neighbour. -/
def accumulate (acc : Vector UInt64 8) (data : ByteArray) (i s : Nat) : Vector UInt64 8 :=
  Vector.ofFn fun lane : Fin 8 =>
    let neighbour := if lane.val % 2 = 0 then lane.val + 1 else lane.val - 1
    let keyed := read64 data (i + 8 * lane.val) ^^^ read64 secret (s + 8 * lane.val)
    acc[lane] + read64 data (i + 8 * neighbour) + (keyed &&& (0xffffffff : UInt64)) * (keyed >>> 32)

/-- Takes in `n` stripes from `i` on. -/
def accumulateStripes (acc : Vector UInt64 8) (data : ByteArray) (i n : Nat) : Vector UInt64 8 :=
  (List.range n).foldl (fun acc k => accumulate acc data (i + 64 * k) (8 * k)) acc

/-- Scrambles the accumulators at the end of a block. -/
def scramble (acc : Vector UInt64 8) : Vector UInt64 8 :=
  Vector.ofFn fun lane : Fin 8 =>
    let a := acc[lane]
    (a ^^^ (a >>> 47) ^^^ read64 secret (128 + 8 * lane.val)) * prime32First

/-- Combines the accumulators into one word. -/
def merge (acc : Vector UInt64 8) (start : UInt64) : UInt64 :=
  avalanche <| start
    + foldProduct (acc[0] ^^^ read64 secret 11) (acc[1] ^^^ read64 secret 19)
    + foldProduct (acc[2] ^^^ read64 secret 27) (acc[3] ^^^ read64 secret 35)
    + foldProduct (acc[4] ^^^ read64 secret 43) (acc[5] ^^^ read64 secret 51)
    + foldProduct (acc[6] ^^^ read64 secret 59) (acc[7] ^^^ read64 secret 67)

/-- More than 240 bytes: whole blocks of 1024 bytes, the other whole stripes, and the last 64 bytes.
The last byte always belongs to the final stripe. -/
def hashLong (data : ByteArray) : UInt64 :=
  let length := data.size
  let blocks := (length - 1) / 1024
  let acc := (List.range blocks).foldl
    (fun acc k => scramble (accumulateStripes acc data (1024 * k) 16)) accumulators
  let acc := accumulateStripes acc data (1024 * blocks) ((length - 1 - 1024 * blocks) / 64)
  let acc := accumulate acc data (length - 64) 121
  merge acc (UInt64.ofNat length * prime64First)

/-- The XXH3 hash of a byte string, with seed zero and the default secret. -/
def hash (data : ByteArray) : UInt64 :=
  if data.size = 0 then hashEmpty
  else if data.size ≤ 3 then hashUpTo3 data
  else if data.size ≤ 8 then hashUpTo8 data
  else if data.size ≤ 16 then hashUpTo16 data
  else if data.size ≤ 128 then hashUpTo128 data
  else if data.size ≤ 240 then hashUpTo240 data
  else hashLong data

end SortedMultiset.XXH3
