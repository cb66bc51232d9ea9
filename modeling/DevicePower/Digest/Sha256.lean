import DevicePower.Text.Hexadecimal
import DevicePower.Text.Utf8

/-!
# SHA-256

The secure hash with a digest of 256 bits. A message is padded to whole blocks of 64 bytes, and each
block is folded into eight 32-bit words. A configuration file is identified by the digest of its
text.

## Main results

* `size_padding`: a padded message is a whole number of blocks.
-/

namespace DevicePower.Digest

/-- The first 32 bits of the fractional parts of the cube roots of the first 64 primes. -/
def roundConstants : List UInt32 :=
  [0x428a2f98, 0x71374491, 0xb5c0fbcf, 0xe9b5dba5, 0x3956c25b, 0x59f111f1, 0x923f82a4, 0xab1c5ed5,
   0xd807aa98, 0x12835b01, 0x243185be, 0x550c7dc3, 0x72be5d74, 0x80deb1fe, 0x9bdc06a7, 0xc19bf174,
   0xe49b69c1, 0xefbe4786, 0x0fc19dc6, 0x240ca1cc, 0x2de92c6f, 0x4a7484aa, 0x5cb0a9dc, 0x76f988da,
   0x983e5152, 0xa831c66d, 0xb00327c8, 0xbf597fc7, 0xc6e00bf3, 0xd5a79147, 0x06ca6351, 0x14292967,
   0x27b70a85, 0x2e1b2138, 0x4d2c6dfc, 0x53380d13, 0x650a7354, 0x766a0abb, 0x81c2c92e, 0x92722c85,
   0xa2bfe8a1, 0xa81a664b, 0xc24b8b70, 0xc76c51a3, 0xd192e819, 0xd6990624, 0xf40e3585, 0x106aa070,
   0x19a4c116, 0x1e376c08, 0x2748774c, 0x34b0bcb5, 0x391c0cb3, 0x4ed8aa4a, 0x5b9cca4f, 0x682e6ff3,
   0x748f82ee, 0x78a5636f, 0x84c87814, 0x8cc70208, 0x90befffa, 0xa4506ceb, 0xbef9a3f7, 0xc67178f2]

/-- A word turned right by `n` bits. -/
def rotateRight (x : UInt32) (n : UInt32) : UInt32 := (x >>> n) ||| (x <<< (32 - n))

/-- The number of zero bytes between the end mark and the length. -/
def zeroCount (size : Nat) : Nat := (119 - size % 64) % 64

/-- The bytes after a message of `size` bytes: the end mark, zeros, and the length in bits as eight
bytes, most significant first. -/
def padding (size : Nat) : List UInt8 :=
  0x80 :: (List.replicate (zeroCount size) (0 : UInt8)
    ++ (List.range 8).map fun i => UInt8.ofNat ((8 * size) >>> (8 * (7 - i))))

/-- A padded message is a whole number of blocks. -/
theorem size_padding (size : Nat) : (size + (padding size).length) % 64 = 0 := by
  simp only [padding, zeroCount, List.length_cons, List.length_append,
    List.length_replicate, List.length_map, List.length_range]
  omega

/-- The big-endian word at a byte position. -/
def wordAt (message : Array UInt8) (position : Nat) : UInt32 :=
  (List.range 4).foldl (fun acc i => acc <<< 8 ||| (message.getD (position + i) 0).toUInt32) 0

/-- The words of a block, extended from sixteen to sixty-four. -/
def schedule (message : Array UInt8) (block : Nat) : Array UInt32 :=
  let first := ((List.range 16).map fun i => wordAt message (64 * block + 4 * i)).toArray
  (List.range 48).foldl
    (fun w i =>
      let a := w.getD (i + 1) 0
      let b := w.getD (i + 14) 0
      let s0 := rotateRight a 7 ^^^ rotateRight a 18 ^^^ (a >>> 3)
      let s1 := rotateRight b 17 ^^^ rotateRight b 19 ^^^ (b >>> 10)
      w.push (w.getD i 0 + s0 + w.getD (i + 9) 0 + s1))
    first

/-- The eight words while a block is worked in. -/
structure Words where
  a : UInt32
  b : UInt32
  c : UInt32
  d : UInt32
  e : UInt32
  f : UInt32
  g : UInt32
  h : UInt32

/-- One round, with its constant and its word of the schedule. -/
def Words.round (s : Words) (k w : UInt32) : Words :=
  let s1 := rotateRight s.e 6 ^^^ rotateRight s.e 11 ^^^ rotateRight s.e 25
  let choice := (s.e &&& s.f) ^^^ (~~~s.e &&& s.g)
  let t1 := s.h + s1 + choice + k + w
  let s0 := rotateRight s.a 2 ^^^ rotateRight s.a 13 ^^^ rotateRight s.a 22
  let majority := (s.a &&& s.b) ^^^ (s.a &&& s.c) ^^^ (s.b &&& s.c)
  ⟨t1 + s0 + majority, s.a, s.b, s.c, s.d + t1, s.e, s.f, s.g⟩

/-- Word by word sum. -/
def Words.add (s t : Words) : Words :=
  ⟨s.a + t.a, s.b + t.b, s.c + t.c, s.d + t.d, s.e + t.e, s.f + t.f, s.g + t.g, s.h + t.h⟩

/-- The words as a list. -/
def Words.toList (s : Words) : List UInt32 := [s.a, s.b, s.c, s.d, s.e, s.f, s.g, s.h]

/-- The words before the first block: the first 32 bits of the fractional parts of the square roots
of the first eight primes. -/
def Words.initial : Words :=
  ⟨0x6a09e667, 0xbb67ae85, 0x3c6ef372, 0xa54ff53a, 0x510e527f, 0x9b05688c, 0x1f83d9ab, 0x5be0cd19⟩

/-- A block worked into the words. -/
def compress (message : Array UInt8) (s : Words) (block : Nat) : Words :=
  s.add ((roundConstants.zip (schedule message block).toList).foldl
    (fun t (k, w) => t.round k w) s)

/-- The digest of a message, as eight words. -/
def sha256 (message : List UInt8) : Words :=
  let padded := (message ++ padding message.length).toArray
  (List.range (padded.size / 64)).foldl (compress padded) Words.initial

/-- A word as eight hexadecimal digits. -/
def hexWord (w : UInt32) : List Char :=
  (List.range 8).map fun i => Text.hexDigit (w.toNat >>> (4 * (7 - i)) % 16)

/-- The digest of a text's UTF-8 bytes, as 64 hexadecimal digits. -/
def textDigest (s : String) : String :=
  String.ofList ((sha256 (Text.Utf8.bytes s)).toList.flatMap hexWord)

/-- The published digests of a message of one block and of one of two blocks. -/
example :
    textDigest "abc" = "ba7816bf8f01cfea414140de5dae2223b00361a396177a9cb410ff61f20015ad" ∧
    textDigest "abcdbcdecdefdefgefghfghighijhijkijkljklmklmnlmnomnopnopq" =
      "248d6a61d20638b8e5c026930c3e6039a33ce45964ff2167f6ecedd419db06c1" := by
  decide +kernel

end DevicePower.Digest
