/-
ExaWire/Bytes/Digest.lean

Digests of byte sequences: the Adler-32 checksum that closes a compressed
stream, and SHA-256, by which a pinned certificate is known.
-/
import ExaWire.Text.Quoted

namespace ExaWire

namespace Bytes

/-- Bytes as lower-case hexadecimal, two digits each. -/
def hex (bs : Bytes) : List Char := bs.flatMap fun b => Text.hexText 2 b.toNat

/-- A natural as so many bytes, the most significant first. -/
def bigEndian (width n : Nat) : Bytes :=
  (List.range width).map fun i => (n / Nat.pow 256 (width - 1 - i) % 256).toUInt8

/-- A natural as so many bytes, the least significant first. -/
def littleEndian (width n : Nat) : Bytes :=
  (List.range width).map fun i => (n / Nat.pow 256 i % 256).toUInt8

/-- The natural that bytes give, the most significant first. -/
def ofBigEndian (bs : Bytes) : Nat := bs.foldl (fun n b => n * 256 + b.toNat) 0

/-- The natural that bytes give, the least significant first. -/
def ofLittleEndian : Bytes → Nat
  | [] => 0
  | b :: bs => b.toNat + 256 * ofLittleEndian bs

/-- The Adler-32 checksum: two sums modulo 65521, of the bytes and of the first sums. -/
def adler32 (bs : Bytes) : Nat :=
  let (a, b) := bs.foldl (fun (a, b) x =>
    let a := (a + x.toNat) % 65521
    (a, (b + a) % 65521)) (1, 0)
  b * 65536 + a

end Bytes

namespace Sha256

/-- The round constants: 32 bits of the fractional parts of the cube roots of the
first 64 primes. -/
def roundConstants : List UInt32 := [
  0x428a2f98, 0x71374491, 0xb5c0fbcf, 0xe9b5dba5, 0x3956c25b, 0x59f111f1, 0x923f82a4, 0xab1c5ed5,
  0xd807aa98, 0x12835b01, 0x243185be, 0x550c7dc3, 0x72be5d74, 0x80deb1fe, 0x9bdc06a7, 0xc19bf174,
  0xe49b69c1, 0xefbe4786, 0x0fc19dc6, 0x240ca1cc, 0x2de92c6f, 0x4a7484aa, 0x5cb0a9dc, 0x76f988da,
  0x983e5152, 0xa831c66d, 0xb00327c8, 0xbf597fc7, 0xc6e00bf3, 0xd5a79147, 0x06ca6351, 0x14292967,
  0x27b70a85, 0x2e1b2138, 0x4d2c6dfc, 0x53380d13, 0x650a7354, 0x766a0abb, 0x81c2c92e, 0x92722c85,
  0xa2bfe8a1, 0xa81a664b, 0xc24b8b70, 0xc76c51a3, 0xd192e819, 0xd6990624, 0xf40e3585, 0x106aa070,
  0x19a4c116, 0x1e376c08, 0x2748774c, 0x34b0bcb5, 0x391c0cb3, 0x4ed8aa4a, 0x5b9cca4f, 0x682e6ff3,
  0x748f82ee, 0x78a5636f, 0x84c87814, 0x8cc70208, 0x90befffa, 0xa4506ceb, 0xbef9a3f7, 0xc67178f2]

/-- The eight words of the running digest. -/
structure Words where
  (a b c d e f g h : UInt32)
deriving DecidableEq, Repr

/-- The digest of nothing: fractional parts of the square roots of the first eight
primes. -/
def start : Words :=
  ⟨0x6a09e667, 0xbb67ae85, 0x3c6ef372, 0xa54ff53a, 0x510e527f, 0x9b05688c, 0x1f83d9ab, 0x5be0cd19⟩

/-- A word turned to the right. -/
def turn (x : UInt32) (n : UInt32) : UInt32 := (x >>> n) ||| (x <<< (32 - n))

/-- The words of a block that follow the sixteen given ones, newest first. -/
def extend : Nat → List UInt32 → List UInt32
  | 0, ws => ws
  | n + 1, ws =>
    let w (i : Nat) := ws.getD (i - 1) 0
    let s0 := turn (w 15) 7 ^^^ turn (w 15) 18 ^^^ (w 15 >>> 3)
    let s1 := turn (w 2) 17 ^^^ turn (w 2) 19 ^^^ (w 2 >>> 10)
    extend n ((w 16 + s0 + w 7 + s1) :: ws)

/-- One round with a word and its constant. -/
def round (s : Words) (w k : UInt32) : Words :=
  let s1 := turn s.e 6 ^^^ turn s.e 11 ^^^ turn s.e 25
  let choice := (s.e &&& s.f) ^^^ ((~~~ s.e) &&& s.g)
  let t1 := s.h + s1 + choice + k + w
  let s0 := turn s.a 2 ^^^ turn s.a 13 ^^^ turn s.a 22
  let majority := (s.a &&& s.b) ^^^ (s.a &&& s.c) ^^^ (s.b &&& s.c)
  ⟨t1 + s0 + majority, s.a, s.b, s.c, s.d + t1, s.e, s.f, s.g⟩

/-- The digest after one more block of 64 bytes. -/
def absorb (s : Words) (block : Bytes) : Words :=
  let given := (List.range 16).map fun i =>
    (Bytes.ofBigEndian ((block.drop (4 * i)).take 4)).toUInt32
  let ws := (extend 48 given.reverse).reverse
  let t := (ws.zip roundConstants).foldl (fun s (w, k) => round s w k) s
  ⟨s.a + t.a, s.b + t.b, s.c + t.c, s.d + t.d, s.e + t.e, s.f + t.f, s.g + t.g, s.h + t.h⟩

/-- The message followed by a one bit, zeros, and its length in bits. -/
def pad (bs : Bytes) : Bytes :=
  bs ++ 0x80 :: List.replicate ((119 - bs.length % 64) % 64) 0 ++
    Bytes.bigEndian 8 (8 * bs.length)

/-- The digest after so many blocks. -/
def absorbAll : Nat → Words → Bytes → Words
  | 0, s, _ => s
  | n + 1, s, bs => absorbAll n (absorb s (bs.take 64)) (bs.drop 64)

/-- The SHA-256 digest. -/
def digest (bs : Bytes) : Bytes :=
  let padded := pad bs
  let s := absorbAll (padded.length / 64) start padded
  [s.a, s.b, s.c, s.d, s.e, s.f, s.g, s.h].flatMap fun w => Bytes.bigEndian 4 w.toNat

end Sha256

end ExaWire
