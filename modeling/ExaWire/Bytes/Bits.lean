/-
ExaWire/Bytes/Bits.lean

Bytes as sequences of bits.  The bits of a byte come least significant first, and
numbers are read and written in that order; only code words go the other way.
-/
import ExaWire.Text.Utf8

namespace ExaWire.Bits

/-- The bits of a natural, least significant first. -/
def ofNat : Nat → Nat → List Bool
  | 0, _ => []
  | width + 1, n => (n % 2 = 1) :: ofNat width (n / 2)

/-- The bits of bytes. -/
def ofBytes (bs : Bytes) : List Bool := bs.flatMap fun b => ofNat 8 b.toNat

/-- The natural of bits, least significant first. -/
def toNat : List Bool → Nat
  | [] => 0
  | b :: bs => (if b then 1 else 0) + 2 * toNat bs

/-- So many bits from the front, as a natural. -/
def take? : Nat → List Bool → Option (Nat × List Bool)
  | 0, bits => some (0, bits)
  | _ + 1, [] => none
  | n + 1, b :: bits =>
    (take? n bits).map fun (rest, bits) => ((if b then 1 else 0) + 2 * rest, bits)

/-- Bits as bytes, the last one filled up with zeros. -/
def toBytes : List Bool → Bytes
  | a :: b :: c :: d :: e :: f :: g :: h :: rest =>
    (toNat [a, b, c, d, e, f, g, h]).toUInt8 :: toBytes rest
  | [] => []
  | bits => [(toNat bits).toUInt8]

/-- So many bytes from the front. -/
def takeBytes? (size : Nat) (bits : List Bool) : Option (Bytes × List Bool) :=
  let taken := toBytes (bits.take (8 * size))
  if taken.length = size then some (taken, bits.drop (8 * size)) else none

/-- The bits from the next whole byte on, for a sequence that ends with a byte. -/
def toByteBoundary (bits : List Bool) : List Bool := bits.drop (bits.length % 8)

end ExaWire.Bits
