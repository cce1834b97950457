/-
ExaWire/Bytes/Zlib.lean

Compressed streams: a header, blocks of bits and the checksum of what they stand for.
`Zlib.inflate?` reads every such stream and refuses one that is cut short, malformed
or fails its checksum; what follows a stream is ignored.
-/
import ExaWire.Bytes.Deflate.Reader
import ExaWire.Bytes.Deflate.Writer

namespace ExaWire

/-- A way to make byte sequences shorter, and back. -/
structure Codec where
  deflate : Bytes → Bytes
  inflate? : Bytes → Option Bytes

namespace Zlib

open Deflate

/-- The header of a stream: its two bytes are a multiple of 31. -/
def header : Bytes := [0x78, 0x9c]

/-- A compressed stream. -/
def deflate (bs : Bytes) : Bytes :=
  header ++ Deflate.write bs ++ Bytes.bigEndian 4 (Bytes.adler32 bs)

/-- What a compressed stream stands for. -/
def inflate? (bs : Bytes) : Option Bytes :=
  match bs with
  | method :: flags :: rest =>
    if (method.toNat * 256 + flags.toNat) % 31 ≠ 0 ∨ method.toNat % 16 ≠ 8 ∨
        7 < method.toNat / 16 ∨ flags.toNat / 32 % 2 = 1 then none
    else do
      let bits := Bits.ofBytes rest
      let (out, bits) ← readBlocks bits.length #[] bits
      let (tail, _) ← Bits.takeBytes? 4 (Bits.toByteBoundary bits)
      let out := out.toList
      if Bytes.ofBigEndian tail = Bytes.adler32 out then some out else none
  | _ => none

/-- Compression as sessions use it. -/
def codec : Codec := ⟨deflate, inflate?⟩

end Zlib

end ExaWire
