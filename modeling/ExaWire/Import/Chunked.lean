/-
ExaWire/Import/Chunked.lean

The body of an upload: chunks, each behind its size in hexadecimal, and a last
chunk of size zero.  Nothing is written for empty data, because a chunk of size
zero would end the body.
-/
import ExaWire.Text.Quoted

namespace ExaWire.Import.Chunked

/-- The end of a line. -/
def lineEnd : Bytes := [13, 10]

/-- The line that gives the size of a chunk. -/
def sizeLine (n : Nat) : Bytes :=
  (Nat.toDigits 16 n).map (fun c => c.toNat.toUInt8) ++ lineEnd

/-- What is written for some data, one write after the other. -/
def chunk (data : Bytes) : List Bytes :=
  if data.isEmpty then [] else [sizeLine data.length, data, lineEnd]

/-- The last chunk, and the empty line behind it. -/
def terminator : Bytes := 48 :: lineEnd ++ lineEnd

/-- A body that carries pieces of data. -/
def encode (pieces : List Bytes) : Bytes := (pieces.flatMap chunk).flatten ++ terminator

/-- A body under way: the payload so far, and what was written, newest first. -/
structure Writer where
  payload : Nat := 0
  writes : List Bytes := []

/-- Data written as a chunk. -/
def Writer.write (w : Writer) (data : Bytes) : Writer :=
  ⟨w.payload + data.length, (chunk data).reverse ++ w.writes⟩

/-- The body ended. -/
def Writer.finish (w : Writer) : Writer := { w with writes := terminator :: w.writes }

/-- The bytes that were written. -/
def Writer.out (w : Writer) : Bytes := w.writes.reverse.flatten

end ExaWire.Import.Chunked
