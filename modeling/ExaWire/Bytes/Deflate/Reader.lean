/-
ExaWire/Bytes/Deflate/Reader.lean

Blocks read back.  A block holds bytes as they are, or symbols in a prefix code,
fixed or given in the block: a symbol is a byte, the end of the block, or the
length of a copy of what was written before.

Every well-formed sequence of blocks is read; one that is cut short, uses a code
with more words than fit, or copies from before its beginning is refused.
-/
import ExaWire.Bytes.Deflate.Code

namespace ExaWire.Deflate

/-- A table value with its extra bits. -/
def readExtra (table : List (Nat × Nat)) (symbol : Nat) (bits : List Bool) :
    Option (Nat × List Bool) :=
  match table[symbol]? with
  | none => none
  | some (base, extra) => (Bits.take? extra bits).map fun (n, bits) => (base + n, bits)

/-- So many bytes copied from `distance` bytes back. -/
def copyBack (out : Array UInt8) (distance : Nat) : Nat → Array UInt8
  | 0 => out
  | n + 1 => copyBack (out.push (out.getD (out.size - distance) 0)) distance n

/-- Symbols up to the end of a block. -/
def readSymbols (lengths distances : Code) : Nat → Array UInt8 → List Bool →
    Option (Array UInt8 × List Bool)
  | 0, _, _ => none
  | fuel + 1, out, bits =>
    match lengths.read bits with
    | none => none
    | some (symbol, bits) =>
      if symbol < endSymbol then readSymbols lengths distances fuel (out.push symbol.toUInt8) bits
      else if symbol = endSymbol then some (out, bits)
      else do
        let (length, bits) ← readExtra lengthTable (symbol - firstLengthSymbol) bits
        let (symbol, bits) ← distances.read bits
        let (distance, bits) ← readExtra distanceTable symbol bits
        if out.size < distance then none
        else readSymbols lengths distances fuel (copyBack out distance length) bits

/-- A block of bytes as they are, from the next whole byte on. -/
def readStored (out : Array UInt8) (bits : List Bool) : Option (Array UInt8 × List Bool) := do
  let (size, bits) ← Bits.take? 16 (Bits.toByteBoundary bits)
  let (check, bits) ← Bits.take? 16 bits
  if size + check ≠ 65535 then none
  else
    let (bytes, bits) ← Bits.takeBytes? size bits
    some (out ++ bytes.toArray, bits)

/-- Code lengths in run-length form until `wanted` are known; they are collected in
reverse. -/
def readLengths (code : Code) (wanted : Nat) : Nat → List Nat → List Bool →
    Option (List Nat × List Bool)
  | 0, _, _ => none
  | fuel + 1, known, bits =>
    if known.length = wanted then some (known.reverse, bits)
    else if wanted < known.length then none
    else do
      let (symbol, bits) ← code.read bits
      if symbol < 16 then readLengths code wanted fuel (symbol :: known) bits
      else if symbol = 16 then
        match known with
        | [] => none
        | last :: _ => do
          let (n, bits) ← Bits.take? 2 bits
          readLengths code wanted fuel (List.replicate (n + 3) last ++ known) bits
      else do
        let (base, extra) := if symbol = 17 then (3, 3) else (11, 7)
        let (n, bits) ← Bits.take? extra bits
        readLengths code wanted fuel (List.replicate (n + base) 0 ++ known) bits

/-- The two codes that a block gives for itself. -/
def readCodes (bits : List Bool) : Option (Code × Code × List Bool) := do
  let (hlit, bits) ← Bits.take? 5 bits
  let (hdist, bits) ← Bits.take? 5 bits
  let (hclen, bits) ← Bits.take? 4 bits
  let lit := hlit + 257
  let dist := hdist + 1
  if 286 < lit ∨ 30 < dist then none
  else do
    let count := hclen + 4
    if bits.length < 3 * count then none
    else
      let given := (List.range count).map fun i => Bits.toNat ((bits.drop (3 * i)).take 3)
      let bits := bits.drop (3 * count)
      let placed := (List.range 19).map fun s =>
        match lengthOrder.idxOf? s with
        | some i => given.getD i 0
        | none => 0
      let code := Code.ofLengths placed
      if !code.isUsable false then none
      else do
        let (lengths, bits) ← readLengths code (lit + dist) (lit + dist + 1) [] bits
        let literals := Code.ofLengths (lengths.take lit)
        let distances := Code.ofLengths (lengths.drop lit)
        if lengths.getD endSymbol 0 = 0 ∨ !literals.isUsable true ∨ !distances.isUsable true then none
        else some (literals, distances, bits)

/-- Blocks up to the last one. -/
def readBlocks : Nat → Array UInt8 → List Bool → Option (Array UInt8 × List Bool)
  | 0, _, _ => none
  | fuel + 1, out, bits => do
    let (final, bits) ← Bits.take? 1 bits
    let (kind, bits) ← Bits.take? 2 bits
    let (out, bits) ←
      if kind = 0 then readStored out bits
      else if kind = 1 then
        readSymbols (Code.ofLengths fixedLengths) (Code.ofLengths fixedDistances)
          bits.length out bits
      else if kind = 2 then do
        let (literals, distances, bits) ← readCodes bits
        readSymbols literals distances bits.length out bits
      else none
    if final = 1 then some (out, bits) else readBlocks fuel out bits

end ExaWire.Deflate
