/-
ExaWire/Bytes/Deflate/Code.lean

Prefix codes given by the lengths of their code words.  Words of one length are
numbered in the order of their symbols and follow all shorter words, so the
lengths tell the words.

The symbols of a block are the 256 bytes, its end, and the lengths of copies; the
distances of copies have a code of their own.
-/
import ExaWire.Bytes.Bits

namespace ExaWire.Deflate

/-- A prefix code: how many codes there are of each length from 1 to 15, and the
symbols in the order of their codes. -/
structure Code where
  counts : List Nat
  symbols : Array Nat

/-- The code in which each symbol has a code of the given length, zero for none. -/
def Code.ofLengths (lengths : List Nat) : Code where
  counts := (List.range 15).map fun i => lengths.count (i + 1)
  symbols := ((List.range 15).flatMap fun i =>
    (lengths.zipIdx.filter fun (l, _) => l = i + 1).map (·.2)).toArray

/-- How many codes of the greatest length are left unused; none if there are more
codes than fit. -/
def spare : List Nat → Nat → Option Nat
  | [], left => some left
  | count :: counts, left => if 2 * left < count then none else spare counts (2 * left - count)

/-- Whether every bit sequence starts with a code, or there is a single code of one
bit, which is allowed unless the code is that of code lengths. -/
def Code.isUsable (code : Code) (single : Bool) : Bool :=
  match spare code.counts 1 with
  | none => false
  | some 0 => true
  | some _ => single && (code.symbols.size = 0 || (code.symbols.size = 1 && code.counts.head? = some 1))

/-- The symbol at the front, found length by length. -/
def readSymbol (symbols : Array Nat) : List Nat → Nat → Nat → Nat → List Bool →
    Option (Nat × List Bool)
  | [], _, _, _, _ => none
  | _, _, _, _, [] => none
  | count :: counts, code, first, index, b :: bits =>
    let code := code + (if b then 1 else 0)
    if code < first + count then (symbols[index + (code - first)]?).map (·, bits)
    else readSymbol symbols counts (code * 2) ((first + count) * 2) (index + count) bits

/-- The symbol at the front. -/
def Code.read (code : Code) (bits : List Bool) : Option (Nat × List Bool) :=
  readSymbol code.symbols code.counts 0 0 0 bits

/-- The base and the extra bits of each length symbol from 257 on. -/
def lengthTable : List (Nat × Nat) :=
  [(3, 0), (4, 0), (5, 0), (6, 0), (7, 0), (8, 0), (9, 0), (10, 0), (11, 1), (13, 1), (15, 1),
    (17, 1), (19, 2), (23, 2), (27, 2), (31, 2), (35, 3), (43, 3), (51, 3), (59, 3), (67, 4),
    (83, 4), (99, 4), (115, 4), (131, 5), (163, 5), (195, 5), (227, 5), (258, 0)]

/-- The base and the extra bits of each distance symbol. -/
def distanceTable : List (Nat × Nat) :=
  [(1, 0), (2, 0), (3, 0), (4, 0), (5, 1), (7, 1), (9, 2), (13, 2), (17, 3), (25, 3), (33, 4),
    (49, 4), (65, 5), (97, 5), (129, 6), (193, 6), (257, 7), (385, 7), (513, 8), (769, 8),
    (1025, 9), (1537, 9), (2049, 10), (3073, 10), (4097, 11), (6145, 11), (8193, 12),
    (12289, 12), (16385, 13), (24577, 13)]

/-- The code lengths of the fixed code for bytes and lengths. -/
def fixedLengths : List Nat :=
  List.replicate 144 8 ++ List.replicate 112 9 ++ List.replicate 24 7 ++ List.replicate 8 8

/-- The fixed code for distances. -/
def fixedDistances : List Nat := List.replicate 30 5

/-- The order in which the lengths of the code for code lengths are given. -/
def lengthOrder : List Nat :=
  [16, 17, 18, 0, 8, 7, 9, 6, 10, 5, 11, 4, 12, 3, 13, 2, 14, 1, 15]

/-- The symbol that ends a block. -/
def endSymbol : Nat := 256

/-- The symbol of the least length of a copy. -/
def firstLengthSymbol : Nat := 257

/-- The place in a table of the last base that does not exceed a value, with that base and
its extra bits. -/
def tableEntry (table : List (Nat × Nat)) (n : Nat) : Nat × Nat × Nat :=
  table.zipIdx.foldl (fun best ((base, extra), i) =>
    if base ≤ n then (i, base, extra) else best) (0, 0, 0)

/-- The first word of each length, by the number of words of the lengths before. -/
def firstWords (counts : List Nat) : List Nat :=
  (counts.foldl (fun (words, next) count => (next :: words, (next + count) * 2)) ([], 0)).1.reverse

/-- The words of a code by symbol, each in the order in which its bits are written; a
symbol of length zero has the empty word. -/
def wordsOf (lengths : Array Nat) : Array (List Bool) :=
  let counts := (List.range 15).map fun i => lengths.count (i + 1)
  (lengths.foldl (fun (words, next) length =>
    if length = 0 then (words.push [], next)
    else
      let word := next.getD length 0
      (words.push (Bits.ofNat length word).reverse, next.setIfInBounds length (word + 1)))
    (#[], (0 :: firstWords counts).toArray)).1

end ExaWire.Deflate
