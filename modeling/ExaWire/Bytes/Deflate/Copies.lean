/-
ExaWire/Bytes/Deflate/Copies.lean

Byte sequences as bytes and copies of what stood before.

At each position the longest copy is looked for among earlier positions whose next
three bytes have the same hash, the nearest first.  A copy that is found is put off
by one byte as long as the next position has a longer one.  The search is bounded:
in the number of positions tried, in distance, and in how long a copy has to be to
end it.
-/
import ExaWire.Text.Utf8

namespace ExaWire.Deflate

/-- What a block is written from. -/
inductive Token
  | literal (b : UInt8)
  | copy (length distance : Nat)
deriving DecidableEq, Repr

/-- The least length of a copy. -/
def leastCopy : Nat := 3

/-- The greatest length of a copy. -/
def greatestCopy : Nat := 258

/-- The greatest distance of a copy that is looked for. -/
def greatestDistance : Nat := 32506

/-- The greatest distance of a copy of the least length that is used. -/
def nearEnough : Nat := 4096

/-- The length from which on a copy is not put off. -/
def lazyLength : Nat := 16

/-- The length from which on a copy that was put off makes the search shorter. -/
def goodLength : Nat := 8

/-- The length from which on a copy ends the search. -/
def niceLength : Nat := 128

/-- How many positions are tried. -/
def chainLength : Nat := 128

/-- The number of hashes. -/
def hashCount : Nat := 32768

/-- The hash of the three bytes at a position. -/
def hashAt (bs : Array UInt8) (i : Nat) : Nat :=
  let byte (j : Nat) : Nat := (bs.getD j 0).toNat
  ((byte i * 1024) ^^^ (byte (i + 1) * 32) ^^^ byte (i + 2)) % hashCount

/-- The positions passed so far: the last one of each hash, and for each position the one
before it with the same hash.  Zero stands for none. -/
structure Index where
  last : Array Nat := Array.replicate hashCount 0
  before : Array Nat := #[]

/-- The index with a further position, unless fewer than three bytes are left, and the
position before it with the same hash. -/
def Index.enter (bs : Array UInt8) (i : Nat) (index : Index) : Nat × Index :=
  if i + leastCopy ≤ bs.size then
    let h := hashAt bs i
    let previous := index.last.getD h 0
    let { last, before } := index
    (previous, { last := last.setIfInBounds h i, before := before.push previous })
  else (0, index)

/-- The index with so many further positions. -/
def Index.enterAll (bs : Array UInt8) (i : Nat) : Nat → Index → Index
  | 0, index => index
  | n + 1, index => Index.enterAll bs (i + 1) n (index.enter bs i).2

/-- How many bytes agree from two positions on, up to a limit. -/
def agreement (bs : Array UInt8) (i j : Nat) : Nat → Nat
  | 0 => 0
  | n + 1 =>
    if i < bs.size ∧ bs.getD i 0 = bs.getD j 0 then agreement bs (i + 1) (j + 1) n + 1 else 0

/-- The longest copy for position `i`, by its length and the position copied from, if it is
longer than the best so far; `tries` positions are tried from `j` on. -/
def longest (bs : Array UInt8) (before : Array Nat) (i : Nat) :
    Nat → Nat → Nat × Nat → Nat × Nat
  | 0, _, best => best
  | tries + 1, j, best =>
    let left := bs.size - i
    let n := agreement bs i j (min greatestCopy left)
    let best := if best.1 < n then (n, j) else best
    if best.1 = n ∧ min niceLength left ≤ n then best
    else
      let next := before.getD j 0
      if next = 0 ∨ next + greatestDistance ≤ i then best else longest bs before i tries next best

/-- The copy to use at a position whose hash was last seen at `j`, given the length of the
copy that was put off there. -/
def copyAt (bs : Array UInt8) (before : Array Nat) (i j putOff : Nat) : Nat × Nat :=
  if j = 0 ∨ lazyLength ≤ putOff ∨ greatestDistance < i - j then (leastCopy - 1, 0)
  else
    let tries := if goodLength ≤ putOff then chainLength / 4 else chainLength
    let (n, from') := longest bs before i tries j (putOff, 0)
    if n = leastCopy ∧ nearEnough < i - from' then (leastCopy - 1, 0)
    else (min n (bs.size - i), from')

/-- The tokens from a position on; `putOff` is the copy that was found one byte before, and
`pending` tells whether that byte still has to be written. -/
def tokensFrom (bs : Array UInt8) : Nat → Nat → Nat × Nat → Bool → Index → List Token
  | 0, _, _, _, _ => []
  | fuel + 1, i, putOff, pending, index =>
    let literal (i : Nat) : Token := .literal (bs.getD i 0)
    if bs.size ≤ i then (if pending then [literal (i - 1)] else [])
    else
      let (j, index) := index.enter bs i
      let found := copyAt bs index.before i j putOff.1
      if leastCopy ≤ putOff.1 ∧ found.1 ≤ putOff.1 then
        let next := i + putOff.1 - 1
        .copy putOff.1 (i - 1 - putOff.2) ::
          tokensFrom bs fuel next (leastCopy - 1, 0) false
            (Index.enterAll bs (i + 1) (putOff.1 - 2) index)
      else if pending then literal (i - 1) :: tokensFrom bs fuel (i + 1) found true index
      else tokensFrom bs fuel (i + 1) found true index

/-- The tokens of a byte sequence. -/
def tokens (bs : Array UInt8) : List Token :=
  tokensFrom bs (bs.size + 1) 0 (leastCopy - 1, 0) false {}

end ExaWire.Deflate
