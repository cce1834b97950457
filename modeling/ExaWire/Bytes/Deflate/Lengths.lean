/-
ExaWire/Bytes/Deflate/Lengths.lean

Lengths of code words fitted to how often the symbols occur.

The two lightest trees are joined until one is left; the depth of a symbol in it is
the length of its word.  Of trees of equal weight the shallower one is lighter, and
ties beyond that are settled by their places in the heap.  If some words are longer
than allowed, they are shortened at the expense of the longest of the others.
-/
import ExaWire.Bytes.Bits

namespace ExaWire.Deflate

/-- Trees under construction, by their roots: the weight and the height of each, and for
each node the one above it. -/
structure Forest where
  weight : Array Nat
  height : Array Nat
  above : Array Nat

/-- Whether one root is lighter than another, or as light. -/
def Forest.lighter (f : Forest) (a b : Nat) : Bool :=
  let v := f.weight.getD a 0
  let w := f.weight.getD b 0
  v < w || (v = w && f.height.getD a 0 ≤ f.height.getD b 0)

/-- A heap with a root put at a place, and moved down to where no lighter one is below. -/
def Forest.sink (f : Forest) (root : Nat) : Nat → Nat → Array Nat → Array Nat
  | 0, _, heap => heap
  | fuel + 1, place, heap =>
    let left := 2 * place + 1
    if left < heap.size then
      let child :=
        if left + 1 < heap.size && f.lighter (heap.getD (left + 1) 0) (heap.getD left 0) then left + 1
        else left
      if f.lighter root (heap.getD child 0) then heap.setIfInBounds place root
      else f.sink root fuel child (heap.setIfInBounds place (heap.getD child 0))
    else heap.setIfInBounds place root

/-- Roots as a heap; the places from `n` down are put in order. -/
def Forest.arrange (f : Forest) : Nat → Array Nat → Array Nat
  | 0, heap => heap
  | n + 1, heap => f.arrange n (f.sink (heap.getD n 0) heap.size n heap)

/-- Joins the two lightest trees until one is left; gives the forest and its nodes, those
joined last first. -/
def Forest.join : Nat → Nat → Forest → Array Nat → List Nat → Forest × List Nat
  | 0, _, f, heap, joined => (f, heap.toList ++ joined)
  | fuel + 1, node, f, heap, joined =>
    if heap.size < 2 then (f, heap.toList ++ joined)
    else
      let a := heap.getD 0 0
      let heap := f.sink (heap.getD (heap.size - 1) 0) heap.size 0 heap.pop
      let b := heap.getD 0 0
      let f : Forest := {
        weight := f.weight.setIfInBounds node (f.weight.getD a 0 + f.weight.getD b 0)
        height := f.height.setIfInBounds node (max (f.height.getD a 0) (f.height.getD b 0) + 1)
        above := (f.above.setIfInBounds a node).setIfInBounds b node }
      Forest.join fuel (node + 1) f (f.sink node heap.size 0 heap) (b :: a :: joined)

/-- The symbols that get a word: those that occur, and if there are fewer than two of them
the first others. -/
def coded (weights : Array Nat) : List Nat :=
  match (List.range weights.size).filter (0 < weights.getD · 0) with
  | [] => [0, 1]
  | [n] => if n = 0 then [0, 1] else if n = 1 then [1, 2] else [n, 0]
  | symbols => symbols

/-- The depths of nodes below a root, none greater than a limit, and how many would be. -/
def depths (above : Array Nat) (limit : Nat) (size : Nat) : List Nat → Array Nat × Nat
  | [] => (Array.replicate size 0, 0)
  | _ :: nodes =>
    nodes.foldl (fun (depth, excess) node =>
      let d := depth.getD (above.getD node 0) 0 + 1
      if limit < d then (depth.setIfInBounds node limit, excess + 1)
      else (depth.setIfInBounds node d, excess)) (Array.replicate size 0, 0)

/-- The greatest length below a limit that some word has. -/
def longestBelow (counts : Array Nat) : Nat → Nat
  | 0 => 0
  | n + 1 => if counts.getD n 0 = 0 then longestBelow counts n else n

/-- Two words of the limit put below a shorter one, which makes room for words that were
too long. -/
def shorten (limit : Nat) (counts : Array Nat) : Array Nat :=
  let n := longestBelow counts limit
  let counts := counts.setIfInBounds n (counts.getD n 0 - 1)
  let counts := counts.setIfInBounds (n + 1) (counts.getD (n + 1) 0 + 2)
  counts.setIfInBounds limit (counts.getD limit 0 - 1)

/-- How many words there are of each length once there is room for all; each step makes
room for two that were too long. -/
def makeRoom (limit : Nat) : Nat → Array Nat → Array Nat
  | 0, counts => counts
  | 1, counts => shorten limit counts
  | excess + 2, counts => makeRoom limit excess (shorten limit counts)

/-- The lengths of the words for symbols of given weights, none greater than a limit. -/
def wordLengths (limit : Nat) (weights : Array Nat) : Array Nat :=
  let count := weights.size
  let symbols := coded weights
  let size := 2 * count + 1
  let weight := symbols.foldl (fun w s => w.setIfInBounds s (max 1 (weights.getD s 0)))
    (Array.replicate size 0)
  let f : Forest := { weight, height := Array.replicate size 0, above := Array.replicate size 0 }
  let heap := f.arrange (symbols.length / 2) symbols.toArray
  let (f, nodes) := Forest.join symbols.length count f heap []
  let (depth, excess) := depths f.above limit size nodes
  if excess = 0 then depth.extract 0 count
  else
    let leaves := nodes.filter (· < count)
    let counts := leaves.foldl (fun c s => c.modify (depth.getD s 0) (· + 1))
      (Array.replicate (limit + 1) 0)
    let counts := makeRoom limit excess counts
    let lengths := ((List.range limit).map fun i =>
      List.replicate (counts.getD (limit - i) 0) (limit - i)).flatten
    (leaves.reverse.zip lengths).foldl (fun d (s, n) => d.setIfInBounds s n) (Array.replicate count 0)

end ExaWire.Deflate
