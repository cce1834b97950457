/-
ExaWire/Value/Entries.lean

Objects made from entries whose keys may repeat.  A repeated key keeps its first
place and its first form and takes the value that comes last.

Numbers are the same key if they are equal, whatever their kind; truth values count
as numbers, and what is not a number is no key's equal.  Timestamps are the same key
if they tell the same time, tuples if their items are the same in order.
-/
import ExaWire.Value.Calendar

namespace ExaWire.Value

/-- How many times ten divides a number, at most `fuel` times, and what is left of it. -/
def stripTens : Nat → Nat → Nat × Nat
  | 0, n => (0, n)
  | fuel + 1, n =>
    if n % 10 = 0 then
      let (k, rest) := stripTens fuel (n / 10)
      (k + 1, rest)
    else (0, n)

/-- A number as sign, coefficient and power of ten, with no zero at the end of the
coefficient: equal numbers have one such form. -/
def normalForm (negative : Bool) (coefficient : Nat) (exponent : Int) : Bool × Nat × Int :=
  if coefficient = 0 then (false, 0, 0)
  else
    let (k, rest) := stripTens coefficient.log2 coefficient
    (negative, rest, exponent + k)

/-- The normal form of a finite number. -/
def number? : Value → Option (Bool × Nat × Int)
  | .bool b => some (normalForm false (if b then 1 else 0) 0)
  | .int n => some (normalForm (n < 0) n.natAbs 0)
  | .float (.finite negative m e) =>
    let (up, _) := scaled 2 e
    let (fives, _) := scaled 5 (-e)
    some (normalForm negative (m * up * fives) (min e 0))
  | .decimal (.finite negative c e) => some (normalForm negative c e)
  | _ => none

/-- The sign of an infinite number. -/
def infinity? : Value → Option Bool
  | .float (.infinite negative) | .decimal (.infinite negative) => some negative
  | _ => none

/-- Whether two values that hold no other value are the same key. -/
def sameAtom (a b : Value) : Bool :=
  match a, b with
  | .null, .null => true
  | .text s, .text t => s = t
  | .bytes s, .bytes t => s = t
  | .date s, .date t => s = t
  | .timestamp s, .timestamp t => s.sameTime t
  | a, b =>
    (a.number?.isSome && a.number? = b.number?) || (a.infinity?.isSome && a.infinity? = b.infinity?)

mutual
/-- Whether two values are the same key. -/
def sameKey : Value → Value → Bool
  | .tuple xs, .tuple ys => sameKeys xs ys
  | a, b => sameAtom a b
/-- Whether two lists have the same keys in order. -/
def sameKeys : List Value → List Value → Bool
  | [], [] => true
  | x :: xs, y :: ys => sameKey x y && sameKeys xs ys
  | _, _ => false
end

/-- Entries with one more. -/
def addEntry (key v : Value) : List (Value × Value) → List (Value × Value)
  | [] => [(key, v)]
  | (k, old) :: rest =>
    if k.sameKey key then (k, v) :: rest else (k, old) :: addEntry key v rest

/-- An object from entries. -/
def ofEntries (entries : List (Value × Value)) : Value :=
  .object (entries.foldl (fun es (k, v) => addEntry k v es) [])

end ExaWire.Value
