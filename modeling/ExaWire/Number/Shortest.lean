/-
ExaWire/Number/Shortest.lean

The natural text of a binary number: the fewest decimal digits that read back
to it.  A number stands for the interval of reals that round to it, the ends
included exactly when the significand is even.  `Shortest.digits` tries the
decimal grids of 1, 2, … 17 digits; on each only the two neighbours of the
number can lie in the interval, the first grid with a hit wins, and of two hits
the nearer one (a tie goes to the even digit).

`Binary.text` lays the digits out: positionally while the leading digit stands
for 10^-4 up to 10^15, otherwise with a signed exponent of at least two digits.
-/
import ExaWire.Number.Binary

namespace ExaWire

namespace Shortest

/-- `digits · 10 ^ exponent` -/
structure Decimal where
  digits : Nat
  exponent : Int
deriving DecidableEq, Repr

/-- Whether `a · 10 ^ i` is below, at or above `b · 2 ^ j`. -/
def compareScaled (a : Nat) (i : Int) (b : Nat) (j : Int) : Ordering :=
  compare (a * Nat.pow 10 i.toNat * Nat.pow 2 (-j).toNat) (b * Nat.pow 2 j.toNat * Nat.pow 10 (-i).toNat)

/-- Below a power of two the gap to the next smaller number is half as wide. -/
def narrowBelow (m : Nat) (q : Int) : Bool :=
  m = Nat.pow 2 (Binary.precision - 1) && decide (Binary.minExponent < q)

/-- Whether a decimal lies among the reals that round to `m · 2 ^ q`. -/
def readsBack (m : Nat) (q : Int) (d : Decimal) : Bool :=
  let low := if narrowBelow m q then 4 * m - 1 else 4 * m - 2
  let high := 4 * m + 2
  let closed := m % 2 = 0
  let below := compareScaled d.digits d.exponent low (q - 2)
  let above := compareScaled d.digits d.exponent high (q - 2)
  (below = .gt || (closed && below = .eq)) && (above = .lt || (closed && above = .eq))

/-- The power of ten of the leading digit of `m · 2 ^ q`. -/
def leading (m : Nat) (q : Int) : Int :=
  let guess : Int := ((m.log2 : Int) + q) * 30103 / 100000
  if compareScaled 1 (guess + 1) m q != .gt then guess + 1
  else if compareScaled 1 guess m q = .gt then guess - 1
  else guess

/-- The nearer of two neighbours `d` and `d + 1` on a grid; a tie goes to the even one. -/
def nearer (m : Nat) (q : Int) (d : Decimal) : Decimal :=
  match compareScaled (2 * d.digits + 1) d.exponent (2 * m) q with
  | .lt => { d with digits := d.digits + 1 }
  | .gt => d
  | .eq => { d with digits := d.digits + d.digits % 2 }

/-- The hit on the grid `10 ^ exponent`, if there is one. -/
def hit? (m : Nat) (q : Int) (exponent : Int) : Option Decimal :=
  let (num, den) := Binary.ratio m q
  let (up, down) := scaled 10 exponent
  let low : Decimal := ⟨num * down / (den * up), exponent⟩
  let high : Decimal := ⟨low.digits + 1, exponent⟩
  match readsBack m q low, readsBack m q high with
  | true, true => some (nearer m q low)
  | true, false => some low
  | false, true => some high
  | false, false => none

/-- The decimal with the fewest digits that reads back to `m · 2 ^ q`; should none
of seventeen digits do, the exact decimal value. -/
def select (m : Nat) (q : Int) : Decimal :=
  let lead := leading m q
  match (List.range 17).findSome? fun (n : Nat) => hit? m q (lead - n) with
  | some d => d
  | none => ⟨m * Nat.pow 2 q.toNat * Nat.pow 5 (-q).toNat, -((-q).toNat : Int)⟩

/-- Trailing zeros moved into the exponent. -/
def strip : Nat → Decimal → Decimal
  | 0, d => d
  | fuel + 1, d =>
    if d.digits ≠ 0 ∧ d.digits % 10 = 0 then strip fuel ⟨d.digits / 10, d.exponent + 1⟩ else d

/-- The significant digits of `m · 2 ^ q` and the power of ten of the first. -/
def digits (m : Nat) (q : Int) : List Char × Int :=
  let d := select m q
  let d := strip (Nat.toDigits 10 d.digits).length d
  let ds := Nat.toDigits 10 d.digits
  (ds, d.exponent + ds.length - 1)

end Shortest

/-- At least two digits of an exponent. -/
def exponentText (e : Int) : List Char :=
  let ds := Nat.toDigits 10 e.natAbs
  (if e < 0 then '-' else '+') :: (if ds.length < 2 then '0' :: ds else ds)

/-- The layout of significant digits whose first stands for `10 ^ lead`: positional
from 10^-4 up to 10^15, with a point in every case; otherwise with an exponent. -/
def layoutDigits (ds : List Char) (lead : Int) : List Char :=
  if lead < -4 ∨ 16 ≤ lead then
    match ds with
    | [] => []
    | [d] => d :: 'e' :: exponentText lead
    | d :: rest => d :: '.' :: rest ++ 'e' :: exponentText lead
  else if lead < 0 then
    '0' :: '.' :: List.replicate (-lead - 1).toNat '0' ++ ds
  else
    let whole := lead.toNat + 1
    if ds.length ≤ whole then ds ++ List.replicate (whole - ds.length) '0' ++ ['.', '0']
    else ds.take whole ++ '.' :: ds.drop whole

/-- The natural text of a binary number. -/
def Binary.text : Binary → String
  | .nan => "nan"
  | .infinite negative => if negative then "-inf" else "inf"
  | .finite negative m q =>
    let body := if m = 0 then ['0', '.', '0'] else
      let (ds, lead) := Shortest.digits m q
      layoutDigits ds lead
    String.ofList (if negative then '-' :: body else body)

end ExaWire
