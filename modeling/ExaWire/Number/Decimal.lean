/-
ExaWire/Number/Decimal.lean

Decimal numbers with an unbounded coefficient and exponent: `± c · 10 ^ e`,
where `1.5` and `1.50` are different numbers of the same value.  `Decimal.text`
writes one so that sign, coefficient and exponent can be read off;
`Decimal.fixed` rounds one to a number of places, a tie to the even unit.
-/
import ExaWire.Number.Ratio

namespace ExaWire

/-- A decimal number. -/
inductive Decimal
  | nan (negative signalling : Bool) (payload : Nat)
  | infinite (negative : Bool)
  /-- `± coefficient · 10 ^ exponent` -/
  | finite (negative : Bool) (coefficient : Nat) (exponent : Int)
deriving DecidableEq, Repr

namespace Decimal

instance : Inhabited Decimal := ⟨.finite false 0 0⟩

/-- Neither infinite nor without a value. -/
def isFinite : Decimal → Bool
  | .finite _ _ _ => true
  | _ => false

/-- How many digits stand left of the point of a magnitude; a negative number counts the
zeros that follow it. -/
def integerDigits (coefficient : Nat) (exponent : Int) : Int :=
  exponent + (Nat.toDigits 10 coefficient).length

/-- A coefficient and an exponent as text: positional while the exponent is not
positive and at most five zeros follow the point, otherwise with an exponent. -/
def finiteText (coefficient : Nat) (exponent : Int) : List Char :=
  let ds := Nat.toDigits 10 coefficient
  let left := integerDigits coefficient exponent
  let positional := exponent ≤ 0 ∧ -6 < left
  let dot : Int := if positional then left else 1
  let body :=
    if dot ≤ 0 then '0' :: '.' :: List.replicate (-dot).toNat '0' ++ ds
    else if (ds.length : Int) ≤ dot then ds ++ List.replicate (dot - ds.length).toNat '0'
    else ds.take dot.toNat ++ '.' :: ds.drop dot.toNat
  let power := left - dot
  if power = 0 then body
  else body ++ 'E' :: (if power < 0 then '-' else '+') :: Nat.toDigits 10 power.natAbs

/-- The text of a decimal number. -/
def text (d : Decimal) : String :=
  let (negative, body) := match d with
    | .nan negative signalling payload =>
      (negative, (if signalling then ['s'] else []) ++ ['N', 'a', 'N'] ++
        (if payload = 0 then [] else Nat.toDigits 10 payload))
    | .infinite negative => (negative, "Infinity".toList)
    | .finite negative c e => (negative, finiteText c e)
  String.ofList (if negative then '-' :: body else body)

/-- The units of `10 ^ -places` in a magnitude, rounded; zero and magnitudes far below one
unit are answered without computing the power. -/
def unitsOf (coefficient : Nat) (exponent : Int) (places : Nat) : Nat :=
  if coefficient = 0 ∨ integerDigits coefficient (exponent + places) < 0 then 0
  else
    let (up, down) := scaled 10 (exponent + places)
    roundDiv (coefficient * up) down

/-- The most digits that a number of a fixed number of places can have. -/
def maxFixedDigits : Int := 1000000000000000000

/-- Whether a magnitude has more digits than can be written, with so many places; zero
never has. -/
def isOverlong (places : Nat) (coefficient : Nat) (exponent : Int) : Bool :=
  coefficient ≠ 0 && maxFixedDigits < integerDigits coefficient exponent + places

/-- A finite number rounded to so many places; it keeps its sign, also of zero. -/
def fixed (places : Nat) (negative : Bool) (coefficient : Nat) (exponent : Int) : Decimal :=
  .finite negative (unitsOf coefficient exponent places) (-(places : Int))

/-- The integer towards zero from a finite number. -/
def truncate (negative : Bool) (coefficient : Nat) (exponent : Int) : Int :=
  if coefficient = 0 ∨ integerDigits coefficient exponent ≤ 0 then 0
  else
    let (up, down) := scaled 10 exponent
    let n : Nat := coefficient * up / down
    if negative then -(n : Int) else n

end Decimal

end ExaWire
