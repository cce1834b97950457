/-
ExaWire/Number/Binary.lean

Binary floating-point numbers of 64 bits, held exactly: a sign, a significand
below 2^53 and a power of two, beside the infinities and the value that is not
a number.  Nothing here goes through machine floats, so every value can be
reasoned about as a fraction of naturals.

`Binary.ofRatio` rounds any fraction to the nearest such number (ties to the
even significand); it is the one way in, for integers and for decimal texts.
-/
import ExaWire.Number.Ratio

namespace ExaWire

/-- A 64-bit binary floating-point number. -/
inductive Binary
  | nan
  | infinite (negative : Bool)
  /-- `± significand · 2 ^ exponent` -/
  | finite (negative : Bool) (significand : Nat) (exponent : Int)
deriving DecidableEq, Repr

namespace Binary

/-- The least exponent: that of the subnormal numbers. -/
def minExponent : Int := -1074

/-- The greatest exponent of a finite number. -/
def maxExponent : Int := 971

/-- Significands have 53 bits. -/
def precision : Nat := 53

/-- Zero, with its sign. -/
def zero (negative : Bool) : Binary := .finite negative 0 minExponent

/-- Positive zero, one of the two zeros. -/
instance : Inhabited Binary := ⟨zero false⟩

/-- The exponent at which `num / den` has a significand of 53 bits, or the least
exponent if that is greater. -/
def exponentFor (num den : Nat) : Int :=
  let e : Int := (num.log2 : Int) - (den.log2 : Int) - precision
  let (up, down) := scaled 2 e
  let e := if Nat.pow 2 precision ≤ num * down / (den * up) then e + 1 else e
  max e minExponent

/-- The number nearest to `± num / den`; too great a fraction becomes infinite. -/
def ofRatio (negative : Bool) (num den : Nat) : Binary :=
  if num = 0 then zero negative
  else
    let e := exponentFor num den
    let (up, down) := scaled 2 e
    let m := roundDiv (num * down) (den * up)
    let (m, e) := if m = Nat.pow 2 precision then (Nat.pow 2 (precision - 1), e + 1) else (m, e)
    if maxExponent < e then .infinite negative else .finite negative m e

/-- The number nearest to an integer. -/
def ofInt (n : Int) : Binary := ofRatio (n < 0) n.natAbs 1

/-- The number nearest to `± digits · 10 ^ exponent`.  Exponents far outside the
range of these numbers are answered without computing the power. -/
def ofDecimal (negative : Bool) (digits : Nat) (exponent : Int) : Binary :=
  if digits = 0 then zero negative
  else
    let magnitude : Int := exponent + ((Nat.toDigits 10 digits).length : Int)
    if 310 < magnitude then .infinite negative
    else if magnitude < -330 then zero negative
    else
      let (up, down) := scaled 10 exponent
      ofRatio negative (digits * up) down

/-- Neither infinite nor without a value. -/
def isFinite : Binary → Bool
  | .finite _ _ _ => true
  | _ => false

/-- Both zeros count as zero. -/
def isZero : Binary → Bool
  | .finite _ m _ => m = 0
  | _ => false

/-- The magnitude of a finite number as a fraction. -/
def ratio (significand : Nat) (exponent : Int) : Nat × Nat :=
  let (up, down) := scaled 2 exponent
  (significand * up, down)

/-- The integer towards zero from a finite number. -/
def truncate (negative : Bool) (significand : Nat) (exponent : Int) : Int :=
  let (num, den) := ratio significand exponent
  if negative then -((num / den : Nat) : Int) else ((num / den : Nat) : Int)

/-- The magnitude of a finite number in units of `10 ^ -places`, rounded. -/
def fixedUnits (significand : Nat) (exponent : Int) (places : Nat) : Nat :=
  let (num, den) := ratio significand exponent
  roundDiv (num * Nat.pow 10 places) den

end Binary

end ExaWire
