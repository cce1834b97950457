/-
ExaWire/Number/Ratio.lean

Rounding of quotients of naturals, the one rounding rule of this library: to
the nearest natural, and a tie goes to the even neighbour.  Binary numbers,
decimal literals and fixed-point texts all round through `roundDiv`.
-/

namespace ExaWire

/-- `num / den` rounded to the nearest natural, a tie to the even neighbour. -/
def roundDiv (num den : Nat) : Nat :=
  let q := num / den
  let r := num % den
  if 2 * r < den then q
  else if 2 * r = den then q + q % 2
  else q + 1

/-- A quotient that comes out even is not changed. -/
theorem roundDiv_mul_right (n : Nat) {den : Nat} (h : 0 < den) : roundDiv (n * den) den = n := by
  simp [roundDiv, Nat.mul_div_cancel _ h, h]

/-- A positive power of `base` as a numerator, a negative one as a denominator. -/
def scaled (base : Nat) (exponent : Int) : Nat × Nat :=
  (Nat.pow base exponent.toNat, Nat.pow base (-exponent).toNat)

end ExaWire
