/-
ExaWire/Proofs/Number/Rounding.lean

Numbers are rounded to the nearest integer, and a tie goes to the even one.

`IsNearest x k` says so of a rational number `x`, without a word about how `k` is found.
There is only one such integer, and the greater of two numbers has the greater one
(`IsNearest.mono`).  Quotients of naturals are rounded so by `roundDiv`, and by way of it the
units of a decimal and of a binary number.

A decimal far below one unit is answered without its power, which is right as it is less than
half a unit.  An integer of at most 53 bits loses nothing when it becomes a binary number.
-/
import ExaWire.Number.Binary
import ExaWire.Number.Decimal
import Mathlib.Data.Rat.Cast.Order
import Mathlib.Algebra.Order.Field.Power
import Mathlib.Tactic.Linarith
import Mathlib.Tactic.Positivity
import Mathlib.Tactic.Ring

namespace ExaWire

/-! ### The nearest integer -/

/-- An integer nearest to a number, and the even one if two are equally near. -/
structure IsNearest (x : ℚ) (k : ℤ) : Prop where
  near : ∀ j : ℤ, |x - k| ≤ |x - j|
  even : ∀ j : ℤ, j ≠ k → |x - j| = |x - k| → Even k

namespace IsNearest

variable {x y : ℚ} {k l : ℤ}

theorem of_half (near : |x - k| ≤ 1 / 2) (even : |x - k| = 1 / 2 → Even k) : IsNearest x k := by
  have far {j : ℤ} (other : j ≠ k) : 1 ≤ |x - k| + |x - j| := by
    have apart : (1 : ℤ) ≤ |k - j| := Int.one_le_abs (sub_ne_zero.2 other.symm)
    calc (1 : ℚ) ≤ |(k : ℚ) - j| := by exact_mod_cast apart
      _ = |(x - j) - (x - k)| := by rw [sub_sub_sub_cancel_left]
      _ ≤ |x - j| + |x - k| := abs_sub _ _
      _ = |x - k| + |x - j| := add_comm _ _
  constructor
  · intro j
    by_cases other : j = k
    · rw [other]
    · linarith [far other]
  · intro j other same
    exact even (le_antisymm near (by linarith [far other]))

theorem le_half (h : IsNearest x k) : |x - k| ≤ 1 / 2 := by
  have above := h.near (k + 1)
  have below := h.near (k - 1)
  push_cast at above below
  rcases abs_cases (x - k) with ⟨e, _⟩ | ⟨e, _⟩
  · rcases abs_cases (x - (k + 1)) with ⟨e', _⟩ | ⟨e', _⟩ <;> linarith
  · rcases abs_cases (x - (k - 1)) with ⟨e', _⟩ | ⟨e', _⟩ <;> linarith

theorem even_of_half (h : IsNearest x k) (half : |x - k| = 1 / 2) : Even k := by
  rcases abs_cases (x - k) with ⟨e, _⟩ | ⟨e, _⟩
  · refine h.even (k + 1) (by omega) ?_
    push_cast
    rw [half, abs_of_nonpos (by linarith)]
    linarith
  · refine h.even (k - 1) (by omega) ?_
    push_cast
    rw [half, abs_of_nonneg (by linarith)]
    linarith

theorem neg (h : IsNearest x k) : IsNearest (-x) (-k) := by
  have same : |-x - (-k : ℤ)| = |x - k| := by
    rw [Int.cast_neg, ← abs_neg, neg_sub, neg_sub_neg]
  exact of_half (same ▸ h.le_half) fun half => (h.even_of_half (same ▸ half)).neg

/-- What lies beyond an integer by less than a half is rounded to that integer. -/
theorem of_below {rest : ℚ} (least : 0 ≤ rest) (half : rest < 1 / 2) : IsNearest (k + rest) k := by
  have gap : |(k : ℚ) + rest - k| = rest := by rw [add_sub_cancel_left, abs_of_nonneg least]
  exact of_half (gap.symm ▸ half.le) fun tie => absurd (gap.symm.trans tie) half.ne

/-- What lies beyond it by more than a half is rounded to the next one, -/
theorem of_above {rest : ℚ} (half : 1 / 2 < rest) (small : rest < 1) :
    IsNearest (k + rest) (k + 1) := by
  have gap : |(k : ℚ) + rest - ((k + 1 : ℤ) : ℚ)| = 1 - rest := by
    rw [Int.cast_add, Int.cast_one, add_sub_add_left_eq_sub, abs_of_neg (by linarith), neg_sub]
  refine of_half ?_ fun tie => ?_
  · rw [gap]
    linarith
  · rw [gap] at tie
    linarith

/-- and in the middle between them to the even one. -/
theorem of_tie (n : ℕ) : IsNearest ((n : ℤ) + 1 / 2) ((n + n % 2 : ℕ) : ℤ) := by
  have even : Even ((n + n % 2 : ℕ) : ℤ) := by
    rw [Int.even_coe_nat, Nat.even_iff]
    omega
  refine of_half ?_ fun _ => even
  rw [abs_le]
  rcases Nat.mod_two_eq_zero_or_one n with e | e <;> rw [e] <;> push_cast <;> constructor <;> linarith

/-- Rounding is monotone. -/
theorem mono (hx : IsNearest x k) (hy : IsNearest y l) (le : x ≤ y) : k ≤ l := by
  by_contra below
  have next : (l : ℚ) + 1 ≤ k := by exact_mod_cast Int.not_le.1 below
  have low := (abs_le.1 hx.le_half).1
  have high := (abs_le.1 hy.le_half).2
  -- there is no room left: both numbers lie in the middle between two integers that follow
  have tie : x - k = -(1 / 2) := by linarith
  have tie' : y - l = 1 / 2 := by linarith
  have follows : k = l + 1 := by
    have : (k : ℚ) = l + 1 := by linarith
    exact_mod_cast this
  have evenK : Even k := hx.even_of_half (by rw [tie, abs_neg, abs_of_pos (by norm_num)])
  have evenL : Even l := hy.even_of_half (by rw [tie', abs_of_pos (by norm_num)])
  rw [follows, Int.even_add_one] at evenK
  exact evenK evenL

theorem unique (h : IsNearest x k) (h' : IsNearest x l) : k = l :=
  le_antisymm (h.mono h' le_rfl) (h'.mono h le_rfl)

theorem ofInt (k : ℤ) : IsNearest k k :=
  of_half (by rw [sub_self, abs_zero]; norm_num) fun half => by norm_num at half

end IsNearest

/-! ### Quotients -/

/-- A quotient is its whole part and a rest. -/
theorem quotient_eq (num : ℕ) {den : ℕ} (positive : 0 < den) :
    (num : ℚ) / den = ((num / den : ℕ) : ℤ) + ((num % den : ℕ) : ℚ) / den := by
  have hden : (den : ℚ) ≠ 0 := by exact_mod_cast positive.ne'
  have whole : ((num / den * den + num % den : ℕ) : ℚ) = num := by rw [Nat.div_add_mod']
  rw [Int.cast_natCast, div_eq_iff hden, add_mul, div_mul_cancel₀ _ hden, ← whole]
  push_cast
  rfl

theorem isNearest_roundDiv (num : ℕ) {den : ℕ} (positive : 0 < den) :
    IsNearest ((num : ℚ) / den) (roundDiv num den) := by
  have hden : (0 : ℚ) < den := by exact_mod_cast positive
  have less : num % den < den := Nat.mod_lt num positive
  rw [quotient_eq num positive, roundDiv]
  generalize num / den = q, num % den = r at less
  split
  · next below =>
    have half : (r : ℚ) / den < 1 / 2 := by
      rw [div_lt_div_iff₀ hden two_pos, mul_comm, one_mul]
      exact_mod_cast below
    exact .of_below (by positivity) half
  split
  · next tie =>
    have half : (r : ℚ) / den = 1 / 2 := by
      rw [div_eq_div_iff hden.ne' two_ne_zero, mul_comm, one_mul]
      exact_mod_cast tie
    rw [half]
    exact .of_tie q
  · next notBelow notTie =>
    have above : den < 2 * r := lt_of_le_of_ne (Nat.le_of_not_lt notBelow) (Ne.symm notTie)
    have half : 1 / 2 < (r : ℚ) / den := by
      rw [div_lt_div_iff₀ two_pos hden, one_mul, mul_comm]
      exact_mod_cast above
    exact .of_above half ((div_lt_one hden).2 (by exact_mod_cast less))

theorem scaled_pos {base : ℕ} (positive : 0 < base) (e : ℤ) : 0 < (scaled base e).2 :=
  Nat.pow_pos positive

/-- A power is the quotient of its numerator and its denominator. -/
theorem scaled_quotient {base : ℕ} (positive : 0 < base) (e : ℤ) :
    ((scaled base e).1 : ℚ) / (scaled base e).2 = (base : ℚ) ^ e := by
  have hb : (base : ℚ) ≠ 0 := by exact_mod_cast positive.ne'
  show ((base ^ e.toNat : ℕ) : ℚ) / ((base ^ (-e).toNat : ℕ) : ℚ) = _
  push_cast
  rw [← zpow_natCast, ← zpow_natCast, ← zpow_sub₀ hb]
  congr 1
  omega

/-! ### Decimals -/

/-- The magnitude with a sign in front. -/
def signed (negative : Bool) (x : ℚ) : ℚ := if negative then -x else x

/-- The integer with a sign in front of it. -/
def signedUnits (negative : Bool) (n : ℕ) : ℤ := if negative then -n else n

theorem IsNearest.signed {x : ℚ} {n : ℕ} (h : IsNearest x n) (negative : Bool) :
    IsNearest (signed negative x) (signedUnits negative n) := by
  cases negative with
  | false => exact h
  | true => exact h.neg

/-- The number that a finite decimal is. -/
def Decimal.value : Decimal → ℚ
  | .finite negative c e => signed negative (c * 10 ^ e)
  | _ => 0

theorem lt_pow_length_digits (n : ℕ) : n < 10 ^ (Nat.toDigits 10 n).length :=
  (Nat.length_toDigits_le_iff (by decide) Nat.length_toDigits_pos).1 (Nat.le_refl _)

theorem isNearest_unitsOf (c : ℕ) (e : ℤ) (places : ℕ) :
    IsNearest (c * 10 ^ e * 10 ^ places) (Decimal.unitsOf c e places) := by
  have ten : (10 : ℚ) ≠ 0 := by norm_num
  have units : (c : ℚ) * 10 ^ e * 10 ^ places = c * 10 ^ (e + places) := by
    rw [mul_assoc, ← zpow_natCast (10 : ℚ) places, ← zpow_add₀ ten]
  rw [units, Decimal.unitsOf]
  split
  · next small =>
    rcases small with rfl | small
    · rw [Nat.cast_zero, zero_mul]
      exact .ofInt 0
    -- the digits leave at least one zero behind the point, so this is less than a tenth
    have tenth : (c : ℚ) * 10 ^ (e + places) < 1 / 10 := by
      have digits : (c : ℚ) < 10 ^ ((Nat.toDigits 10 c).length : ℤ) := by
        rw [zpow_natCast]
        exact_mod_cast lt_pow_length_digits c
      calc (c : ℚ) * 10 ^ (e + places)
          < 10 ^ ((Nat.toDigits 10 c).length : ℤ) * 10 ^ (e + places) :=
            mul_lt_mul_of_pos_right digits (by positivity)
        _ = 10 ^ (((Nat.toDigits 10 c).length : ℤ) + (e + places)) := (zpow_add₀ ten _ _).symm
        _ ≤ 10 ^ (-1 : ℤ) := zpow_le_zpow_right₀ (by norm_num) (by
            unfold Decimal.integerDigits at small
            omega)
        _ = 1 / 10 := by norm_num
    have near : IsNearest (((0 : ℤ) : ℚ) + c * 10 ^ (e + places)) 0 :=
      .of_below (by positivity) (by linarith)
    rwa [Int.cast_zero, zero_add] at near
  · have nearest := isNearest_roundDiv (c * (scaled 10 (e + places)).1)
      (scaled_pos (Nat.succ_pos 9) (e + places))
    rwa [Nat.cast_mul, mul_div_assoc, scaled_quotient (by decide)] at nearest

/-- A decimal is rounded to the nearest of its last places. -/
theorem Decimal.isNearest_fixed (places : ℕ) (negative : Bool) (c : ℕ) (e : ℤ) :
    IsNearest ((Decimal.finite negative c e).value * 10 ^ places)
      (signedUnits negative (unitsOf c e places)) := by
  have nearest := (isNearest_unitsOf c e places).signed negative
  cases negative with
  | false => exact nearest
  | true => rwa [ExaWire.signed, if_pos rfl, ← neg_mul] at nearest

/-! ### Binary numbers -/

/-- The number that a finite binary number is. -/
def Binary.value : Binary → ℚ
  | .finite negative m e => signed negative (m * 2 ^ e)
  | _ => 0

theorem Binary.isNearest_fixedUnits (negative : Bool) (m : ℕ) (e : ℤ) (places : ℕ) :
    IsNearest ((Binary.finite negative m e).value * 10 ^ places)
      (signedUnits negative (fixedUnits m e places)) := by
  have nearest : IsNearest (m * 2 ^ e * 10 ^ places) (fixedUnits m e places) := by
    have rounded := isNearest_roundDiv (m * (scaled 2 e).1 * 10 ^ places)
      (scaled_pos Nat.zero_lt_two e)
    rw [Nat.cast_mul, Nat.cast_mul, mul_div_right_comm, mul_div_assoc,
      scaled_quotient (by decide)] at rounded
    push_cast at rounded
    exact rounded
  have signed := nearest.signed negative
  cases negative with
  | false => exact signed
  | true => rwa [ExaWire.signed, if_pos rfl, ← neg_mul] at signed

/-- The exponent with which an integer of fewer than 53 bits has 53 of them. -/
theorem Binary.exponentFor_one {n : ℕ} (zero : n ≠ 0) (bits : n.log2 < 53) :
    exponentFor n 1 = (n.log2 : ℤ) - 52 := by
  have reaches : 2 ^ 53 ≤ n * 2 ^ (53 - n.log2) := by
    calc 2 ^ 53 = 2 ^ n.log2 * 2 ^ (53 - n.log2) := by rw [← Nat.pow_add]; congr 1; omega
      _ ≤ n * 2 ^ (53 - n.log2) := Nat.mul_le_mul_right _ (Nat.log2_self_le zero)
  have up : ((n.log2 : ℤ) - 53).toNat = 0 := by omega
  have down : (-((n.log2 : ℤ) - 53)).toNat = 53 - n.log2 := by omega
  have one : (Nat.log2 1 : ℤ) = 0 := rfl
  simp only [exponentFor, scaled, precision, minExponent, one, sub_zero, Nat.cast_ofNat, up, down,
    Nat.pow_eq, Nat.pow_zero, Nat.mul_one, Nat.div_one]
  rw [if_pos reaches]
  omega

/-- An integer of at most 53 bits is a binary number. -/
theorem Binary.ofRatio_one {n : ℕ} (h : n ≤ 2 ^ 53) (negative : Bool) :
    ∃ m e, ofRatio negative n 1 = .finite negative m e ∧ (m : ℚ) * 2 ^ e = n := by
  by_cases zero : n = 0
  · exact ⟨0, minExponent, by rw [ofRatio, if_pos zero]; rfl, by simp [zero]⟩
  by_cases greatest : n = 2 ^ 53
  · refine ⟨2 ^ 52, 1, by rw [greatest]; rfl, ?_⟩
    rw [greatest]
    norm_num
  have bits : n.log2 < 53 := (Nat.log2_lt zero).2 (lt_of_le_of_ne h greatest)
  have fits : n * 2 ^ (52 - n.log2) < 2 ^ 53 := by
    calc n * 2 ^ (52 - n.log2) < 2 ^ (n.log2 + 1) * 2 ^ (52 - n.log2) :=
          Nat.mul_lt_mul_of_pos_right Nat.lt_log2_self (by positivity)
      _ = 2 ^ 53 := by rw [← Nat.pow_add]; congr 1; omega
  refine ⟨n * 2 ^ (52 - n.log2), (n.log2 : ℤ) - 52, ?_, ?_⟩
  · have up : ((n.log2 : ℤ) - 52).toNat = 0 := by omega
    have down : (-((n.log2 : ℤ) - 52)).toNat = 52 - n.log2 := by omega
    have whole : roundDiv (n * 2 ^ (52 - n.log2)) 1 = n * 2 ^ (52 - n.log2) := by
      have same : roundDiv (n * 2 ^ (52 - n.log2) * 1) 1 = n * 2 ^ (52 - n.log2) :=
        roundDiv_mul_right _ Nat.one_pos
      rwa [Nat.mul_one] at same
    rw [ofRatio, if_neg zero, exponentFor_one zero bits]
    simp only [scaled, up, down, Nat.pow_eq, Nat.pow_zero, Nat.mul_one, whole, precision,
      if_neg (Nat.ne_of_lt fits), maxExponent]
    exact if_neg (by omega)
  · push_cast
    rw [mul_assoc, ← zpow_natCast (2 : ℚ), ← zpow_add₀ (by norm_num)]
    have none : ((52 - n.log2 : ℕ) : ℤ) + ((n.log2 : ℤ) - 52) = 0 := by omega
    rw [none, zpow_zero, mul_one]

end ExaWire
