/-
ExaWire/Proofs/Parameter/Double.lean

What a column of type `DOUBLE` is sent.

`Denotes v x` says that a value is a number `x` which comes to the column as it is: a finite
decimal with any coefficient and exponent, an integer of at most 53 bits, a finite binary
number.  Each of them is sent as a fixed-point number with six places, the nearest there is to
`x`; so integers are sent as they are, and so is a decimal that has no more places.

Only a decimal can be too long to be written so (`isOverlong`), and such a decimal is neither
sent nor refused, but ends the conversion in a fault.
-/
import ExaWire.Json.Writer
import ExaWire.Parameter.Literal
import ExaWire.Proofs.Number.FixedPoint

namespace ExaWire

/-! ### Rounding to places -/

/-- The number of so many places that is nearest to another, the even one if two are equally
near. -/
def IsRounded (places : ℕ) (x y : ℚ) : Prop :=
  ∃ k : ℤ, IsNearest (x * 10 ^ places) k ∧ y = k / 10 ^ places

namespace IsRounded

variable {places : ℕ} {x x' y y' : ℚ}

theorem mono (h : IsRounded places x y) (h' : IsRounded places x' y') (le : x ≤ x') : y ≤ y' := by
  obtain ⟨k, near, rfl⟩ := h
  obtain ⟨k', near', rfl⟩ := h'
  have scaled : x * 10 ^ places ≤ x' * 10 ^ places :=
    mul_le_mul_of_nonneg_right le (by positivity)
  exact div_le_div_of_nonneg_right (by exact_mod_cast near.mono near' scaled) (by positivity)

/-- A number of so many places is not changed. -/
theorem eq_of_places (h : IsRounded places x y) {m : ℤ} (whole : x * 10 ^ places = m) : y = x := by
  obtain ⟨k, near, rfl⟩ := h
  rw [whole] at near
  rw [near.unique (.ofInt m), ← whole, mul_div_cancel_right₀ _ (by positivity)]

end IsRounded

/-- The value of a decimal that is not finer than its places allow. -/
theorem Decimal.value_places (negative : Bool) (c : ℕ) {e : ℤ} {places : ℕ}
    (h : -(places : ℤ) ≤ e) :
    ∃ m : ℤ, (Decimal.finite negative c e).value * 10 ^ places = m := by
  have ten : (10 : ℚ) ≠ 0 := by norm_num
  have units : (c : ℚ) * 10 ^ e * 10 ^ places = (c * 10 ^ (e + places).toNat : ℕ) := by
    rw [mul_assoc, ← zpow_natCast (10 : ℚ) places, ← zpow_add₀ ten]
    push_cast
    rw [← zpow_natCast (10 : ℚ) (e + places).toNat, Int.toNat_of_nonneg (by omega)]
  refine ⟨signedUnits negative (c * 10 ^ (e + places).toNat), ?_⟩
  rw [Decimal.value]
  cases negative with
  | false => exact_mod_cast units
  | true =>
    rw [signed, if_pos rfl, neg_mul, units, signedUnits, if_pos rfl]
    push_cast
    rfl

theorem value_signedUnits (negative : Bool) (n places : ℕ) :
    (Decimal.finite negative n (-places)).value = (signedUnits negative n : ℚ) / 10 ^ places := by
  rw [Decimal.value, zpow_neg, zpow_natCast, ← div_eq_mul_inv]
  cases negative with
  | false => rfl
  | true => rw [signed, if_pos rfl, signedUnits, if_pos rfl, Int.cast_neg, neg_div, Int.cast_natCast]

namespace Parameter

/-! ### Numbers -/

/-- The number that a value is. -/
inductive Denotes : Value → ℚ → Prop
  | decimal (negative : Bool) (c : ℕ) (e : ℤ) :
      Denotes (.decimal (.finite negative c e)) (Decimal.finite negative c e).value
  | int {n : ℤ} (exact : |n| ≤ 2 ^ 53) : Denotes (.int n) n
  | float (negative : Bool) (m : ℕ) (e : ℤ) :
      Denotes (.float (.finite negative m e)) (Binary.finite negative m e).value

/-- The values that are no numbers, or none that can be sent. -/
inductive NoNumber : Value → Prop
  | null : NoNumber .null
  | bool (b : Bool) : NoNumber (.bool b)
  | text (s : String) : NoNumber (.text s)
  | decimal {d : Decimal} (infinite : d.isFinite = false) : NoNumber (.decimal d)

/-- An integer of at most 53 bits is a binary number. -/
theorem ofInt_exact {n : ℤ} (h : |n| ≤ 2 ^ 53) :
    ∃ negative m e, Binary.ofInt n = .finite negative m e ∧
      (Binary.finite negative m e).value = n := by
  have bits : n.natAbs ≤ 2 ^ 53 := by
    rw [Int.abs_eq_natAbs] at h
    exact_mod_cast h
  obtain ⟨m, e, same, value⟩ := Binary.ofRatio_one bits (n < 0)
  refine ⟨_, m, e, same, ?_⟩
  rw [Binary.value, value]
  by_cases negative : n < 0
  · rw [signed, decide_eq_true negative, if_pos rfl, Nat.cast_natAbs, abs_of_neg negative,
      Int.cast_neg, neg_neg]
  · rw [signed, decide_eq_false negative, if_neg Bool.false_ne_true, Nat.cast_natAbs,
      abs_of_nonneg (Int.not_lt.1 negative)]

/-- A number is written in units of its last place, as many of them as are nearest to it. -/
theorem doubleLiteral_denotes {v : Value} {x : ℚ} (h : Denotes v x) (short : isOverlong v = false) :
    ∃ negative n, doubleLiteral v = .ok (.finite negative n (-(doublePlaces : ℤ))) ∧
      IsNearest (x * 10 ^ doublePlaces) (signedUnits negative n) := by
  unfold doubleLiteral
  rw [if_neg (ne_true_of_eq_false short)]
  cases h with
  | decimal negative c e => exact ⟨negative, _, rfl, Decimal.isNearest_fixed _ negative c e⟩
  | float negative m e => exact ⟨negative, _, rfl, Binary.isNearest_fixedUnits negative m e _⟩
  | @int n exact =>
    -- an integer goes through a binary number, which it is itself
    obtain ⟨negative, m, e, same, value⟩ := ofInt_exact exact
    refine ⟨negative, Binary.fixedUnits m e doublePlaces, ?_, ?_⟩
    · simp only [toBinary, same, Binary.isFinite, if_true, bind, Except.bind]
    · rw [← value]
      exact Binary.isNearest_fixedUnits negative m e _

/-! ### The column -/

/-- How a column converts numbers, and what it refuses. -/
structure TakesDoubles (t : ColumnType) : Prop where
  literal : ∀ v x, Denotes v x → isOverlong v = false → ∃ d text, convert v t = .ok (.decimal d) ∧
    Json.write (.decimal d) = .ok text ∧ FixedPoint doublePlaces d.value text ∧
    IsRounded doublePlaces x d.value
  overlong : ∀ v, isOverlong v = true → convert v t = .error (.fault .badValue)
  integer : ∀ n : ℤ, |n| ≤ 2 ^ 53 → ∀ d, convert (.int n) t = .ok (.decimal d) → d.value = n
  monotone : ∀ v x w y d d', Denotes v x → Denotes w y → x ≤ y →
    convert v t = .ok (.decimal d) → convert w t = .ok (.decimal d') → d.value ≤ d'.value
  unchanged : ∀ negative c e d, -(doublePlaces : ℤ) ≤ e →
    convert (.decimal (.finite negative c e)) t = .ok (.decimal d) →
    d.value = (Decimal.finite negative c e).value
  refused : ∀ v, NoNumber v → convert v t = .error (.argument v "DOUBLE")

section

variable {t : ColumnType} {v w : Value} {x y : ℚ}

theorem convert_denotes (double : t.name = "DOUBLE") (h : Denotes v x) :
    convert v t = (doubleLiteral v).map .decimal := by
  cases h with
  | decimal negative c e => exact if_pos double
  | int exact => exact if_pos double
  | float negative m e => exact if_pos double

/-- What a number is converted to. -/
theorem literal_of_denotes (double : t.name = "DOUBLE") (h : Denotes v x)
    (short : isOverlong v = false) :
    ∃ d text, convert v t = .ok (.decimal d) ∧ Json.write (.decimal d) = .ok text ∧
      FixedPoint doublePlaces d.value text ∧ IsRounded doublePlaces x d.value := by
  obtain ⟨negative, n, literal, near⟩ := doubleLiteral_denotes h short
  refine ⟨.finite negative n (-(doublePlaces : ℤ)), _, ?_, rfl, ?_, ?_⟩
  · rw [convert_denotes double h, literal]
    rfl
  · exact Decimal.fixedPoint_text negative n (by decide) (by decide)
  · exact ⟨_, near, value_signedUnits negative n doublePlaces⟩

theorem isRounded_of_convert (double : t.name = "DOUBLE") (h : Denotes v x) {d : Decimal}
    (converted : convert v t = .ok (.decimal d)) : IsRounded doublePlaces x d.value := by
  cases long : isOverlong v with
  | false =>
    obtain ⟨d', _, same, _, _, rounded⟩ := literal_of_denotes double h long
    rw [converted] at same
    cases same
    exact rounded
  | true => cases converted.symm.trans (convert_overlong double long)

theorem convert_noNumber (double : t.name = "DOUBLE") (h : NoNumber v) :
    convert v t = .error (.argument v "DOUBLE") := by
  rw [← double]
  cases h with
  | null => exact if_pos double
  | bool b => exact if_pos double
  | text s => exact if_pos double
  | @decimal d infinite =>
    have literal : doubleLiteral (.decimal d) = .error (.argument (.decimal d) t.name) := by
      rw [double]
      cases d with
      | finite negative c e => cases infinite
      | nan negative signalling payload => rfl
      | infinite negative => rfl
    calc convert (.decimal d) t = (doubleLiteral (.decimal d)).map .decimal := if_pos double
      _ = .error (.argument (.decimal d) t.name) := by rw [literal]; rfl

/-- Numbers that are not too long are sent to a column of doubles as fixed-point numbers of six
places, each rounded to the nearest, and what is no number is refused. -/
theorem takesDoubles (double : t.name = "DOUBLE") : TakesDoubles t where
  literal _ _ h short := literal_of_denotes double h short
  overlong _ long := convert_overlong double long
  integer n exact d converted := by
    have rounded := isRounded_of_convert double (.int exact) converted
    refine rounded.eq_of_places (m := n * 10 ^ doublePlaces) ?_
    push_cast
    rfl
  monotone _ _ _ _ _ _ hv hw le hd hd' :=
    (isRounded_of_convert double hv hd).mono (isRounded_of_convert double hw hd') le
  unchanged negative c e d coarse converted := by
    obtain ⟨m, whole⟩ := Decimal.value_places negative c coarse
    exact (isRounded_of_convert double (.decimal negative c e) converted).eq_of_places whole
  refused _ h := convert_noNumber double h

/-- Ties on both sides of an even number of units, and one that carries into a new digit. -/
theorem takesDoubles_ties : TakesDoubles { name := "DOUBLE" } ∧
    convert (.decimal (.finite false 15 (-7))) { name := "DOUBLE" } =
      .ok (.decimal (.finite false 2 (-6))) ∧
    convert (.decimal (.finite false 25 (-7))) { name := "DOUBLE" } =
      .ok (.decimal (.finite false 2 (-6))) ∧
    convert (.decimal (.finite true 99999995 (-7))) { name := "DOUBLE" } =
      .ok (.decimal (.finite true 10000000 (-6))) ∧
    Json.write (.decimal (.finite true 10000000 (-6))) = .ok "-10.000000".toList :=
  ⟨takesDoubles rfl, rfl, rfl, rfl, rfl⟩

/-- A decimal of a single digit, whose exponent is too great for it to be written. -/
theorem longDecimal_unwritten :
    convert (.decimal (.finite false 1 999999999999999999)) { name := "DOUBLE" } =
      .error (.fault .badValue) := rfl

end

end Parameter

end ExaWire
