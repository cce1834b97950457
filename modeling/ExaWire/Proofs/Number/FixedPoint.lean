/-
ExaWire/Proofs/Number/FixedPoint.lean

Rounded decimals are written as fixed-point numbers.

`FixedPoint places x cs` says what such a text is: a sign, digits without a superfluous zero
in front of them, a point and as many digits as there are places, which denote `x` together.

A decimal has this form when its exponent says up to six places.  The digits of the
coefficient are divided by the point, and zeros stand in for what they do not reach; with six
places at most five of these follow the point, and more would call for an exponent.
-/
import ExaWire.Proofs.Number.Reading
import ExaWire.Proofs.Number.Rounding

namespace ExaWire

/-! ### Fixed-point texts -/

/-- The text of a number with so many places. -/
inductive FixedPoint (places : ℕ) : ℚ → List Char → Prop
  | intro (negative : Bool) {whole fraction : List Char}
      (digits : ∀ c ∈ whole ++ fraction, c.isDigit = true)
      (least : whole ≠ [])
      (lean : whole.head? = some '0' → whole = ['0'])
      (full : fraction.length = places) :
      FixedPoint places
        (signed negative (Nat.ofDigitChars 10 (whole ++ fraction) 0 / 10 ^ places))
        ((if negative then ['-'] else []) ++ whole ++ '.' :: fraction)

section

variable {n places : ℕ}

/-- With up to six places the digits are divided by a point, and no exponent follows. -/
theorem finiteText_places (n : ℕ) (some : 0 < places) (few : places ≤ 6) :
    Decimal.finiteText n (-places) =
      let ds := Nat.toDigits 10 n
      if ds.length ≤ places then '0' :: '.' :: (List.replicate (places - ds.length) '0' ++ ds)
      else ds.take (ds.length - places) ++ '.' :: ds.drop (ds.length - places) := by
  have any : 0 < (Nat.toDigits 10 n).length := Nat.length_toDigits_pos
  have positional : -(places : ℤ) ≤ 0 ∧ -6 < Decimal.integerDigits n (-places) := by
    unfold Decimal.integerDigits
    omega
  simp only [Decimal.finiteText, if_pos positional, sub_self, if_true]
  unfold Decimal.integerDigits
  split
  · next short =>
    have zeros : (-(-(places : ℤ) + (Nat.toDigits 10 n).length)).toNat =
        places - (Nat.toDigits 10 n).length := by omega
    rw [if_pos (by omega), zeros]
    rfl
  · next long =>
    have whole : (-(places : ℤ) + (Nat.toDigits 10 n).length).toNat =
        (Nat.toDigits 10 n).length - places := by omega
    rw [if_neg (by omega), if_neg (by omega), whole]

theorem fixedPoint_of_digits (negative : Bool) (whole : List Char) {fraction : List Char}
    (text : Decimal.finiteText n (-places) = whole ++ '.' :: fraction)
    (digits : ∀ c ∈ whole ++ fraction, c.isDigit = true) (least : whole ≠ [])
    (lean : whole.head? = some '0' → whole = ['0']) (full : fraction.length = places)
    (value : Nat.ofDigitChars 10 (whole ++ fraction) 0 = n) :
    FixedPoint places (Decimal.finite negative n (-places)).value
      (Decimal.finite negative n (-places)).text.toList := by
  have written : (Decimal.finite negative n (-places)).text.toList =
      (if negative then ['-'] else []) ++ whole ++ '.' :: fraction := by
    rw [Decimal.text, text, String.toList_ofList]
    cases negative with
    | false => rfl
    | true => rfl
  have denoted : (Decimal.finite negative n (-places)).value =
      signed negative (Nat.ofDigitChars 10 (whole ++ fraction) 0 / 10 ^ places) := by
    rw [value, Decimal.value, zpow_neg, zpow_natCast, div_eq_mul_inv]
  rw [written, denoted]
  exact .intro negative digits least lean full

/-- A decimal with up to six places is written as a fixed-point number. -/
theorem Decimal.fixedPoint_text (negative : Bool) (n : ℕ) (some : 0 < places) (few : places ≤ 6) :
    FixedPoint places (Decimal.finite negative n (-places)).value
      (Decimal.finite negative n (-places)).text.toList := by
  have text := finiteText_places n some few
  have digits : ∀ c ∈ Nat.toDigits 10 n, c.isDigit = true := fun c hc => isDigit_of_mem_digits hc
  have value : Nat.ofDigitChars 10 (Nat.toDigits 10 n) 0 = n := Nat.ofDigitChars_ten_toDigits
  dsimp only at text
  split at text
  · next short =>
    have zeros : ∀ c ∈ '0' :: List.replicate (places - (Nat.toDigits 10 n).length) '0',
        c.isDigit = true := by
      intro c hc
      rw [← List.replicate_succ] at hc
      rw [List.eq_of_mem_replicate hc]
      rfl
    refine fixedPoint_of_digits negative ['0'] text ?_ (List.cons_ne_nil _ _)
      (fun _ => rfl) ?_ ?_
    · show ∀ c ∈ ('0' :: List.replicate _ '0') ++ Nat.toDigits 10 n, c.isDigit = true
      exact List.forall_mem_append.2 ⟨zeros, digits⟩
    · rw [List.length_append, List.length_replicate, Nat.sub_add_cancel short]
    · rw [Nat.ofDigitChars_append, Nat.ofDigitChars_append, Nat.ofDigitChars_replicate_zero]
      exact value
  · next long =>
    have all := List.take_append_drop ((Nat.toDigits 10 n).length - places) (Nat.toDigits 10 n)
    have least : (Nat.toDigits 10 n).take ((Nat.toDigits 10 n).length - places) ≠ [] := by
      rw [← List.length_pos_iff, List.length_take]
      omega
    refine fixedPoint_of_digits negative _ text ?_ least (fun zero => ?_) ?_ ?_
    · rwa [all]
    · -- there are more digits than places, so the first of them is no zero
      rw [← List.head?_append_of_ne_nil _ least, all] at zero
      exact absurd zero (head_digits_ne_zero (by omega))
    · rw [List.length_drop]
      omega
    · rwa [all]

end

end ExaWire
