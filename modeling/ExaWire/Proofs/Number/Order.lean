/-
ExaWire/Proofs/Number/Order.lean

Numbers that are compared part by part.

Where blocks lie one behind the other, a place is told by its block and by how far into the
block it lies, and places are in the order of these two (`Consecutive.lt_iff`).  The days of a
month, the seconds of a minute and the digits of a number are all counted by blocks.

So texts of as many digits are in the order of the numbers that they denote.  A number that is
padded to a width has just as many digits as the width says, provided that it fits; which
makes the order of such numbers that of their texts (`padded_lt_padded_iff`).
-/
import ExaWire.Proofs.Number.Reading
import ExaWire.Value.Calendar
import Mathlib.Algebra.Group.Nat.Defs

namespace ExaWire

/-! ### Blocks -/

/-- From the first block to the last, each one ends before the next begins. -/
def Consecutive (first last : ℕ) (start size : ℕ → ℕ) : Prop :=
  ∀ k, first ≤ k → k < last → start k + size k ≤ start (k + 1)

section

variable {first last a b u v : ℕ} {start size : ℕ → ℕ}

theorem Consecutive.end_le_start (h : Consecutive first last start size) (begins : first ≤ a)
    (before : a < b) (ends : b ≤ last) : start a + size a ≤ start b := by
  induction before with
  | refl => exact h a begins ends
  | @step b before ih =>
    have begun : first ≤ b := Nat.le_trans begins (Nat.le_of_lt before)
    calc start a + size a ≤ start b := ih (Nat.le_of_succ_le ends)
      _ ≤ start b + size b := Nat.le_add_right _ _
      _ ≤ start (b + 1) := h b begun ends

/-- Places are in the order of their blocks and, within one block, of how far into it they
lie. -/
theorem Consecutive.lt_iff (h : Consecutive first last start size) (ha : first ≤ a ∧ a ≤ last)
    (hb : first ≤ b ∧ b ≤ last) (hu : u < size a) (hv : v < size b) :
    start a + u < start b + v ↔ a < b ∨ a = b ∧ u < v := by
  rcases Nat.lt_trichotomy a b with before | rfl | behind
  · have next := h.end_le_start ha.1 before hb.2
    omega
  · omega
  · have next := h.end_le_start hb.1 behind ha.2
    omega

/-- The same for blocks of one size. -/
theorem mul_add_lt_mul_add_iff {size : ℕ} (hu : u < size) (hv : v < size) :
    a * size + u < b * size + v ↔ a < b ∨ a = b ∧ u < v := by
  have blocks : Consecutive 0 (max a b) (· * size) fun _ => size := fun k _ _ =>
    Nat.le_of_eq (Nat.succ_mul k size).symm
  exact blocks.lt_iff ⟨Nat.zero_le a, Nat.le_max_left a b⟩ ⟨Nat.zero_le b, Nat.le_max_right a b⟩
    hu hv

end

/-- Lists that begin equally long are in the order of their beginnings and, where these are
equal, of what follows. -/
theorem append_lt_append_iff {α : Type} [LT α] {xs ys us vs : List α}
    (same : xs.length = ys.length) : xs ++ us < ys ++ vs ↔ xs < ys ∨ xs = ys ∧ us < vs := by
  induction xs generalizing ys with
  | nil =>
    obtain rfl := List.length_eq_zero_iff.1 same.symm
    simp only [List.nil_append, List.not_lt_nil, true_and, false_or]
  | cons x xs ih =>
    cases ys with
    | nil => cases same
    | cons y ys =>
      rw [List.cons_append, List.cons_append, List.cons_lt_cons_iff, List.cons_lt_cons_iff,
        ih (Nat.succ.inj same), List.cons.injEq, and_or_left, or_assoc, and_assoc]

/-! ### Digits -/

section

variable {c d : Char} {cs ds : List Char}

theorem ofDigitChars_cons (c : Char) (cs : List Char) :
    Nat.ofDigitChars 10 (c :: cs) 0 =
      (c.toNat - 48) * 10 ^ cs.length + Nat.ofDigitChars 10 cs 0 := by
  have zero : '0'.toNat = 48 := rfl
  rw [Nat.ofDigitChars_cons, Nat.ofDigitChars_eq_ofDigitChars_zero, zero, Nat.mul_zero,
    Nat.zero_add, Nat.mul_comm]

/-- So many digits denote a number below that power of ten. -/
theorem ofDigitChars_lt (h : ∀ c ∈ cs, c.isDigit = true) :
    Nat.ofDigitChars 10 cs 0 < 10 ^ cs.length := by
  induction cs with
  | nil => exact Nat.one_pos
  | cons c cs ih =>
    obtain ⟨hc, hcs⟩ := List.forall_mem_cons.1 h
    have bounds := digit_bounds hc
    have ten : c.toNat - 48 + 1 ≤ 10 := by omega
    calc Nat.ofDigitChars 10 (c :: cs) 0
        = (c.toNat - 48) * 10 ^ cs.length + Nat.ofDigitChars 10 cs 0 := ofDigitChars_cons c cs
      _ < (c.toNat - 48) * 10 ^ cs.length + 10 ^ cs.length := Nat.add_lt_add_left (ih hcs) _
      _ = (c.toNat - 48 + 1) * 10 ^ cs.length := (Nat.succ_mul _ _).symm
      _ ≤ 10 * 10 ^ cs.length := Nat.mul_le_mul_right _ ten
      _ = 10 ^ (c :: cs).length := by rw [List.length_cons, Nat.pow_succ']

theorem digit_lt_iff (hc : c.isDigit = true) (hd : d.isDigit = true) :
    c < d ↔ c.toNat - 48 < d.toNat - 48 := by
  have lowerc := digit_bounds hc
  have lowerd := digit_bounds hd
  rw [Char.lt_def, UInt32.lt_iff_toNat_lt, Char.toNat_val, Char.toNat_val]
  omega

theorem digit_eq_iff (hc : c.isDigit = true) (hd : d.isDigit = true) :
    c = d ↔ c.toNat - 48 = d.toNat - 48 := by
  have lowerc := digit_bounds hc
  have lowerd := digit_bounds hd
  rw [← Char.toNat_inj]
  omega

/-- Texts of as many digits are in the order of the numbers that they denote. -/
theorem digits_lt_iff (hc : ∀ c ∈ cs, c.isDigit = true) (hd : ∀ d ∈ ds, d.isDigit = true)
    (same : cs.length = ds.length) :
    cs < ds ↔ Nat.ofDigitChars 10 cs 0 < Nat.ofDigitChars 10 ds 0 := by
  induction cs generalizing ds with
  | nil =>
    obtain rfl := List.length_eq_zero_iff.1 same.symm
    exact iff_of_false (List.not_lt_nil _) (Nat.lt_irrefl _)
  | cons c cs ih =>
    cases ds with
    | nil => cases same
    | cons d ds =>
      obtain ⟨digitc, digitsc⟩ := List.forall_mem_cons.1 hc
      obtain ⟨digitd, digitsd⟩ := List.forall_mem_cons.1 hd
      have rest : cs.length = ds.length := Nat.succ.inj same
      have belowc := ofDigitChars_lt digitsc
      have belowd := ofDigitChars_lt digitsd
      rw [← rest] at belowd
      rw [List.cons_lt_cons_iff, ofDigitChars_cons, ofDigitChars_cons, ← rest,
        mul_add_lt_mul_add_iff belowc belowd, ih digitsc digitsd rest, digit_lt_iff digitc digitd,
        digit_eq_iff digitc digitd]

end

/-! ### Padded numbers -/

section

variable {width m n : ℕ}

theorem isDigit_of_mem_padded {c : Char} (h : c ∈ padded width n) : c.isDigit = true := by
  rcases List.mem_append.1 h with zero | digit
  · rw [List.eq_of_mem_replicate zero]
    rfl
  · exact isDigit_of_mem_digits digit

/-- A number that fits is as long as its width. -/
theorem length_padded (wide : 0 < width) (fits : n < 10 ^ width) :
    (padded width n).length = width := by
  have short : (Nat.toDigits 10 n).length ≤ width := length_digits_le wide fits
  rw [padded, List.length_append, List.length_replicate, Nat.sub_add_cancel short]

/-- Zeros in front do not change a number. -/
theorem ofDigitChars_padded (width n : ℕ) : Nat.ofDigitChars 10 (padded width n) 0 = n := by
  rw [padded, Nat.ofDigitChars_append, Nat.ofDigitChars_replicate_zero, Nat.mul_zero,
    Nat.ofDigitChars_ten_toDigits]

theorem padded_inj : padded width m = padded width n ↔ m = n := by
  refine ⟨fun same => ?_, congrArg (padded width)⟩
  rw [← ofDigitChars_padded width m, same, ofDigitChars_padded]

/-- Numbers of one width are in the order of their texts. -/
theorem padded_lt_padded_iff (wide : 0 < width) (hm : m < 10 ^ width) (hn : n < 10 ^ width) :
    padded width m < padded width n ↔ m < n := by
  have same : (padded width m).length = (padded width n).length :=
    (length_padded wide hm).trans (length_padded wide hn).symm
  rw [digits_lt_iff (fun _ => isDigit_of_mem_padded) (fun _ => isDigit_of_mem_padded) same,
    ofDigitChars_padded, ofDigitChars_padded]

end

end ExaWire
