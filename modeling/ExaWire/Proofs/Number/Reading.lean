/-
ExaWire/Proofs/Number/Reading.lean

Integers read back from their own texts.

The text of an integer is a run of ASCII digits, behind a minus if the integer is
negative.  No blank surrounds it and no underscore divides it, so reading takes every
character of it, and the value of the digits is the integer again.  The one condition is
the cap on digits, which is the same on both sides: an integer that can be written has no
more digits than can be read.
-/
import ExaWire.Number.Reading

namespace ExaWire

open Text

/-! ### Digits -/

theorem digit_bounds {c : Char} (h : c.isDigit = true) : 48 ≤ c.toNat ∧ c.toNat ≤ 57 :=
  Char.isDigit_iff_toNat.1 h

theorem digitValue?_of_isDigit {c : Char} (h : c.isDigit = true) :
    digitValue? c = some (c.toNat - 48) := by
  have small : c.toNat < 128 := Nat.lt_of_le_of_lt (digit_bounds h).2 (by decide)
  unfold digitValue?
  rw [if_pos small, if_pos h]

theorem not_isMargin_of_isDigit {c : Char} (h : c.isDigit = true) : isMargin c = false := by
  obtain ⟨lower, upper⟩ := digit_bounds h
  have notBlank : isBlank c = false := by
    simp only [isBlank, Bool.or_eq_false_iff, Bool.and_eq_false_iff, decide_eq_false_iff_not]
    omega
  rw [isMargin, notBlank, Bool.false_and]

/-- A run of digits is read to its end. -/
theorem digitRun_digits {cs : List Char} (h : ∀ c ∈ cs, c.isDigit = true) (inside : Bool) :
    digitRun digitValue? inside cs = (cs.map fun c => c.toNat - 48, []) := by
  induction cs generalizing inside with
  | nil => rfl
  | cons c cs ih =>
    obtain ⟨hc, hcs⟩ := List.forall_mem_cons.1 h
    simp only [digitRun, digitValue?_of_isDigit hc, ih hcs, List.map_cons]

theorem ofDigits_digits (cs : List Char) :
    ofDigits 10 (cs.map fun c => c.toNat - 48) = Nat.ofDigitChars 10 cs 0 := by
  simp only [ofDigits, List.foldl_map, Nat.ofDigitChars_eq_foldl, Nat.mul_comm]
  rfl

/-- A text without characters of a class loses nothing by trimming. -/
theorem Text.trim_eq_self {p : Char → Bool} {cs : List Char} (h : ∀ c ∈ cs, p c = false) :
    trim p cs = cs := by
  have keeps {ds : List Char} (hd : ∀ c ∈ ds, p c = false) : ds.dropWhile p = ds := by
    cases ds with
    | nil => rfl
    | cons d ds => exact List.dropWhile_cons_of_neg (by simp [hd d])
  have backwards : ∀ c ∈ cs.reverse, p c = false := fun c hc => h c (List.mem_reverse.1 hc)
  rw [trim, keeps h, keeps backwards, List.reverse_reverse]

theorem length_digits_le {n k : Nat} (hk : 0 < k) (h : n < Nat.pow 10 k) :
    (Nat.toDigits 10 n).length ≤ k := (Nat.length_toDigits_le_iff (by decide) hk).2 h

/-- No digits but those of zero begin with a zero. -/
theorem eq_zero_of_head_digits {n : Nat} (h : (Nat.toDigits 10 n).head? = some '0') : n = 0 := by
  induction n using Nat.strongRecOn with
  | ind n ih =>
    by_cases small : n < 10
    · rw [Nat.toDigits_of_lt_base small, List.head?_cons, Option.some.injEq] at h
      have value := Nat.toNat_digitChar_of_lt_ten small
      rw [h] at value
      have : '0'.toNat = 48 := rfl
      omega
    · have large : 10 ≤ n := Nat.le_of_not_lt small
      obtain ⟨d, ds, some⟩ := List.exists_cons_of_ne_nil (Nat.toDigits_ne_nil (b := 10) (n := n / 10))
      rw [Nat.toDigits_of_base_le (by decide) large, some] at h
      have none := ih (n / 10) (by omega) (by rw [some]; exact h)
      omega

/-- Where there are more digits than one, the first is no zero. -/
theorem head_digits_ne_zero {n : Nat} (h : 1 < (Nat.toDigits 10 n).length) :
    (Nat.toDigits 10 n).head? ≠ some '0' := by
  intro zero
  rw [eq_zero_of_head_digits zero] at h
  exact absurd h (by decide)

/-! ### Integers -/

/-- The text of an integer: its digits, behind a minus if it is negative. -/
theorem toList_toString (n : Int) :
    (toString n).toList = (if n < 0 then ['-'] else []) ++ Nat.toDigits 10 n.natAbs := by
  cases n with
  | ofNat m =>
    have e : (toString (Int.ofNat m)).toList = Nat.toDigits 10 m := Nat.toList_repr
    have positive : ¬ Int.ofNat m < 0 := Int.not_lt.2 (Int.natCast_nonneg m)
    rw [e, if_neg positive]
    rfl
  | negSucc m =>
    have e : toString (Int.negSucc m) = "-" ++ (m + 1).repr := rfl
    rw [e, String.toList_append, Nat.toList_repr, if_pos (Int.negSucc_lt_zero m)]
    rfl

theorem isDigit_of_mem_digits {n : Nat} {c : Char} (h : c ∈ Nat.toDigits 10 n) : c.isDigit = true :=
  Nat.isDigit_of_mem_toDigits (by decide) (by decide) h

/-- A character in the text of an integer is a digit or a minus. -/
theorem isDigit_or_minus {n : Int} {c : Char} (h : c ∈ (toString n).toList) :
    c.isDigit = true ∨ c = '-' := by
  rw [toList_toString, List.mem_append] at h
  rcases h with sign | digit
  · split at sign
    · exact .inr (List.mem_singleton.1 sign)
    · cases sign
  · exact .inl (isDigit_of_mem_digits digit)

theorem notMem_toString {n : Int} {c : Char} (digit : c.isDigit = false) (minus : c ≠ '-') :
    c ∉ (toString n).toList := fun h =>
  (isDigit_or_minus h).elim (fun e => by simp [digit] at e) minus

/-- Behind the sign of an integer's text stand its digits and nothing else. -/
theorem takeSign_toString (n : Int) :
    takeSign (toString n).toList = (decide (n < 0), Nat.toDigits 10 n.natAbs) := by
  rw [toList_toString]
  by_cases negative : n < 0
  · rw [if_pos negative, decide_eq_true negative]
    rfl
  · rw [if_neg negative, decide_eq_false negative, List.nil_append]
    cases hd : Nat.toDigits 10 n.natAbs with
    | nil => exact absurd hd Nat.toDigits_ne_nil
    | cons d ds =>
      have digit : d.isDigit = true := isDigit_of_mem_digits (by rw [hd]; exact List.mem_cons_self)
      -- a digit is no sign, so none of the first two cases applies
      unfold takeSign
      split
      · next e => cases e; cases digit
      · next e => cases e; cases digit
      · rfl

/-- An integer that can be written is read back from its text. -/
theorem readInt?_toString {n : Int} (h : isWritable n = true) : readInt? (toString n) = some n := by
  let ds := Nat.toDigits 10 n.natAbs
  have digits : ∀ c ∈ ds, c.isDigit = true := fun c hc => isDigit_of_mem_digits hc
  have untrimmed : trim isMargin (toString n).toList = (toString n).toList := by
    refine trim_eq_self fun c hc => ?_
    rcases isDigit_or_minus hc with digit | rfl
    · exact not_isMargin_of_isDigit digit
    · decide
  have short : (ds.map fun c => c.toNat - 48).length ≤ digitCap := by
    rw [List.length_map]
    rw [isWritable, decide_eq_true_eq] at h
    exact length_digits_le (by decide) h
  have value : naturalOf? (ds.map fun c => c.toNat - 48) = some n.natAbs := by
    rw [naturalOf?, if_neg (Nat.not_lt.2 short), ofDigits_digits, Nat.ofDigitChars_ten_toDigits]
  have run : digitRun digitValue? false ds = (ds.map fun c => c.toNat - 48, []) := digitRun_digits digits _
  have signed : (if decide (n < 0) then -(n.natAbs : Int) else n.natAbs) = n := by
    split
    · next negative =>
      have below : n < 0 := of_decide_eq_true negative
      omega
    · next other =>
      have above : ¬ n < 0 := fun h => other (decide_eq_true h)
      omega
  unfold readInt?
  rw [untrimmed, takeSign_toString]
  dsimp only
  rw [run]
  cases hd : ds.map fun c => c.toNat - 48 with
  | nil => exact absurd (List.map_eq_nil_iff.1 hd) Nat.toDigits_ne_nil
  | cons d rest =>
    rw [hd] at value
    show Option.map _ (naturalOf? (d :: rest) >>= fun m => pure (m : Int)) = _
    rw [value]
    exact congrArg some signed

end ExaWire
