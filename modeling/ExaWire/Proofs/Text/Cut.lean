/-
ExaWire/Proofs/Text/Cut.lean

Cutting undoes joining, and replacing undoes replacing.

A list is cut at a marker where it was joined, provided that the marker does not stand in
the part before.  Replacement works pair by pair from left to right; it passes through a
seam of two lists unless a pair stands across it, so what is done to a whole is done to its
parts.
-/
import ExaWire.Text.Cut

namespace ExaWire.Text

/-- What holds of every character of a text is decided by looking at these, not at all
characters that there are. -/
theorem forall_mem_of_all {p : Char → Prop} [DecidablePred p] {cs : List Char}
    (h : (cs.all fun c => decide (p c)) = true) : ∀ c ∈ cs, p c := by
  simpa using h

variable {α : Type} [DecidableEq α]

/-! ### Cutting -/

@[simp] theorem after?_append (lead xs : List α) : after? lead (lead ++ xs) = some xs := by
  induction lead with
  | nil => rfl
  | cons p ps ih => simp [after?, ih]

theorem after?_eq_some_iff {lead xs rest : List α} : after? lead xs = some rest ↔ xs = lead ++ rest := by
  fun_induction after? lead xs with
  | case1 xs => simp
  | case2 p ps => simp
  | case3 ps x xs ih => simpa using ih
  | case4 p ps x xs other => simp [Ne.symm other]

/-- The parts of a cut and the marker make the list. -/
theorem eq_of_cut? {marker xs before rest : List α} (h : cut? marker xs = some (before, rest)) :
    xs = before ++ marker ++ rest := by
  induction xs generalizing before with
  | nil =>
    rw [cut?] at h
    split at h
    · next none =>
      obtain ⟨rfl, rfl⟩ := Prod.mk.inj (Option.some.inj h)
      rw [List.isEmpty_iff.1 none]
      rfl
    · cases h
  | cons x xs ih =>
    rw [cut?] at h
    split at h
    · next behind e =>
      obtain ⟨rfl, rfl⟩ := Prod.mk.inj (Option.some.inj h)
      exact after?_eq_some_iff.1 e
    · obtain ⟨⟨before, rest⟩, cut, e⟩ := Option.map_eq_some_iff.1 h
      obtain ⟨rfl, rfl⟩ := Prod.mk.inj e
      rw [ih cut]
      rfl

theorem replaceFirst_self {old : List α} (some : old ≠ []) (new rest : List α) :
    replaceFirst old new (old ++ rest) = new ++ rest := by
  cases old with
  | nil => exact absurd rfl some
  | cons x old =>
    have here : cut? (x :: old) (x :: old ++ rest) = .some ([], rest) := by
      rw [List.cons_append, cut?, ← List.cons_append, after?_append]
    rw [replaceFirst, here]
    rfl

/-- A list is cut at the first place of an element. -/
theorem cut?_append {x : α} {before : List α} (h : x ∉ before) (rest : List α) :
    cut? [x] (before ++ x :: rest) = some (before, rest) := by
  induction before with
  | nil => simp [cut?, after?]
  | cons b before ih =>
    obtain ⟨hb, hbefore⟩ := not_or.1 (mt List.mem_cons.2 h)
    simp [cut?, after?, hb, ih hbefore]

/-- A list without the element is not cut. -/
theorem cut?_eq_none_iff {x : α} {xs : List α} : cut? [x] xs = none ↔ x ∉ xs := by
  induction xs with
  | nil => simp [cut?]
  | cons y xs ih =>
    by_cases h : x = y
    · simp [cut?, after?, h]
    · simp [cut?, after?, h, ih]

theorem splitOn_of_notMem {sep : α} {part : List α} (h : sep ∉ part) : splitOn sep part = [part] := by
  induction part with
  | nil => rfl
  | cons x part ih =>
    obtain ⟨hx, hpart⟩ := not_or.1 (mt List.mem_cons.2 h)
    simp [splitOn, Ne.symm hx, ih hpart]

theorem splitOn_append {sep : α} {part : List α} (h : sep ∉ part) (rest : List α) :
    splitOn sep (part ++ sep :: rest) = part :: splitOn sep rest := by
  induction part with
  | nil => simp [splitOn]
  | cons x part ih =>
    obtain ⟨hx, hpart⟩ := not_or.1 (mt List.mem_cons.2 h)
    simp [splitOn, Ne.symm hx, ih hpart]

omit [DecidableEq α] in
theorem joinWith_cons (sep part : List α) {parts : List (List α)} (h : parts ≠ []) :
    joinWith sep (part :: parts) = part ++ sep ++ joinWith sep parts := by
  cases parts with
  | nil => exact absurd rfl h
  | cons => rfl

theorem splitOn_ne_nil (sep : α) (xs : List α) : splitOn sep xs ≠ [] := by
  fun_cases splitOn sep xs <;> exact List.cons_ne_nil _ _

/-- A list is the join of its parts. -/
theorem joinWith_splitOn (sep : α) (xs : List α) : joinWith [sep] (splitOn sep xs) = xs := by
  induction xs with
  | nil => rfl
  | cons x xs ih =>
    rw [splitOn]
    split
    · next here => rw [joinWith_cons _ _ (splitOn_ne_nil sep xs), ih, here, List.nil_append,
        List.singleton_append]
    · cases parts : splitOn sep xs with
      | nil => exact absurd parts (splitOn_ne_nil sep xs)
      | cons part more =>
        rw [parts] at ih
        cases more with
        | nil => exact congrArg (x :: ·) ih
        | cons next more => exact congrArg (x :: ·) ih

/-- No part has a separator in it. -/
theorem notMem_of_mem_splitOn {sep : α} {xs : List α} : ∀ part ∈ splitOn sep xs, sep ∉ part := by
  induction xs with
  | nil => simp [splitOn]
  | cons x xs ih =>
    rw [splitOn]
    split
    · exact List.forall_mem_cons.2 ⟨List.not_mem_nil, ih⟩
    · next other =>
      cases parts : splitOn sep xs with
      | nil => exact absurd parts (splitOn_ne_nil sep xs)
      | cons part more =>
        rw [parts] at ih
        obtain ⟨hpart, hmore⟩ := List.forall_mem_cons.1 ih
        exact List.forall_mem_cons.2 ⟨List.not_mem_cons_of_ne_of_not_mem (Ne.symm other) hpart, hmore⟩

/-- There is one part more than separators. -/
theorem length_splitOn (sep : α) (xs : List α) : (splitOn sep xs).length = xs.count sep + 1 := by
  induction xs with
  | nil => rfl
  | cons x xs ih =>
    rw [splitOn, List.count_cons]
    split
    · next here => simp [here, ih]
    · next other =>
      cases parts : splitOn sep xs with
      | nil => exact absurd parts (splitOn_ne_nil sep xs)
      | cons part more =>
        rw [parts] at ih
        simpa [other] using ih

/-! ### Replacing -/

section Replacing

variable {a b : α} {new : List α}

/-- An element that begins no pair stays. -/
theorem replacePair_cons {x : α} {xs : List α} (h : x ≠ a ∨ xs.head? ≠ some b) :
    replacePair a b new (x :: xs) = x :: replacePair a b new xs := by
  cases xs with
  | nil => rfl
  | cons y xs =>
    have apart : ¬ (x = a ∧ y = b) := by
      rintro ⟨rfl, rfl⟩
      simp at h
    rw [replacePair, if_neg apart]

/-- Replacement passes through a seam, unless a pair may begin in front of it. -/
theorem replacePair_append {xs : List α} (h : xs.getLast? ≠ some a) (ys : List α) :
    replacePair a b new (xs ++ ys) = replacePair a b new xs ++ replacePair a b new ys := by
  fun_induction replacePair a b new xs with
  | case1 => rfl
  | case2 x =>
    have apart : x ≠ a := by simpa using h
    exact replacePair_cons (.inl apart)
  | case3 x y rest pair ih =>
    have tail : rest.getLast? ≠ some a := by
      cases rest with
      | nil => simp
      | cons z zs => simpa [List.getLast?_cons_cons] using h
    rw [List.append_assoc, ← ih tail]
    exact if_pos pair
  | case4 x y rest apart ih =>
    have tail : (y :: rest).getLast? ≠ some a := by simpa [List.getLast?_cons_cons] using h
    rw [@List.cons_append _ x (replacePair a b new _), ← ih tail]
    exact if_neg apart

/-- Replacement brings nothing in but what it puts there. -/
theorem notMem_replacePair {x : α} {xs : List α} (hnew : x ∉ new) (hxs : x ∉ xs) :
    x ∉ replacePair a b new xs := by
  fun_induction replacePair a b new xs with
  | case1 => exact hxs
  | case2 y => exact hxs
  | case3 y z rest pair ih =>
    simp only [List.mem_cons, not_or] at hxs
    exact List.not_mem_append hnew (ih hxs.2.2)
  | case4 y z rest apart ih =>
    obtain ⟨hy, hrest⟩ := not_or.1 (mt List.mem_cons.2 hxs)
    exact List.not_mem_cons_of_ne_of_not_mem hy (ih hrest)

@[simp] theorem replaceOne_nil : replaceOne a new [] = [] := rfl

theorem replaceOne_cons_self (xs : List α) :
    replaceOne a new (a :: xs) = new ++ replaceOne a new xs := by
  simp [replaceOne]

theorem replaceOne_cons_of_ne {x : α} (h : x ≠ a) (xs : List α) :
    replaceOne a new (x :: xs) = x :: replaceOne a new xs := by
  simp [replaceOne, h]

@[simp] theorem replaceOne_self (xs : List α) : replaceOne a [a] xs = xs := by
  induction xs with
  | nil => rfl
  | cons x xs ih =>
    by_cases h : x = a
    · rw [h, replaceOne_cons_self, ih, List.singleton_append]
    · rw [replaceOne_cons_of_ne h, ih]

theorem replaceOne_of_notMem {xs : List α} (h : a ∉ xs) : replaceOne a new xs = xs := by
  induction xs with
  | nil => rfl
  | cons x xs ih =>
    obtain ⟨hx, hxs⟩ := not_or.1 (mt List.mem_cons.2 h)
    rw [replaceOne_cons_of_ne (Ne.symm hx), ih hxs]

theorem replaceOne_append (xs ys : List α) :
    replaceOne a new (xs ++ ys) = replaceOne a new xs ++ replaceOne a new ys :=
  List.flatMap_append

theorem notMem_replaceOne {x : α} {xs : List α} (hnew : x ∉ new) (hxs : x = a ∨ x ∉ xs) :
    x ∉ replaceOne a new xs := by
  intro h
  obtain ⟨y, hy, hx⟩ := List.mem_flatMap.1 h
  split at hx
  · exact hnew hx
  · next hne =>
    obtain rfl := List.mem_singleton.1 hx
    exact hxs.elim hne fun absent => absent hy

/-- Where every `b` is put behind an `a`, the pairs are exactly the places where a `b` stood. -/
theorem replacePair_replaceOne (h : a ≠ b) (xs : List α) :
    replacePair a b new (replaceOne b [a, b] xs) = replaceOne b new xs := by
  induction xs with
  | nil => rfl
  | cons x xs ih =>
    by_cases e : x = b
    · rw [e, replaceOne_cons_self, replaceOne_cons_self, ← ih]
      show (if a = a ∧ b = b then _ else _) = _
      rw [if_pos ⟨rfl, rfl⟩]
      rfl
    · -- whatever follows does not begin with a bare `b`
      have guarded : (replaceOne b [a, b] xs).head? ≠ some b := by
        cases xs with
        | nil => simp
        | cons y ys =>
          by_cases hy : y = b
          · rw [hy, replaceOne_cons_self]
            simpa using h
          · rw [replaceOne_cons_of_ne hy]
            simpa using hy
      rw [replaceOne_cons_of_ne e, replaceOne_cons_of_ne e, replacePair_cons (.inr guarded), ih]

end Replacing

end ExaWire.Text
