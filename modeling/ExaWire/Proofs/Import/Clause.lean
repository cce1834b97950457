/-
ExaWire/Proofs/Import/Clause.lean

What the recognisers of an import recognise.

Every recogniser succeeds on exactly the texts that begin with a clause of its kind.  A
marker is a matter of words and gaps.  A file clause is held by its quotation marks: no
other part of it has any, so the first quotation mark ahead decides whether a clause
begins here, and only `FILE` and a gap may stand before it.
-/
import ExaWire.Import.Clause
import ExaWire.Proofs.Text.Cut
import Mathlib.Data.List.TakeWhile

namespace ExaWire.Import

open Text

/-! ### Letters, blanks and quotation marks -/

/-- Whether a character is a quotation mark. -/
def isQuote (c : Char) : Bool := c = '"' || c = '\''

theorem foldCase_of_isBlank {c : Char} (h : isBlank c = true) : foldCase c = c := by
  have upper : ¬ (c.val ≥ 'A'.val ∧ c.val ≤ 'Z'.val) := by
    rintro ⟨lower, upper⟩
    have lower : 65 ≤ c.toNat := UInt32.le_iff_toNat_le.1 lower
    have upper : c.toNat ≤ 90 := UInt32.le_iff_toNat_le.1 upper
    simp only [isBlank, Bool.or_eq_true, Bool.and_eq_true, decide_eq_true_eq] at h
    omega
  have other {d : Char} (hd : isBlank d = false) : c ≠ d := fun e => by simp [← e, h] at hd
  rw [foldCase, if_neg (other (by decide)), if_neg (other (by decide)),
    if_neg (not_or.2 ⟨other (by decide), other (by decide)⟩)]
  exact dif_neg upper

theorem not_isBlank_of_isLetter {c : Char} (h : isLetter c = true) : isBlank c = false := by
  by_contra blank
  rw [Bool.not_eq_false] at blank
  rw [isLetter, foldCase_of_isBlank blank] at h
  have letter : 65 ≤ c.toNat ∧ c.toNat ≤ 90 ∨ 97 ≤ c.toNat ∧ c.toNat ≤ 122 := by
    obtain upper | lower := Bool.or_eq_true_iff.1 h
    · have range : 'A'.val ≤ c.val ∧ c.val ≤ 'Z'.val := of_decide_eq_true upper
      exact .inl (range.imp UInt32.le_iff_toNat_le.1 UInt32.le_iff_toNat_le.1)
    · obtain ⟨least, most⟩ := Bool.and_eq_true_iff.1 lower
      have range : 'a'.val ≤ c.val ∧ c.val ≤ 'z'.val := ⟨of_decide_eq_true least, of_decide_eq_true most⟩
      exact .inr (range.imp UInt32.le_iff_toNat_le.1 UInt32.le_iff_toNat_le.1)
  simp only [isBlank, Bool.or_eq_true, Bool.and_eq_true, decide_eq_true_eq] at blank
  omega

theorem isQuote_iff {c : Char} : isQuote c = true ↔ c = '"' ∨ c = '\'' := by simp [isQuote]

/-- A quotation mark is not of a class that neither of them is of. -/
theorem not_isQuote_of_class {p : Char → Bool} (double : p '"' = false) (single : p '\'' = false)
    {c : Char} (h : p c = true) : isQuote c = false := by
  by_contra quote
  rw [Bool.not_eq_false, isQuote_iff] at quote
  obtain rfl | rfl := quote
  · simp [double] at h
  · simp [single] at h

theorem not_isQuote_of_isLetter {c : Char} : isLetter c = true → isQuote c = false :=
  not_isQuote_of_class (by decide) (by decide)

theorem not_isQuote_of_isBlank {c : Char} : isBlank c = true → isQuote c = false :=
  not_isQuote_of_class (by decide) (by decide)

theorem not_isQuote_of_isPathChar {c : Char} : isPathChar c = true → isQuote c = false :=
  not_isQuote_of_class (by decide) (by decide)

/-- Two texts that are alike are alike up to the first character of a class, and from it on. -/
theorem append_cons_inj {p : Char → Bool} {xs xs' ys ys' : List Char} {x y : Char}
    (hxs : ∀ c ∈ xs, p c = false) (hx : p x = true) (hys : ∀ c ∈ ys, p c = false) (hy : p y = true)
    (e : xs ++ x :: xs' = ys ++ y :: ys') : xs = ys ∧ x = y ∧ xs' = ys' := by
  have before {zs : List Char} {z : Char} (hzs : ∀ c ∈ zs, p c = false) (hz : p z = true)
      (rest : List Char) : (zs ++ z :: rest).takeWhile (!p ·) = zs := by
    rw [List.takeWhile_append_of_pos (by simpa using hzs),
      List.takeWhile_cons_of_neg (by simp [hz]), List.append_nil]
  obtain rfl : xs = ys := by rw [← before hxs hx xs', e, before hys hy]
  exact ⟨rfl, List.cons.inj (List.append_cancel_left e)⟩

/-! ### Words and gaps -/

/-- A run of blanks between two words. -/
def IsGap (gap : List Char) : Prop := gap ≠ [] ∧ ∀ c ∈ gap, isBlank c = true

variable {w cs rest : List Char}

/-- A word is recognised where it is spelled, regardless of case. -/
theorem word?_eq_some_iff : word? w cs = some rest ↔ ∃ u, u.map foldCase = w ∧ cs = u ++ rest := by
  fun_induction word? w cs with
  | case1 cs => simp
  | case2 l w =>
    simp only [reduceCtorEq, false_iff, not_exists, not_and]
    rintro u spelled e
    obtain rfl := (List.append_eq_nil_iff.1 e.symm).1
    cases spelled
  | case3 w c cs ih =>
    rw [ih]
    constructor
    · rintro ⟨u, rfl, rfl⟩
      exact ⟨c :: u, rfl, rfl⟩
    · rintro ⟨u, spelled, e⟩
      cases u with
      | nil => cases spelled
      | cons d u =>
        obtain ⟨rfl, rfl⟩ := List.cons.inj e
        exact ⟨u, (List.cons.inj spelled).2, rfl⟩
  | case4 l w c cs other =>
    simp only [reduceCtorEq, false_iff, not_exists, not_and]
    rintro u spelled e
    cases u with
    | nil => cases spelled
    | cons d u =>
      obtain ⟨rfl, -⟩ := List.cons.inj e
      exact other (List.cons.inj spelled).1

/-- The characters of a word are letters. -/
theorem isLetter_of_spelled {u : List Char} (spelled : u.map foldCase = w)
    (letters : w.all Char.isAlpha = true) : ∀ c ∈ u, isLetter c = true := by
  subst spelled
  exact fun c hc => List.all_eq_true.1 letters _ (List.mem_map_of_mem hc)

/-- Blanks are recognised to their end. -/
theorem blanks?_eq_some_iff : blanks? cs = some rest ↔
    (∃ gap, IsGap gap ∧ cs = gap ++ rest) ∧ ∀ c ∈ rest.head?, isBlank c = false := by
  cases cs with
  | nil =>
    simp only [blanks?, reduceCtorEq, false_iff]
    rintro ⟨⟨gap, ⟨some, -⟩, e⟩, -⟩
    exact some (List.append_eq_nil_iff.1 e.symm).1
  | cons c cs =>
    constructor
    · intro h
      rw [blanks?] at h
      split at h
      · next blank =>
        obtain rfl := Option.some.inj h
        refine ⟨⟨c :: cs.takeWhile isBlank, ⟨List.cons_ne_nil _ _, ?_⟩, ?_⟩, ?_⟩
        · exact List.forall_mem_cons.2 ⟨blank, fun d hd => List.mem_takeWhile_imp hd⟩
        · rw [List.cons_append, List.takeWhile_append_dropWhile]
        · have stops := List.head?_dropWhile_not isBlank cs
          intro d hd
          rw [Option.mem_def.1 hd] at stops
          simpa using stops
      · cases h
    · rintro ⟨⟨gap, ⟨some, blank⟩, e⟩, stops⟩
      cases gap with
      | nil => exact absurd rfl some
      | cons d gap =>
        obtain ⟨rfl, rfl⟩ := List.cons.inj e
        obtain ⟨hc, hgap⟩ := List.forall_mem_cons.1 blank
        rw [blanks?, if_pos hc, List.append_eq, List.dropWhile_append_of_pos hgap]
        cases rest with
        | nil => rfl
        | cons x rest => rw [List.dropWhile_cons_of_neg (by simp [stops x rfl])]

/-! ### The marker of local files -/

/-- A text that `LOCAL CSV` is written as. -/
def IsMarker (marker : List Char) : Prop :=
  ∃ u gap v, u.map foldCase = ['l', 'o', 'c', 'a', 'l'] ∧ IsGap gap ∧
    v.map foldCase = ['c', 's', 'v'] ∧ marker = u ++ gap ++ v

theorem localCsv?_eq_some_iff :
    localCsv? cs = some rest ↔ ∃ marker, IsMarker marker ∧ cs = marker ++ rest := by
  simp only [localCsv?, Option.bind_eq_bind, Option.bind_eq_some_iff, word?_eq_some_iff,
    blanks?_eq_some_iff]
  constructor
  · rintro ⟨_, ⟨_, ⟨u, hu, rfl⟩, ⟨gap, hgap, rfl⟩, -⟩, v, hv, rfl⟩
    exact ⟨u ++ gap ++ v, ⟨u, gap, v, hu, hgap, hv, rfl⟩, by simp⟩
  · rintro ⟨_, ⟨u, gap, v, hu, hgap, hv, rfl⟩, rfl⟩
    refine ⟨v ++ rest, ⟨_, ⟨u, hu, by simp only [List.append_assoc]⟩, ⟨gap, hgap, rfl⟩, ?_⟩, v, hv, rfl⟩
    have letters := isLetter_of_spelled hv (by decide)
    cases v with
    | nil => cases hv
    | cons c v =>
      rintro _ ⟨⟩
      exact not_isBlank_of_isLetter (letters c List.mem_cons_self)

theorem localCsv?_eq_none_iff :
    localCsv? cs = none ↔ ∀ marker rest, IsMarker marker → cs ≠ marker ++ rest := by
  simp only [Option.eq_none_iff_forall_ne_some, ne_eq, localCsv?_eq_some_iff, not_exists, not_and]
  exact forall_comm

namespace IsMarker

variable {marker : List Char}

theorem ne_nil (h : IsMarker marker) : marker ≠ [] := by
  obtain ⟨u, gap, v, -, ⟨some, -⟩, -, rfl⟩ := h
  simp [some]

theorem head? (h : IsMarker marker) : marker.head?.map foldCase = some 'l' := by
  obtain ⟨u, gap, v, spelled, -, -, rfl⟩ := h
  cases u with
  | nil => cases spelled
  | cons c u => exact congrArg some (List.cons.inj spelled).1

theorem not_isQuote (h : IsMarker marker) : ∀ c ∈ marker, isQuote c = false := by
  obtain ⟨u, gap, v, hu, hgap, hv, rfl⟩ := h
  simp only [List.forall_mem_append]
  exact ⟨⟨fun c hc => not_isQuote_of_isLetter (isLetter_of_spelled hu (by decide) c hc),
    fun c hc => not_isQuote_of_isBlank (hgap.2 c hc)⟩,
    fun c hc => not_isQuote_of_isLetter (isLetter_of_spelled hv (by decide) c hc)⟩

end IsMarker

/-- No marker begins with another letter. -/
theorem localCsv?_of_head {c : Char} (other : foldCase c ≠ 'l') (cs : List Char) :
    localCsv? (c :: cs) = none := by
  refine localCsv?_eq_none_iff.2 fun marker rest isMarker e => ?_
  have head := isMarker.head?
  cases marker with
  | nil => cases head
  | cons d marker =>
    obtain ⟨rfl, -⟩ := List.cons.inj e
    exact other (Option.some.inj head)

/-- No marker begins in a word with another word behind it. -/
theorem localCsv?_of_word {c : Char} (solid : ∀ d ∈ w, isBlank d = false) (hc : isBlank c = false)
    (other : foldCase c ≠ 'c') (cs : List Char) : localCsv? (w ++ ' ' :: c :: cs) = none := by
  refine localCsv?_eq_none_iff.2 ?_
  rintro _ rest ⟨u, gap, v, hu, ⟨some, blank⟩, hv, rfl⟩ e
  cases gap with
  | nil => exact some rfl
  | cons g gap =>
    obtain ⟨hg, hgap⟩ := List.forall_mem_cons.1 blank
    have word : ∀ d ∈ u, isBlank d = false :=
      fun d hd => not_isBlank_of_isLetter (isLetter_of_spelled hu (by decide) d hd)
    simp only [List.append_assoc, List.cons_append] at e
    obtain ⟨-, -, behind⟩ := append_cons_inj solid (by decide) word hg e
    -- the gap is one space, and then the other word begins
    cases gap with
    | cons g' gap =>
      obtain ⟨rfl, -⟩ := List.cons.inj behind
      simp [hgap] at hc
    | nil =>
      cases v with
      | nil => cases hv
      | cons d v =>
        obtain ⟨rfl, -⟩ := List.cons.inj behind
        exact other (List.cons.inj hv).1

/-- No marker goes on behind a quotation mark. -/
theorem localCsv?_of_quote {q : Char} (quote : isQuote q = true) (h : localCsv? cs = none)
    (rest : List Char) : localCsv? (cs ++ q :: rest) = none := by
  refine localCsv?_eq_none_iff.2 fun marker more isMarker e => ?_
  obtain ⟨behind, rfl, inner⟩ | ⟨behind, rfl, -⟩ := List.append_eq_append_iff.1 e
  · cases behind with
    | nil => exact localCsv?_eq_none_iff.1 h cs [] (by simpa using isMarker) (by simp)
    | cons d behind =>
      obtain ⟨rfl, -⟩ := List.cons.inj inner
      simp [isMarker.not_isQuote q (by simp)] at quote
  · exact localCsv?_eq_none_iff.1 h marker behind isMarker rfl

/-! ### File clauses -/

/-- What stands before the path of a file clause: `FILE` and a gap. -/
def IsKeyword (keyword : List Char) : Prop :=
  ∃ u gap, u.map foldCase = ['f', 'i', 'l', 'e'] ∧ IsGap gap ∧ keyword = u ++ gap

/-- What may stand between the quotation marks of a file clause. -/
def IsPath (path : List Char) : Prop := path ≠ [] ∧ ∀ c ∈ path, isPathChar c = true

instance (path : List Char) : Decidable (IsPath path) :=
  decidable_of_iff (path ≠ [] ∧ path.all isPathChar = true) (by rw [IsPath, List.all_eq_true])

variable {path : List Char}

theorem IsKeyword.not_isQuote {keyword : List Char} (h : IsKeyword keyword) :
    ∀ c ∈ keyword, isQuote c = false := by
  obtain ⟨u, gap, hu, hgap, rfl⟩ := h
  exact List.forall_mem_append.2
    ⟨fun c hc => not_isQuote_of_isLetter (isLetter_of_spelled hu (by decide) c hc),
      fun c hc => not_isQuote_of_isBlank (hgap.2 c hc)⟩

theorem isKeyword_iff {keyword : List Char} :
    word? ['f', 'i', 'l', 'e'] keyword >>= blanks? = some [] ↔ IsKeyword keyword := by
  simp only [Option.bind_eq_bind, Option.bind_eq_some_iff, word?_eq_some_iff, blanks?_eq_some_iff]
  constructor
  · rintro ⟨_, ⟨u, hu, rfl⟩, ⟨gap, hgap, rfl⟩, -⟩
    exact ⟨u, gap, hu, hgap, by rw [List.append_nil]⟩
  · rintro ⟨u, gap, hu, hgap, rfl⟩
    exact ⟨gap, ⟨u, hu, rfl⟩, ⟨gap, hgap, (List.append_nil _).symm⟩, by simp⟩

instance (keyword : List Char) : Decidable (IsKeyword keyword) := decidable_of_iff _ isKeyword_iff

theorem isKeyword_file : IsKeyword ['F', 'I', 'L', 'E', ' '] := by decide

/-- A key word does not end in another one. -/
theorem IsKeyword.of_append {before keyword : List Char} (h : IsKeyword (before ++ keyword))
    (hk : IsKeyword keyword) : before = [] := by
  obtain ⟨u, gap, hu, ⟨-, blank⟩, e⟩ := h
  obtain ⟨u', gap', hu', ⟨-, blank'⟩, rfl⟩ := hk
  have solid {u : List Char} (hu : u.map foldCase = ['f', 'i', 'l', 'e']) :
      ∀ c ∈ u, isBlank c = false :=
    fun c hc => not_isBlank_of_isLetter (isLetter_of_spelled hu (by decide) c hc)
  -- four characters are no blanks, and these are the word's
  have letters : before.filter (!isBlank ·) ++ u' = u := by
    have none {cs : List Char} (h : ∀ c ∈ cs, isBlank c = true) : cs.filter (!isBlank ·) = [] := by
      simpa using h
    have all {cs : List Char} (h : ∀ c ∈ cs, isBlank c = false) : cs.filter (!isBlank ·) = cs := by
      simpa using h
    simpa only [List.filter_append, none blank, none blank', all (solid hu), all (solid hu'),
      List.append_nil] using congrArg (List.filter (!isBlank ·)) e
  have size : (before.filter (!isBlank ·)).length = 0 := by
    have length := congrArg List.length (hu.trans hu'.symm)
    rw [← letters] at length
    simpa using length
  cases before with
  | nil => rfl
  | cons c before =>
    have blank : isBlank c = true := by
      simpa using List.filter_eq_nil_iff.1 (List.eq_nil_of_length_eq_zero size) c List.mem_cons_self
    cases u with
    | nil => cases hu
    | cons d u =>
      obtain ⟨rfl, -⟩ := List.cons.inj e
      simp [solid hu c List.mem_cons_self] at blank

theorem quote?_eq_some_iff : quote? cs = some rest ↔ ∃ q, isQuote q = true ∧ cs = q :: rest := by
  cases cs with
  | nil => simp [quote?]
  | cons c cs =>
    simp only [quote?, isQuote_iff, Option.ite_none_right_eq_some, Option.some.injEq,
      List.cons.injEq]
    constructor
    · rintro ⟨quote, rfl⟩
      exact ⟨c, quote, rfl, rfl⟩
    · rintro ⟨_, quote, rfl, rfl⟩
      exact ⟨quote, rfl⟩

/-- A quoted run is closed by the first quotation mark behind it. -/
theorem quotedRun?_eq_some_iff {allowed : Char → Bool} {run : List Char}
    (inside : ∀ {c : Char}, allowed c = true → isQuote c = false) :
    quotedRun? allowed cs = some (run, rest) ↔ (run ≠ [] ∧ ∀ c ∈ run, allowed c = true) ∧
      ∃ q q', isQuote q = true ∧ isQuote q' = true ∧ cs = q :: (run ++ q' :: rest) := by
  simp only [quotedRun?, Option.bind_eq_bind, Option.bind_eq_some_iff, quote?_eq_some_iff]
  constructor
  · rintro ⟨body, ⟨q, hq, rfl⟩, h⟩
    split at h
    · cases h
    · next some =>
      obtain ⟨behind, closed, e⟩ := Option.bind_eq_some_iff.1 h
      obtain ⟨rfl, rfl⟩ := Prod.mk.inj (Option.some.inj e)
      obtain ⟨q', hq', e⟩ := quote?_eq_some_iff.1 closed
      refine ⟨⟨by simpa using some, fun c hc => List.mem_takeWhile_imp hc⟩, q, q', hq, hq', ?_⟩
      rw [← e, List.takeWhile_append_dropWhile]
  · rintro ⟨⟨some, all⟩, q, q', hq, hq', rfl⟩
    have stops : ¬ allowed q' = true := fun h => by simp [inside h] at hq'
    refine ⟨run ++ q' :: rest, ⟨q, hq, rfl⟩, ?_⟩
    rw [List.takeWhile_append_of_pos all, List.takeWhile_cons_of_neg stops, List.append_nil,
      List.dropWhile_append_of_pos all, List.dropWhile_cons_of_neg stops,
      if_neg (by simpa using some), quote?_eq_some_iff.2 ⟨q', hq', rfl⟩]
    rfl

/-- A file clause is a key word and a path between quotation marks, and takes one space. -/
theorem file?_eq_some_iff : file? cs = some (path, rest) ↔
    ∃ keyword q q' more, IsKeyword keyword ∧ isQuote q = true ∧ IsPath path ∧ isQuote q' = true ∧
      cs = keyword ++ q :: (path ++ q' :: more) ∧ rest = skipSpace more := by
  simp only [file?, Option.bind_eq_bind, Option.bind_eq_some_iff, word?_eq_some_iff,
    blanks?_eq_some_iff]
  constructor
  · rintro ⟨body, ⟨_, ⟨u, hu, rfl⟩, ⟨gap, hgap, rfl⟩, -⟩, ⟨path', more⟩, run, ⟨⟩⟩
    obtain ⟨isPath, q, q', hq, hq', rfl⟩ := (quotedRun?_eq_some_iff not_isQuote_of_isPathChar).1 run
    exact ⟨u ++ gap, q, q', more, ⟨u, gap, hu, hgap, rfl⟩, hq, isPath, hq', by simp, rfl⟩
  · rintro ⟨_, q, q', more, ⟨u, gap, hu, hgap, rfl⟩, hq, isPath, hq', rfl, rfl⟩
    have stops : isBlank q = false := by
      by_contra blank
      rw [Bool.not_eq_false] at blank
      simp [not_isQuote_of_isBlank blank] at hq
    refine ⟨q :: (path ++ q' :: more),
      ⟨_, ⟨u, hu, by rw [List.append_assoc]⟩, ⟨gap, hgap, rfl⟩, ?_⟩, (path, more), ?_, rfl⟩
    · rintro _ ⟨⟩
      exact stops
    · exact (quotedRun?_eq_some_iff not_isQuote_of_isPathChar).2 ⟨isPath, q, q', hq, hq', rfl⟩

/-- No file clause begins with another letter. -/
theorem file?_of_head {c : Char} (other : foldCase c ≠ 'f') (cs : List Char) :
    file? (c :: cs) = none := by
  have word : word? ['f', 'i', 'l', 'e'] (c :: cs) = none := if_neg other
  rw [file?, word]
  rfl

/-- Whether a file clause begins here is decided by what stands before the first quotation
mark, and by what stands between it and the second one. -/
theorem file?_quote_iff {before : List Char} (unquoted : ∀ c ∈ before, isQuote c = false) {q : Char}
    (hq : isQuote q = true) :
    file? (before ++ q :: cs) = some (path, rest) ↔ IsKeyword before ∧ IsPath path ∧
      ∃ q' more, isQuote q' = true ∧ cs = path ++ q' :: more ∧ rest = skipSpace more := by
  rw [file?_eq_some_iff]
  constructor
  · rintro ⟨keyword, q₁, q', more, isKeyword, hq₁, isPath, hq', e, rest⟩
    obtain ⟨rfl, rfl, rfl⟩ := append_cons_inj unquoted hq isKeyword.not_isQuote hq₁ e
    exact ⟨isKeyword, isPath, q', more, hq', rfl, rest⟩
  · rintro ⟨isKeyword, isPath, q', more, hq', rfl, rest⟩
    exact ⟨before, q, q', more, isKeyword, hq, isPath, hq', rfl, rest⟩

/-- No file clause begins where something else stands before the first quotation mark. -/
theorem file?_of_not_isKeyword {before : List Char} (unquoted : ∀ c ∈ before, isQuote c = false)
    (other : ¬ IsKeyword before) {q : Char} (hq : isQuote q = true) (cs : List Char) :
    file? (before ++ q :: cs) = none := by
  simp only [Option.eq_none_iff_forall_ne_some, ne_eq]
  rintro ⟨path, rest⟩ h
  exact other ((file?_quote_iff unquoted hq).1 h).1

/-- No file clause begins where no path stands between the first quotation marks. -/
theorem file?_of_not_isPath {before name : List Char} (unquoted : ∀ c ∈ before, isQuote c = false)
    (closed : ∀ c ∈ name, isQuote c = false) (other : ¬ IsPath name) {q q' : Char}
    (hq : isQuote q = true) (hq' : isQuote q' = true) (cs : List Char) :
    file? (before ++ q :: (name ++ q' :: cs)) = none := by
  simp only [Option.eq_none_iff_forall_ne_some, ne_eq]
  rintro ⟨path, rest⟩ h
  obtain ⟨-, isPath, q₁, more, hq₁, e, -⟩ := (file?_quote_iff unquoted hq).1 h
  obtain ⟨rfl, -, -⟩ := append_cons_inj closed hq'
    (fun c hc => not_isQuote_of_isPathChar (isPath.2 c hc)) hq₁ e
  exact other isPath

end ExaWire.Import
