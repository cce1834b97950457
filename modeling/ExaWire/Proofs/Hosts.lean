/-
ExaWire/Proofs/Hosts.lean

Host specifications expand exactly.

`IsRange` says when a token is a range, and into which prefix and which numbers it falls; a
token falls apart in one way only, since the digits in front of the dots are as many as
leave a prefix.  `range?` finds it by looking at the digits at the end of a text
(`trailingDigits_eq_iff`), once for the last number and once for the first one.

A token that is no range stands for itself, and a range for its hosts in ascending order
(`Stands`).  A range may be refused because it runs downwards, or because one of its numbers
has too many digits to be read (`Refuses`).  Tokens are expanded from left to right, so a
specification is refused for the first token that is.
-/
import ExaWire.Hosts
import ExaWire.Proofs.Failing
import ExaWire.Proofs.Text.Cut
import Mathlib.Data.List.TakeDrop
import Mathlib.Data.List.TakeWhile

namespace ExaWire.Hosts

open Text

/-! ### Digits at the end -/

/-- All characters are decimal digits. -/
def Digits (cs : List Char) : Prop := ∀ c ∈ cs, isDecimal c = true

/-- The text does not end in a digit. -/
def Undigited (cs : List Char) : Prop := ∀ c, cs.getLast? = some c → isDecimal c = false

theorem trailingDigits_append {front run : List Char} (hfront : Undigited front)
    (hrun : Digits run) : trailingDigits (front ++ run) = (front, run) := by
  have backwards : ∀ c ∈ run.reverse, isDecimal c = true := fun c hc => hrun c (List.mem_reverse.1 hc)
  have stops : front.reverse.takeWhile isDecimal = [] ∧
      front.reverse.dropWhile isDecimal = front.reverse := by
    cases h : front.reverse with
    | nil => exact ⟨rfl, rfl⟩
    | cons c rest =>
      have none : isDecimal c = false := hfront c (by rw [← List.head?_reverse, h]; rfl)
      rw [List.takeWhile_cons, List.dropWhile_cons, none]
      exact ⟨rfl, rfl⟩
  unfold trailingDigits
  rw [List.reverse_append, List.span_eq_takeWhile_dropWhile, List.takeWhile_append_of_pos backwards,
    List.dropWhile_append_of_pos backwards, stops.1, stops.2]
  simp

/-- The digits at the end of a text are the only run of digits behind a text that does not end in
one. -/
theorem trailingDigits_eq_iff {cs front run : List Char} :
    trailingDigits cs = (front, run) ↔ cs = front ++ run ∧ Undigited front ∧ Digits run := by
  constructor
  · intro h
    unfold trailingDigits at h
    rw [List.span_eq_takeWhile_dropWhile] at h
    obtain ⟨rfl, rfl⟩ := Prod.mk.inj h
    refine ⟨?_, fun c last => ?_, fun c hc => ?_⟩
    · rw [← List.reverse_append, List.takeWhile_append_dropWhile, List.reverse_reverse]
    · have stops := List.head?_dropWhile_not isDecimal cs.reverse
      rw [List.getLast?_reverse] at last
      rwa [last] at stops
    · exact List.mem_takeWhile_imp (List.mem_reverse.1 hc)
  · rintro ⟨rfl, hfront, hrun⟩
    exact trailingDigits_append hfront hrun

/-- Behind a text that does not end in a digit, a run of digits takes all digits at the end of
whatever it stands in. -/
theorem length_le_of_undigited {front run front' run' : List Char} (hfront : Undigited front)
    (hrun' : Digits run') (e : front' ++ run' = front ++ run) : run'.length ≤ run.length := by
  rcases List.append_eq_append_iff.1 e with ⟨more, rfl, tail⟩ | ⟨more, -, tail⟩
  · -- what the longer run has more is the end of the front, and no digit
    rcases more.eq_nil_or_concat with rfl | ⟨rest, c, rfl⟩
    · exact Nat.le_of_eq (congrArg List.length tail)
    · have none : isDecimal c = false := hfront c (by simp)
      have digit : isDecimal c = true := hrun' c (by rw [tail]; simp)
      cases none.symm.trans digit
  · rw [tail, List.length_append]
    exact Nat.le_add_left _ _

/-! ### Ranges -/

/-- The token is a range: behind a prefix that is not empty and has no newline stand a number,
two dots and a second number, and nothing else but perhaps a newline.  The first number has as
many digits as it can if a prefix is to be left. -/
structure IsRange (token stem first last : List Char) : Prop where
  text : token = stem ++ first ++ ['.', '.'] ++ last ∨ token = stem ++ first ++ ['.', '.'] ++ last ++ ['\n']
  stem_ne_nil : stem ≠ []
  newline : '\n' ∉ stem
  first_ne_nil : first ≠ []
  firstDigits : Digits first
  last_ne_nil : last ≠ []
  lastDigits : Digits last
  longest : ∀ stem' first', stem' ++ first' = stem ++ first → stem' ≠ [] → Digits first' →
    first'.length ≤ first.length

theorem stemAndFirst?_eq_some {cs stem first : List Char} (h : stemAndFirst? cs = some (stem, first)) :
    cs = stem ++ first ∧ stem ≠ [] ∧ '\n' ∉ stem ∧ first ≠ [] ∧ Digits first ∧
      ∀ stem' first', stem' ++ first' = stem ++ first → stem' ≠ [] → Digits first' →
        first'.length ≤ first.length := by
  cases cs with
  | nil => cases h
  | cons c rest =>
    obtain ⟨middle, run, found⟩ : ∃ middle run, trailingDigits rest = (middle, run) := ⟨_, _, rfl⟩
    obtain ⟨rfl, hmiddle, hrun⟩ := trailingDigits_eq_iff.1 found
    simp only [stemAndFirst?, found] at h
    split at h
    · cases h
    · next given =>
      obtain ⟨rfl, rfl⟩ := Prod.mk.inj (Option.some.inj h)
      obtain ⟨some, oneLine⟩ := not_or.1 given
      refine ⟨rfl, List.cons_ne_nil _ _, by simpa using oneLine, some, hrun, fun stem' first' e ne hfirst' => ?_⟩
      obtain ⟨d, front, rfl⟩ := List.exists_cons_of_ne_nil ne
      obtain ⟨-, e⟩ := List.cons.inj e
      exact length_le_of_undigited hmiddle hfirst' e

theorem stemAndFirst?_of_isRange {token stem first last : List Char} (h : IsRange token stem first last) :
    stemAndFirst? (stem ++ first) = some (stem, first) := by
  obtain ⟨c, middle, rfl⟩ := List.exists_cons_of_ne_nil h.stem_ne_nil
  have hmiddle : Undigited middle := by
    intro d ending
    cases digit : isDecimal d with
    | false => rfl
    | true =>
      -- otherwise the digit could be given to the number, since another character is left
      obtain ⟨front, rfl⟩ := List.getLast?_eq_some_iff.1 ending
      have more := h.longest (c :: front) (d :: first) (by simp) (List.cons_ne_nil _ _)
        (List.forall_mem_cons.2 ⟨digit, h.firstDigits⟩)
      exact absurd more (Nat.not_succ_le_self _)
  have given : ¬ (first = [] ∨ (c :: middle).contains '\n' = true) :=
    not_or.2 ⟨h.first_ne_nil, by simpa using h.newline⟩
  simp only [stemAndFirst?, List.cons_append, trailingDigits_append hmiddle h.firstDigits]
  exact if_neg given

/-! ### Finding the range -/

theorem dropFinalNewline_cases (token : List Char) :
    token = dropFinalNewline token ∨ token = dropFinalNewline token ++ ['\n'] := by
  unfold dropFinalNewline
  split
  · next ending =>
    obtain ⟨front, rfl⟩ := List.getLast?_eq_some_iff.1 ending
    exact .inr (by rw [List.dropLast_concat])
  · exact .inl rfl

/-- Behind digits there is a final newline or none. -/
theorem dropFinalNewline_eq {token front last : List Char} (some : last ≠ []) (digits : Digits last)
    (h : token = front ++ last ∨ token = front ++ last ++ ['\n']) :
    dropFinalNewline token = front ++ last := by
  unfold dropFinalNewline
  obtain rfl | rfl := h
  · have other : (front ++ last).getLast? ≠ .some '\n' := by
      obtain ⟨more, c, rfl⟩ := last.eq_nil_or_concat.resolve_left some
      intro ending
      obtain rfl : c = '\n' := by simpa using ending
      exact absurd (digits '\n' (by simp)) (by decide)
    exact if_neg other
  · rw [List.getLast?_concat, if_pos rfl, List.dropLast_concat]

/-- A token is the range that is found in it. -/
theorem range?_eq_some_iff {token stem first last : List Char} :
    range? token = some ⟨stem, first, last⟩ ↔ IsRange token stem first last := by
  constructor
  · intro h
    obtain ⟨front, run, found⟩ : ∃ front run, trailingDigits (dropFinalNewline token) = (front, run) :=
      ⟨_, _, rfl⟩
    obtain ⟨whole, -, hrun⟩ := trailingDigits_eq_iff.1 found
    simp only [range?, found] at h
    split at h
    · cases h
    · next given =>
      split at h
      · next rest dots =>
        obtain ⟨⟨stem', first'⟩, cut, same⟩ := Option.map_eq_some_iff.1 h
        obtain ⟨rfl, rfl, rfl⟩ := Range.mk.inj same
        obtain ⟨text, stemGiven, oneLine, firstGiven, digits, longest⟩ := stemAndFirst?_eq_some cut
        have body : dropFinalNewline token = stem' ++ first' ++ ['.', '.'] ++ run := by
          rw [whole, ← text, ← List.reverse_reverse front, dots]
          simp
        have cases := dropFinalNewline_cases token
        rw [body] at cases
        exact ⟨cases, stemGiven, oneLine, firstGiven, digits, given, hrun, longest⟩
      · cases h
  · intro h
    have dots : Undigited (stem ++ first ++ ['.', '.']) := by
      intro c ending
      obtain rfl : c = '.' := by simpa using ending.symm
      decide
    have whole := dropFinalNewline_eq h.last_ne_nil h.lastDigits h.text
    have found := trailingDigits_append dots h.lastDigits
    have backwards : (stem ++ first ++ ['.', '.']).reverse = '.' :: '.' :: (stem ++ first).reverse := by
      simp
    simp only [range?, whole, found, if_neg h.last_ne_nil, backwards, List.reverse_reverse,
      stemAndFirst?_of_isRange h, Option.map_some]

/-! ### Expanding one token -/

/-- The number that digits are. -/
def numberOf (ds : List Char) : Nat := ofDigits 10 (ds.filterMap digitValue?)

/-- Digits that are not too many can be read. -/
theorem runValue_of_digits {ds : List Char} (h : Digits ds) :
    runValue ds = if ds.length ≤ digitCap then .ok (numberOf ds) else fault .badValue := by
  have length : (ds.filterMap digitValue?).length = ds.length := by
    rw [List.length_filterMap_eq_countP, List.countP_eq_length]
    exact h
  unfold runValue naturalOf?
  rw [length]
  by_cases short : ds.length ≤ digitCap
  · rw [if_neg (Nat.not_lt.2 short), if_pos short]
    rfl
  · rw [if_pos (Nat.not_le.1 short), if_neg short]
    rfl

/-- The hosts that a token stands for: itself, or the hosts of a range in ascending order. -/
inductive Stands (token : List Char) : List String → Prop
  | host : (∀ stem first last, ¬ IsRange token stem first last) → Stands token [String.ofList token]
  | range {stem first last : List Char} :
      IsRange token stem first last → first.length ≤ digitCap → last.length ≤ digitCap →
      numberOf first ≤ numberOf last →
      Stands token ((List.range' (numberOf first) (numberOf last - numberOf first + 1)).map fun n =>
        String.ofList stem ++ toString n)

/-- Why a token is refused: its range runs downwards, or has a number that cannot be read. -/
inductive Refuses (token : List Char) : Failure → Prop
  | downwards {stem first last : List Char} :
      IsRange token stem first last → first.length ≤ digitCap → last.length ≤ digitCap →
      numberOf last < numberOf first → Refuses token (.hostRange (String.ofList token))
  | tooLong {stem first last : List Char} :
      IsRange token stem first last → digitCap < first.length ∨ digitCap < last.length →
      Refuses token (.fault .badValue)

/-- Each range that the token is has numbers that can be read and do not run downwards. -/
def Sound (token : List Char) : Prop := ∀ stem first last, IsRange token stem first last →
  first.length ≤ digitCap ∧ last.length ≤ digitCap ∧ numberOf first ≤ numberOf last

/-! ### The hosts of a token -/

theorem host_eq (r : Range) (n : Nat) : r.host n = String.ofList r.stem ++ toString n := by
  rw [Range.host, String.ofList_append]
  rfl

theorem IsRange.unique {token stem first last stem' first' last' : List Char}
    (h : IsRange token stem first last) (h' : IsRange token stem' first' last') :
    stem = stem' ∧ first = first' ∧ last = last' := by
  have same := (range?_eq_some_iff.2 h).symm.trans (range?_eq_some_iff.2 h')
  obtain ⟨rfl, rfl, rfl⟩ := Range.mk.inj (Option.some.inj same)
  exact ⟨rfl, rfl, rfl⟩

/-- The hosts of a range, from its numbers. -/
theorem expand_of_isRange {token stem first last : List Char} (h : IsRange token stem first last) :
    expand token = (do
      let low ← runValue first
      let high ← runValue last
      if high < low then .error (.hostRange (String.ofList token))
      else .ok ((List.range (high + 1 - low)).map fun i => (⟨stem, first, last⟩ : Range).host (low + i))) := by
  rw [expand, range?_eq_some_iff.2 h]

theorem Stands.expand {token : List Char} {hosts : List String} (h : Stands token hosts) :
    expand token = .ok hosts := by
  cases h with
  | host none =>
    rw [Hosts.expand]
    cases found : range? token with
    | none => rfl
    | some r => exact absurd (range?_eq_some_iff.1 found) (none _ _ _)
  | @range stem first last isRange shortFirst shortLast upwards =>
    rw [expand_of_isRange isRange, runValue_of_digits isRange.firstDigits, if_pos shortFirst,
      runValue_of_digits isRange.lastDigits, if_pos shortLast]
    show (if numberOf last < numberOf first then _ else _) = _
    rw [if_neg (Nat.not_lt.2 upwards), List.range'_eq_map_range, List.map_map,
      Nat.sub_add_comm upwards]
    exact congrArg Except.ok (List.map_congr_left fun i _ => host_eq _ _)

theorem Refuses.expand {token : List Char} {f : Failure} (h : Refuses token f) :
    expand token = .error f := by
  cases h with
  | downwards isRange shortFirst shortLast downwards =>
    rw [expand_of_isRange isRange, runValue_of_digits isRange.firstDigits, if_pos shortFirst,
      runValue_of_digits isRange.lastDigits, if_pos shortLast]
    exact if_pos downwards
  | @tooLong stem first last isRange long =>
    rw [expand_of_isRange isRange, runValue_of_digits isRange.firstDigits,
      runValue_of_digits isRange.lastDigits]
    by_cases shortFirst : first.length ≤ digitCap
    · have longLast : ¬ last.length ≤ digitCap :=
        Nat.not_le.2 (long.resolve_left (Nat.not_lt.2 shortFirst))
      rw [if_pos shortFirst, if_neg longLast]
      rfl
    · rw [if_neg shortFirst]
      rfl

theorem stands_or_refuses (token : List Char) :
    (∃ hosts, Stands token hosts) ∨ ∃ f, Refuses token f := by
  by_cases some : ∃ stem first last, IsRange token stem first last
  · obtain ⟨stem, first, last, isRange⟩ := some
    rcases Nat.lt_or_ge digitCap first.length with long | shortFirst
    · exact .inr ⟨_, .tooLong isRange (.inl long)⟩
    rcases Nat.lt_or_ge digitCap last.length with long | shortLast
    · exact .inr ⟨_, .tooLong isRange (.inr long)⟩
    rcases Nat.lt_or_ge (numberOf last) (numberOf first) with downwards | upwards
    · exact .inr ⟨_, .downwards isRange shortFirst shortLast downwards⟩
    · exact .inl ⟨_, .range isRange shortFirst shortLast upwards⟩
  · exact .inl ⟨_, .host fun stem first last isRange => some ⟨stem, first, last, isRange⟩⟩

theorem expand_eq_ok_iff {token : List Char} {hosts : List String} :
    expand token = .ok hosts ↔ Stands token hosts := by
  refine ⟨fun h => ?_, Stands.expand⟩
  obtain ⟨hosts', stands⟩ | ⟨f, refuses⟩ := stands_or_refuses token
  · obtain rfl := Except.ok.inj (stands.expand.symm.trans h)
    exact stands
  · cases refuses.expand.symm.trans h

theorem expand_eq_error_iff {token : List Char} {f : Failure} :
    expand token = .error f ↔ Refuses token f := by
  refine ⟨fun h => ?_, Refuses.expand⟩
  obtain ⟨hosts, stands⟩ | ⟨f', refuses⟩ := stands_or_refuses token
  · cases stands.expand.symm.trans h
  · obtain rfl := Except.error.inj (refuses.expand.symm.trans h)
    exact refuses

/-- A token stands for hosts unless a range in it is refused. -/
theorem sound_iff {token : List Char} : Sound token ↔ ∃ hosts, expand token = .ok hosts := by
  constructor
  · intro sound
    obtain ⟨hosts, stands⟩ | ⟨f, refuses⟩ := stands_or_refuses token
    · exact ⟨hosts, stands.expand⟩
    · cases refuses with
      | downwards isRange _ _ downwards =>
        exact absurd (sound _ _ _ isRange).2.2 (Nat.not_le.2 downwards)
      | tooLong isRange long =>
        obtain ⟨shortFirst, shortLast, -⟩ := sound _ _ _ isRange
        exact absurd long (not_or.2 ⟨Nat.not_lt.2 shortFirst, Nat.not_lt.2 shortLast⟩)
  · rintro ⟨hosts, h⟩ stem first last isRange
    cases expand_eq_ok_iff.1 h with
    | host none => exact absurd isRange (none _ _ _)
    | range isRange' shortFirst shortLast upwards =>
      obtain ⟨rfl, rfl, rfl⟩ := isRange'.unique isRange
      exact ⟨shortFirst, shortLast, upwards⟩

/-! ### Specifications -/

theorem resolve_eq_ok_iff {spec : String} {hosts : List String} :
    resolve spec = .ok hosts ↔
      ∃ parts, List.Forall₂ Stands (splitOn ',' spec.toList) parts ∧ hosts = parts.flatten := by
  have each : ∀ parts, (splitOn ',' spec.toList).mapM expand = .ok parts ↔
      List.Forall₂ Stands (splitOn ',' spec.toList) parts := fun parts => by
    simp only [mapM_eq_ok_iff, expand_eq_ok_iff]
  rw [resolve]
  constructor
  · intro h
    rcases converted : (splitOn ',' spec.toList).mapM expand with f | parts
    · rw [converted] at h
      cases h
    · rw [converted] at h
      exact ⟨parts, (each parts).1 converted, (Except.ok.inj h).symm⟩
  · rintro ⟨parts, stand, rfl⟩
    rw [(each parts).2 stand]
    rfl

theorem resolve_eq_error_iff {spec : String} {f : Failure} :
    resolve spec = .error f ↔ ∃ before token after, splitOn ',' spec.toList = before ++ token :: after ∧
      (∀ t ∈ before, Sound t) ∧ Refuses token f := by
  have first : (splitOn ',' spec.toList).mapM expand = .error f ↔ ∃ before token after,
      splitOn ',' spec.toList = before ++ token :: after ∧ (∀ t ∈ before, Sound t) ∧
        Refuses token f := by
    simp only [mapM_eq_error_iff, sound_iff, expand_eq_error_iff]
  rw [resolve, ← first]
  rcases (splitOn ',' spec.toList).mapM expand with f' | parts
  · exact ⟨fun h => congrArg _ (Except.error.inj h), fun h => congrArg _ (Except.error.inj h)⟩
  · constructor <;> rintro ⟨⟩

/-- A specification is cut at its commas.  Its hosts are those of its tokens, one after the other;
they are there unless a token has a range that is refused, and then the first such token gives the
failure. -/
theorem resolve_expands (spec : String) :
    ∃ tokens, tokens ≠ [] ∧ (∀ token ∈ tokens, ',' ∉ token) ∧ joinWith [','] tokens = spec.toList ∧
      ((∃ hosts, resolve spec = .ok hosts) ↔ ∀ token ∈ tokens, Sound token) ∧
      (∀ hosts, resolve spec = .ok hosts ↔
        ∃ parts, List.Forall₂ Stands tokens parts ∧ hosts = parts.flatten) ∧
      ∀ f, resolve spec = .error f ↔ ∃ before token after, tokens = before ++ token :: after ∧
        (∀ t ∈ before, Sound t) ∧ Refuses token f := by
  refine ⟨splitOn ',' spec.toList, splitOn_ne_nil _ _, notMem_of_mem_splitOn, joinWith_splitOn _ _,
    ⟨?_, fun sound => ?_⟩, fun _ => resolve_eq_ok_iff, fun _ => resolve_eq_error_iff⟩
  · rintro ⟨hosts, h⟩ token ht
    obtain ⟨parts, stand, -⟩ := resolve_eq_ok_iff.1 h
    obtain ⟨i, hi, rfl⟩ := List.getElem_of_mem ht
    obtain ⟨length, each⟩ := List.forall₂_iff_get.1 stand
    exact sound_iff.2 ⟨_, (each i hi (length ▸ hi)).expand⟩
  · rcases h : resolve spec with f | hosts
    · obtain ⟨before, token, after, cut, -, refuses⟩ := resolve_eq_error_iff.1 h
      have ht : token ∈ splitOn ',' spec.toList := by
        rw [cut]
        exact List.mem_append_right _ (.head _)
      obtain ⟨hosts, ok⟩ := sound_iff.1 (sound token ht)
      cases refuses.expand.symm.trans ok
    · exact ⟨hosts, rfl⟩

/-- A range that runs downwards from a number of 4301 digits is not reported as such: the number
cannot be read. -/
theorem longRange_unread :
    let first := List.replicate 4301 '1'
    let token := ['n'] ++ first ++ ['.', '.'] ++ ['1']
    IsRange token ['n'] first ['1'] ∧ numberOf ['1'] < numberOf first ∧
      resolve (String.ofList token) = .error (.fault .badValue) ∧
      ¬ ∃ host, resolve (String.ofList token) = .error (.hostRange host) := by
  intro first token
  have digits : Digits first := fun c hc => by rw [List.eq_of_mem_replicate hc]; decide
  have length : first.length = 4301 := List.length_replicate
  have isRange : IsRange token ['n'] first ['1'] :=
    { text := .inl rfl
      stem_ne_nil := List.cons_ne_nil _ _
      newline := by decide
      first_ne_nil := List.ne_nil_of_length_pos (by omega)
      firstDigits := digits
      last_ne_nil := List.cons_ne_nil _ _
      lastDigits := fun c hc => by rw [List.mem_singleton.1 hc]; decide
      longest := by
        intro stem' first' e ne _
        have lengths := congrArg List.length e
        have := List.length_pos_of_ne_nil ne
        simp only [List.length_append, List.length_singleton] at lengths
        omega }
  have unread : resolve (String.ofList token) = .error (.fault .badValue) := by
    have inFirst : ',' ∉ first := fun comma => absurd (digits _ comma) (by decide)
    have inToken : ',' ∉ token := by simp [token, inFirst]
    have oneToken : splitOn ',' (String.ofList token).toList = [token] := by
      rw [String.toList_ofList, splitOn_of_notMem inToken]
    exact resolve_eq_error_iff.2 ⟨[], token, [], oneToken, by simp,
      .tooLong isRange (.inl (by rw [length]; decide))⟩
  refine ⟨isRange, by decide +kernel, unread, ?_⟩
  rintro ⟨host, h⟩
  cases unread.symm.trans h

end ExaWire.Hosts
