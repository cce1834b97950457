/-
ExaWire/Proofs/Json/Text.lean

Texts come back from their JSON.

A character is written as itself, by one letter, or by its 16-bit units in hexadecimal.
Reading up to the closing quote gives the units of each character, whichever way it was
written (`readUnits_escapeChar`).  No character is a surrogate, so units are joined to the
characters they come from: a high surrogate is always followed by the low one that it was
written with.
-/
import ExaWire.Json.Reader
import ExaWire.Json.Writer
import ExaWire.Proofs.Text.Cut
import ExaWire.Proofs.Text.Utf8

namespace ExaWire

/-! ### Hexadecimal digits -/

namespace Text

theorem hexText_succ {width : Nat} (some : 0 < width) (n : Nat) :
    hexText (width + 1) n = hexText width (n / 16) ++ [Nat.digitChar (n % 16)] := by
  unfold hexText
  by_cases small : n < 16
  · rw [Nat.toDigits_of_lt_base small, Nat.div_eq_of_lt small, Nat.mod_eq_of_lt small]
    obtain ⟨w, rfl⟩ : ∃ w, width = w + 1 := ⟨width - 1, by omega⟩
    show List.replicate (w + 1) '0' ++ _ = (List.replicate w '0' ++ ['0']) ++ _
    rw [List.replicate_succ']
  · rw [Nat.toDigits_of_base_le (by decide) (Nat.le_of_not_lt small)]
    simp only [List.length_append, List.length_singleton, Nat.add_sub_add_right, List.append_assoc]

/-- Four digits are enough for a unit. -/
theorem hexText_unit {n : Nat} (h : n < 0x10000) :
    hexText 4 n = [Nat.digitChar (n / 4096), Nat.digitChar (n / 256 % 16),
      Nat.digitChar (n / 16 % 16), Nat.digitChar (n % 16)] := by
  have first : hexText 1 (n / 16 / 16 / 16) = [Nat.digitChar (n / 16 / 16 / 16)] := by
    rw [hexText, Nat.toDigits_of_lt_base (by omega)]
    rfl
  rw [hexText_succ (by decide), hexText_succ (by decide), hexText_succ (by decide), first]
  simp only [Nat.div_div_eq_div_mul]
  rfl

end Text

namespace Json

theorem hexDigit?_digitChar : ∀ d < 16, hexDigit? (Nat.digitChar d) = some d := by decide

theorem unit?_digitChar {n : Nat} (h : n < 0x10000) :
    unit? (Nat.digitChar (n / 4096)) (Nat.digitChar (n / 256 % 16)) (Nat.digitChar (n / 16 % 16))
      (Nat.digitChar (n % 16)) = some n := by
  have whole : ((n / 4096 * 16 + n / 256 % 16) * 16 + n / 16 % 16) * 16 + n % 16 = n := by omega
  unfold unit?
  rw [hexDigit?_digitChar _ (by omega), hexDigit?_digitChar _ (by omega),
    hexDigit?_digitChar _ (by omega), hexDigit?_digitChar _ (by omega)]
  exact congrArg some whole

/-! ### Characters -/

/-- What is read behind some units. -/
def behind (ns : List Nat) : Option (List Nat × List Char) → Option (List Nat × List Char) :=
  Option.map fun (more, tail) => (ns ++ more, tail)

/-- The escape of a unit is read as that unit. -/
theorem readUnits_unitEscape {n : Nat} (h : n < 0x10000) (cs : List Char) :
    readUnits (unitEscape n ++ cs) = behind [n] (readUnits cs) := by
  rw [unitEscape, Text.hexText_unit h]
  simp only [List.cons_append, List.nil_append]
  rw [readUnits]
  simp only [unit?_digitChar h]
  rfl

/-- A character is read as its units, however it was written. -/
theorem readUnits_escapeChar (c : Char) (cs : List Char) :
    readUnits (escapeChar c ++ cs) = behind (units c) (readUnits cs) := by
  have short {c e : Char} (h : shortEscape? e = some c) (plain : units c = [c.toNat]) :
      readUnits ('\\' :: e :: cs) = behind (units c) (readUnits cs) := by
    rw [readUnits.eq_def, plain]
    simp only [h]
    rfl
  unfold escapeChar
  -- the seven characters that are written by one letter
  iterate 7 (split; · next e => subst e; exact short rfl rfl)
  split
  · next noQuote noBackslash _ _ _ _ _ visible =>
    have unit : units c = [c.toNat] := if_pos (by omega)
    rw [List.cons_append, List.nil_append, readUnits.eq_def, unit]
    dsimp only
    rw [if_neg noQuote, if_neg noBackslash, if_neg (by omega)]
    rfl
  · have valid := Utf8.toNat_valid c
    unfold units
    dsimp only
    split
    · next one => rw [List.flatMap_singleton, readUnits_unitEscape one]
    · next two =>
      rw [List.flatMap_cons, List.flatMap_singleton, List.append_assoc,
        readUnits_unitEscape (by omega), readUnits_unitEscape (by omega)]
      simp only [behind, Option.map_map]
      rfl

/-- The units of a character are joined to that character. -/
theorem joinUnits_units (c : Char) (ns : List Nat) :
    joinUnits (units c ++ ns) = c :: joinUnits ns := by
  have valid := Utf8.toNat_valid c
  have same {n : Nat} (h : n = c.toNat) : Char.ofNat n = c := by rw [h, Char.ofNat_toNat]
  unfold units
  dsimp only
  split
  · next one =>
    have notHigh : isHigh c.toNat = false := by
      simp only [isHigh, Bool.and_eq_false_iff, decide_eq_false_iff_not]
      omega
    have notLow : isLow c.toNat = false := by
      simp only [isLow, Bool.and_eq_false_iff, decide_eq_false_iff_not]
      omega
    have char : charOf c.toNat = c := by
      rw [charOf, notHigh, notLow]
      exact same rfl
    cases ns with
    | nil => exact congrArg (fun d => [d]) char
    | cons n ns =>
      rw [List.cons_append, List.nil_append, joinUnits, notHigh, char]
      rfl
  · next two =>
    have high : isHigh (0xd800 + (c.toNat - 0x10000) / 0x400) = true := by
      simp only [isHigh, Bool.and_eq_true, decide_eq_true_eq]
      omega
    have low : isLow (0xdc00 + (c.toNat - 0x10000) % 0x400) = true := by
      simp only [isLow, Bool.and_eq_true, decide_eq_true_eq]
      omega
    simp only [List.cons_append, List.nil_append]
    rw [joinUnits, high, low, Bool.and_self, if_pos rfl, same (by omega)]

/-! ### Texts -/

theorem joinUnits_flatMap_units (cs : List Char) : joinUnits (cs.flatMap units) = cs := by
  induction cs with
  | nil => rfl
  | cons c cs ih => rw [List.flatMap_cons, joinUnits_units, ih]

theorem readUnits_flatMap_escapeChar (cs rest : List Char) :
    readUnits (cs.flatMap escapeChar ++ '"' :: rest) = some (cs.flatMap units, rest) := by
  induction cs with
  | nil =>
    rw [List.flatMap_nil, List.nil_append, readUnits.eq_def]
    rfl
  | cons c cs ih =>
    rw [List.flatMap_cons, List.append_assoc, readUnits_escapeChar, ih]
    rfl

/-- A text is read up to the quote that was written behind it. -/
theorem readText_escaped (s : String) (rest : List Char) :
    readText (s.toList.flatMap escapeChar ++ '"' :: rest) = .ok (s, rest) := by
  rw [readText, readUnits_flatMap_escapeChar]
  dsimp only
  rw [joinUnits_flatMap_units, String.ofList_toList]

/-- Nothing but ASCII stands in the JSON of a text. -/
theorem ascii_writeText (cs : List Char) : ∀ c ∈ writeText cs, c.toNat < 0x80 := by
  have digits : ∀ d < 16, (Nat.digitChar d).toNat < 0x80 := by decide
  have escape {n : Nat} (h : n < 0x10000) : ∀ c ∈ unitEscape n, c.toNat < 0x80 := by
    rw [unitEscape, Text.hexText_unit h]
    simp only [List.forall_mem_cons]
    exact ⟨by decide, by decide, digits _ (by omega), digits _ (by omega), digits _ (by omega),
      digits _ (by omega), List.forall_mem_nil _⟩
  have char (c : Char) : ∀ d ∈ escapeChar c, d.toNat < 0x80 := by
    unfold escapeChar
    iterate 7 (split; · exact Text.forall_mem_of_all (by decide))
    split
    · next visible =>
      intro d hd
      rw [List.mem_singleton.1 hd]
      omega
    · have valid := Utf8.toNat_valid c
      have small : ∀ n ∈ units c, n < 0x10000 := by
        unfold units
        dsimp only
        split
        · simpa using ‹_›
        · simp only [List.forall_mem_cons]
          exact ⟨by omega, by omega, List.forall_mem_nil _⟩
      intro d hd
      obtain ⟨n, hn, hd⟩ := List.mem_flatMap.1 hd
      exact escape (small n hn) d hd
  intro d hd
  rcases List.mem_append.1 hd with hd | hd
  · rcases List.mem_cons.1 hd with rfl | hd
    · decide
    · obtain ⟨c, _, hd⟩ := List.mem_flatMap.1 hd
      exact char c d hd
  · rw [List.mem_singleton.1 hd]
    decide

end Json

end ExaWire
