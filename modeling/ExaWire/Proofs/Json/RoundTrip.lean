/-
ExaWire/Proofs/Json/RoundTrip.lean

Values come back from their JSON.

`Plain v` says that a value is built from nulls, truth values, integers, texts, lists and
objects, nested as one likes, where an object has texts as its keys and each only once.
`Legible v cs` says that `cs` is its JSON, and that reading takes just these characters and
gives the value again, whatever the value stands in front of.

Legibility is carried from the items of a list to the list and from the entries of an object
to the object.  Reading spends one unit of fuel on each item, and never more than the text has
characters.
-/
import ExaWire.Proofs.Json.Text
import ExaWire.Proofs.Number.Reading
import ExaWire.Proofs.Text.Cut
import ExaWire.Proofs.Value.Fields
import Mathlib.Data.List.Forall2
import Mathlib.Data.List.TakeDrop

namespace ExaWire.Json

open Value (entry)

/-- A value that JSON has a form of its own for, at any depth. -/
inductive Plain : Value → Prop
  | null : Plain .null
  | bool (b : Bool) : Plain (.bool b)
  | int {n : Int} (writable : isWritable n = true) : Plain (.int n)
  | text (s : String) : Plain (.text s)
  | list {items : List Value} (plain : ∀ v ∈ items, Plain v) : Plain (.list items)
  | object {fields : List (String × Value)} (distinct : (fields.map Prod.fst).Nodup)
      (plain : ∀ f ∈ fields, Plain f.2) : Plain (.ofFields fields)

/-- What a value may stand in front of. -/
def Stops (rest : List Char) : Prop := ∀ c ∈ rest.head?, c = ',' ∨ c = ']' ∨ c = '\x7d'

/-- A text is the JSON of a value and is read as it. -/
structure Legible (v : Value) (cs : List Char) : Prop where
  written : write v = .ok cs
  ascii : ∀ c ∈ cs, c.toNat < 0x80
  begins : ∃ c more, cs = c :: more ∧ isSpace c = false ∧ c ≠ ']'
  read : ∀ fuel rest, cs.length ≤ fuel → Stops rest → readValue fuel (cs ++ rest) = .ok (v, rest)

variable {v : Value} {cs rest : List Char} {fuel : Nat}

/-- No space is skipped in front of a value. -/
theorem Legible.skipSpace_append (h : Legible v cs) : skipSpace (cs ++ rest) = cs ++ rest := by
  obtain ⟨c, more, rfl, visible, _⟩ := h.begins
  exact List.dropWhile_cons_of_neg (by rw [visible]; exact Bool.false_ne_true)

/-! ### Names and integers -/

/-- What begins neither a text nor a list nor an object is read as a name. -/
theorem readValue_name {c : Char} (quote : c ≠ '"') (bracket : c ≠ '[') (brace : c ≠ '\x7b') :
    readValue (fuel + 1) (c :: cs) = readName (c :: cs) := by
  rw [readValue]
  · exact fun _ e => quote (List.cons.inj e).1
  · exact fun _ e => bracket (List.cons.inj e).1
  · exact fun _ e => brace (List.cons.inj e).1

theorem Text.after?_of_ne {p c : Char} {ps : List Char} (h : p ≠ c) :
    Text.after? (p :: ps) (c :: cs) = none := if_neg h

/-- What begins with none of the letters of a name is read as a number. -/
theorem readName_number {c : Char} (n : c ≠ 'n') (t : c ≠ 't') (f : c ≠ 'f') :
    readName (c :: cs) = readNumber (c :: cs) := by
  have null : Text.after? "null".toList (c :: cs) = none := Text.after?_of_ne n.symm
  have yes : Text.after? "true".toList (c :: cs) = none := Text.after?_of_ne t.symm
  have no : Text.after? "false".toList (c :: cs) = none := Text.after?_of_ne f.symm
  rw [readName, null, yes, no]

/-- The digits of a natural are an integer part. -/
theorem integerPart?_digits (n : Nat) (stops : Stops rest) :
    integerPart? (Nat.toDigits 10 n ++ rest) = some (Nat.toDigits 10 n, rest) := by
  have digits : ∀ c ∈ Nat.toDigits 10 n, c.isDigit = true := fun c hc => isDigit_of_mem_digits hc
  have stop : rest.takeWhile Char.isDigit = [] ∧ rest.dropWhile Char.isDigit = rest := by
    cases rest with
    | nil => exact ⟨rfl, rfl⟩
    | cons c rest =>
      have other : ¬ c.isDigit = true := by
        rcases stops c rfl with rfl | rfl | rfl <;> decide
      exact ⟨List.takeWhile_cons_of_neg other, List.dropWhile_cons_of_neg other⟩
  have span : digitSpan (Nat.toDigits 10 n ++ rest) = (Nat.toDigits 10 n, rest) := by
    rw [digitSpan, List.span_eq_takeWhile_dropWhile, List.takeWhile_append_of_pos digits,
      List.dropWhile_append_of_pos digits, stop.1, stop.2, List.append_nil]
  by_cases zero : n = 0
  · rw [zero]
    rfl
  · obtain ⟨d, ds, e⟩ := List.exists_cons_of_ne_nil (Nat.toDigits_ne_nil (b := 10) (n := n))
    have first : d ≠ '0' := fun h => zero (eq_zero_of_head_digits (by rw [e, h]; rfl))
    rw [e] at span ⊢
    rw [integerPart?.eq_def]
    split
    · next h => exact absurd (List.cons.inj h).1 first
    · rw [span]

/-- Neither a fraction nor an exponent follows. -/
theorem fractionPart_of_stops (stops : Stops rest) : fractionPart rest = ([], rest) := by
  cases rest with
  | nil => rfl
  | cons c rest => rcases stops c rfl with rfl | rfl | rfl <;> rfl

theorem exponentPart_of_stops (stops : Stops rest) : exponentPart rest = ([], rest) := by
  cases rest with
  | nil => rfl
  | cons c rest => rcases stops c rfl with rfl | rfl | rfl <;> rfl

/-- An integer is read back from its text. -/
theorem readNumber_toString {n : Int} (writable : isWritable n = true) (stops : Stops rest) :
    readNumber ((toString n).toList ++ rest) = .ok (.int n, rest) := by
  have text := toList_toString n
  have back := readInt?_toString writable
  rw [← String.ofList_toList (s := toString n), text] at back
  rw [text]
  by_cases negative : n < 0
  · rw [if_pos negative] at back ⊢
    simp only [List.cons_append, List.nil_append] at back ⊢
    unfold readNumber
    simp only [integerPart?_digits n.natAbs stops, fractionPart_of_stops stops,
      exponentPart_of_stops stops, and_self, if_true, List.cons_append, List.nil_append, back]
    rfl
  · rw [if_neg negative, List.nil_append] at back ⊢
    unfold readNumber
    split
    next sign digits parted =>
      split at parted
      · next signed =>
        -- no digit is a minus
        obtain ⟨d, ds, e⟩ :=
          List.exists_cons_of_ne_nil (Nat.toDigits_ne_nil (b := 10) (n := n.natAbs))
        have digit : d.isDigit = true := isDigit_of_mem_digits (by rw [e]; exact List.mem_cons_self)
        rw [e] at signed
        rw [(List.cons.inj signed).1] at digit
        exact absurd digit (by decide)
      · cases parted
        simp only [integerPart?_digits n.natAbs stops, fractionPart_of_stops stops,
          exponentPart_of_stops stops, and_self, if_true, List.nil_append, back]
        rfl

/-! ### Values that hold no other value -/

/-- A text that is not empty brings the fuel for one step. -/
theorem exists_succ {n : Nat} (some : 0 < n) (enough : n ≤ fuel) : ∃ less, fuel = less + 1 :=
  ⟨fuel - 1, by omega⟩

theorem legible_null : Legible .null "null".toList where
  written := rfl
  ascii := Text.forall_mem_of_all (by decide)
  begins := ⟨'n', "ull".toList, rfl, by decide, by decide⟩
  read fuel rest enough _ := by
    obtain ⟨less, rfl⟩ := exists_succ (by decide) enough
    exact readValue_name (by decide) (by decide) (by decide)

theorem legible_bool (b : Bool) : Legible (.bool b) (if b then "true" else "false").toList where
  written := rfl
  ascii := by cases b <;> exact Text.forall_mem_of_all (by decide)
  begins := by
    cases b with
    | false => exact ⟨'f', "alse".toList, rfl, by decide, by decide⟩
    | true => exact ⟨'t', "rue".toList, rfl, by decide, by decide⟩
  read fuel rest enough _ := by
    obtain ⟨less, rfl⟩ := exists_succ (by cases b <;> decide) enough
    cases b with
    | false => exact readValue_name (by decide) (by decide) (by decide)
    | true => exact readValue_name (by decide) (by decide) (by decide)

/-- What the text of an integer begins with begins nothing else. -/
theorem exists_first (n : Int) :
    ∃ c more, (toString n).toList = c :: more ∧ (c.isDigit = true ∨ c = '-') := by
  have some : (toString n).toList ≠ [] := by
    rw [toList_toString]
    exact List.append_ne_nil_of_right_ne_nil _ Nat.toDigits_ne_nil
  obtain ⟨c, more, e⟩ := List.exists_cons_of_ne_nil some
  exact ⟨c, more, e, isDigit_or_minus (by rw [e]; exact List.mem_cons_self)⟩

theorem ne_of_first {c d : Char} (first : c.isDigit = true ∨ c = '-')
    (other : d.isDigit = false ∧ d ≠ '-') : c ≠ d := by
  rintro rfl
  rcases first with digit | minus
  · rw [other.1] at digit
    cases digit
  · exact other.2 minus

theorem legible_int {n : Int} (writable : isWritable n = true) :
    Legible (.int n) (toString n).toList where
  written := by simp only [write, writeAtom, writeInt, writable, if_true]
  ascii c hc := by
    rcases isDigit_or_minus hc with digit | rfl
    · have bounds := digit_bounds digit
      omega
    · decide
  begins := by
    obtain ⟨c, more, e, first⟩ := exists_first n
    have visible : isSpace c = false := by
      simp only [isSpace, Bool.or_eq_false_iff, decide_eq_false_iff_not]
      exact ⟨⟨⟨ne_of_first first (by decide), ne_of_first first (by decide)⟩,
        ne_of_first first (by decide)⟩, ne_of_first first (by decide)⟩
    exact ⟨c, more, e, visible, ne_of_first first (by decide)⟩
  read fuel rest enough stops := by
    obtain ⟨c, more, e, first⟩ := exists_first n
    obtain ⟨less, rfl⟩ := exists_succ (by rw [e]; exact Nat.succ_pos _) enough
    have number := readNumber_toString writable stops
    rw [e, List.cons_append] at number ⊢
    rw [readValue_name (ne_of_first first (by decide)) (ne_of_first first (by decide))
      (ne_of_first first (by decide)), readName_number (ne_of_first first (by decide))
      (ne_of_first first (by decide)) (ne_of_first first (by decide)), number]

theorem legible_text (s : String) : Legible (.text s) (writeText s.toList) where
  written := rfl
  ascii := ascii_writeText s.toList
  begins := ⟨'"', _, rfl, by decide, by decide⟩
  read fuel rest enough _ := by
    obtain ⟨less, rfl⟩ := exists_succ (Nat.succ_pos _) enough
    rw [writeText, List.append_assoc, List.cons_append, List.singleton_append, readValue,
      readText_escaped]
    rfl

/-! ### Lists -/

theorem listed_singleton (p : List Char) : listed [p] = p := by simp [listed]

theorem listed_cons_cons (p q : List Char) (ps : List (List Char)) :
    listed (p :: q :: ps) = p ++ ',' :: ' ' :: listed (q :: ps) := by
  simp [listed]

theorem exists_listed (p : List Char) (ps : List (List Char)) :
    ∃ tail, listed (p :: ps) = p ++ tail := by
  cases ps with
  | nil => exact ⟨[], by rw [listed_singleton, List.append_nil]⟩
  | cons q ps => exact ⟨_, listed_cons_cons p q ps⟩

/-- What stands for some things one by one is ASCII if each part is. -/
theorem ascii_listed {α : Type} {R : α → List Char → Prop} {xs : List α} {parts : List (List Char)}
    (h : List.Forall₂ R xs parts) (ascii : ∀ x p, R x p → ∀ c ∈ p, c.toNat < 0x80) :
    ∀ c ∈ listed parts, c.toNat < 0x80 := by
  induction h with
  | nil => exact List.forall_mem_nil _
  | @cons x p xs parts first more ih =>
    cases more with
    | nil =>
      rw [listed_singleton]
      exact ascii x p first
    | cons second more =>
      rw [listed_cons_cons]
      refine List.forall_mem_append.2 ⟨ascii x p first, ?_⟩
      exact List.forall_mem_cons.2 ⟨by decide, List.forall_mem_cons.2 ⟨by decide, ih⟩⟩

theorem stops_cons {c : Char} (h : c = ',' ∨ c = ']' ∨ c = '\x7d') : Stops (c :: rest) := by
  intro d hd
  cases hd
  exact h

section

variable {items : List Value} {parts : List (List Char)} {tail : List Char}

/-- The last item of a list is followed by the bracket. -/
theorem readItems_last (h : readValue fuel cs = .ok (v, ']' :: rest)) :
    readItems (fuel + 1) cs = .ok ([v], rest) := by
  rw [readItems, h]
  rfl

/-- Behind any other item stand a comma, a space and the items that follow. -/
theorem readItems_more (h : readValue fuel cs = .ok (v, ',' :: ' ' :: rest))
    (unspaced : skipSpace rest = rest) (others : readItems fuel rest = .ok (items, tail)) :
    readItems (fuel + 1) cs = .ok (v :: items, tail) := by
  have skipped : skipSpace (' ' :: rest) = rest := unspaced
  rw [readItems, h]
  show (readItems fuel (skipSpace (' ' :: rest)) >>= _) = _
  rw [skipped, others]
  rfl

/-- Legible items are written one by one. -/
theorem writeItems_legible (h : List.Forall₂ Legible items parts) : writeItems items = .ok parts := by
  induction h with
  | nil => rfl
  | cons first _ ih =>
    rw [writeItems, first.written, ih]
    rfl

/-- No space is skipped in front of legible items. -/
theorem skipSpace_items {p : List Char} (h : Legible v p) (parts : List (List Char)) :
    skipSpace (listed (p :: parts) ++ rest) = listed (p :: parts) ++ rest := by
  obtain ⟨tail, e⟩ := exists_listed p parts
  rw [e, List.append_assoc, h.skipSpace_append]

theorem listed_ne_bracket {p : List Char} (h : Legible v p) (parts : List (List Char)) :
    listed (p :: parts) ++ rest ≠ ']' :: tail := by
  obtain ⟨more, e⟩ := exists_listed p parts
  obtain ⟨c, cs, rfl, _, other⟩ := h.begins
  rw [e]
  exact fun same => other (List.cons.inj same).1

/-- Items are read up to the bracket that was written behind them. -/
theorem readItems_listed (h : List.Forall₂ Legible items parts) (some : items ≠ [])
    (enough : (listed parts).length + 1 ≤ fuel) :
    readItems fuel (listed parts ++ ']' :: rest) = .ok (items, rest) := by
  -- each item takes some of the fuel, and stands in front of the bracket or of a comma
  induction h generalizing fuel with
  | nil => exact absurd rfl some
  | @cons v p items parts first more ih =>
    obtain ⟨less, rfl⟩ := exists_succ (Nat.succ_pos _) enough
    cases more with
    | nil =>
      rw [listed_singleton] at enough ⊢
      exact readItems_last (first.read less _ (by omega) (stops_cons (.inr (.inl rfl))))
    | @cons w q items parts second more =>
      rw [listed_cons_cons] at enough ⊢
      rw [List.length_append, List.length_cons, List.length_cons] at enough
      rw [List.append_assoc]
      exact readItems_more (first.read less _ (by omega) (stops_cons (.inl rfl)))
        (skipSpace_items second parts) (ih (List.cons_ne_nil _ _) (by omega))

/-- A list of legible items is legible. -/
theorem legible_list (h : List.Forall₂ Legible items parts) :
    Legible (.list items) ('[' :: listed parts ++ [']']) where
  written := by
    rw [write, writeItems_legible h]
    rfl
  ascii := List.forall_mem_append.2
    ⟨List.forall_mem_cons.2 ⟨by decide, ascii_listed h fun _ _ => Legible.ascii⟩,
      Text.forall_mem_of_all (by decide)⟩
  begins := ⟨'[', _, rfl, by decide, by decide⟩
  read fuel rest enough _ := by
    rw [List.length_append, List.length_cons, List.length_singleton] at enough
    obtain ⟨less, rfl⟩ := exists_succ (Nat.succ_pos _) enough
    have read (some : items ≠ []) (enough : (listed parts).length + 1 ≤ less) :
        readItems less (listed parts ++ ']' :: rest) = .ok (items, rest) :=
      readItems_listed h some enough
    rw [List.append_assoc, List.cons_append, List.singleton_append, readValue]
    cases h with
    | nil => rfl
    | @cons v p items parts first more =>
      rw [skipSpace_items first]
      split
      · next bracket => exact absurd bracket (listed_ne_bracket first parts)
      · rw [read (List.cons_ne_nil _ _) (by omega)]
        rfl

end

/-! ### Objects -/

/-- An entry of an object and its text. -/
def Inscribed (f : String × Value) (text : List Char) : Prop :=
  ∃ part, Legible f.2 part ∧ text = writeText f.1.toList ++ ':' :: ' ' :: part

section

variable {f : String × Value} {fields before : List (String × Value)} {texts : List (List Char)}
  {text : List Char}

theorem Inscribed.ascii (h : Inscribed f text) : ∀ c ∈ text, c.toNat < 0x80 := by
  obtain ⟨part, legible, rfl⟩ := h
  refine List.forall_mem_append.2 ⟨ascii_writeText f.1.toList, ?_⟩
  exact List.forall_mem_cons.2 ⟨by decide, List.forall_mem_cons.2 ⟨by decide, legible.ascii⟩⟩

theorem writeEntries_inscribed (h : List.Forall₂ Inscribed fields texts) :
    writeEntries (fields.map entry) = .ok texts := by
  induction h with
  | nil => rfl
  | cons first _ ih =>
    obtain ⟨part, legible, rfl⟩ := first
    rw [List.map_cons, entry, writeEntries, legible.written, ih]
    rfl

/-- A key that was not there before comes last. -/
theorem put_entry {key : String} (new : key ∉ before.map Prod.fst) (v : Value) :
    put key v (before.map entry) = (before ++ [(key, v)]).map entry := by
  induction before with
  | nil => rfl
  | cons f before ih =>
    rw [List.map_cons, List.mem_cons, not_or] at new
    have other : (Value.text f.1).isText key = false := decide_eq_false (Ne.symm new.1)
    rw [List.map_cons, entry, put, other, if_neg Bool.false_ne_true, ih new.2]
    rfl

/-- What is read of an entry: its key is put to the entries before, and what comes behind its
value decides how it goes on. -/
theorem readEntries_inscribed (h : Inscribed f text) (enough : text.length ≤ fuel)
    (stops : Stops rest) (entries : List (Value × Value)) :
    readEntries (fuel + 1) entries (text ++ rest) =
      match skipSpace rest with
      | '\x7d' :: rest => .ok (put f.1 f.2 entries, rest)
      | ',' :: rest => readEntries fuel (put f.1 f.2 entries) (skipSpace rest)
      | _ => refuse := by
  obtain ⟨part, legible, rfl⟩ := h
  rw [List.length_append, List.length_cons, List.length_cons] at enough
  have value : readValue fuel (skipSpace (' ' :: (part ++ rest))) = .ok (f.2, rest) := by
    have skipped : skipSpace (' ' :: (part ++ rest)) = part ++ rest := legible.skipSpace_append
    rw [skipped, legible.read fuel rest (by omega) stops]
  rw [writeText, List.append_assoc, List.append_assoc, List.cons_append, List.singleton_append,
    readEntries, readText_escaped]
  show (readValue fuel (skipSpace (' ' :: (part ++ rest))) >>= _) = _
  rw [value]
  rfl

/-- The text of an entry begins with a quote. -/
theorem Inscribed.begins (h : Inscribed f text) : ∃ more, text = '"' :: more := by
  obtain ⟨part, _, rfl⟩ := h
  exact ⟨_, rfl⟩

theorem skipSpace_entries (h : Inscribed f text) (texts : List (List Char)) :
    skipSpace (listed (text :: texts) ++ rest) = listed (text :: texts) ++ rest := by
  obtain ⟨tail, e⟩ := exists_listed text texts
  obtain ⟨more, rfl⟩ := h.begins
  rw [e]
  rfl

/-- Entries are read up to the brace that was written behind them, and stand in order behind those
that were there before. -/
theorem readEntries_listed (before : List (String × Value))
    (h : List.Forall₂ Inscribed fields texts) (some : fields ≠ [])
    (distinct : ((before ++ fields).map Prod.fst).Nodup) (enough : (listed texts).length + 1 ≤ fuel) :
    readEntries fuel (before.map entry) (listed texts ++ '\x7d' :: rest) =
      .ok ((before ++ fields).map entry, rest) := by
  -- what was read so far grows by an entry whose key is new to it
  induction h generalizing fuel before with
  | nil => exact absurd rfl some
  | @cons f text fields texts first more ih =>
    obtain ⟨less, rfl⟩ := exists_succ (Nat.succ_pos _) enough
    have new : f.1 ∉ before.map Prod.fst := by
      rw [List.map_append, List.map_cons] at distinct
      exact fun old => (List.nodup_append.1 distinct).2.2 _ old _ List.mem_cons_self rfl
    have placed : put f.1 f.2 (before.map entry) = (before ++ [f]).map entry := put_entry new f.2
    cases more with
    | nil =>
      rw [listed_singleton] at enough ⊢
      rw [readEntries_inscribed first (by omega) (stops_cons (.inr (.inr rfl))), placed]
      rfl
    | @cons g q fields texts second more =>
      rw [listed_cons_cons] at enough ⊢
      rw [List.length_append, List.length_cons, List.length_cons] at enough
      have others : readEntries less ((before ++ [f]).map entry)
          (listed (q :: texts) ++ '\x7d' :: rest) =
            .ok ((before ++ [f] ++ g :: fields).map entry, rest) :=
        ih _ (List.cons_ne_nil _ _) (by rwa [List.append_assoc, List.singleton_append]) (by omega)
      rw [List.append_assoc, List.cons_append, List.cons_append,
        readEntries_inscribed first (by omega) (stops_cons (.inl rfl)), placed]
      show readEntries less _ (skipSpace (' ' :: (listed (q :: texts) ++ '\x7d' :: rest))) = _
      have skipped : skipSpace (' ' :: (listed (q :: texts) ++ '\x7d' :: rest)) =
          listed (q :: texts) ++ '\x7d' :: rest := skipSpace_entries second texts
      rw [skipped, others, List.append_assoc, List.singleton_append]

/-- An object of legible values with distinct keys is legible. -/
theorem legible_object (h : List.Forall₂ Inscribed fields texts)
    (distinct : (fields.map Prod.fst).Nodup) :
    Legible (.ofFields fields) ('\x7b' :: listed texts ++ ['\x7d']) where
  written := by
    show write (.object (fields.map entry)) = _
    rw [write, writeEntries_inscribed h]
    rfl
  ascii := List.forall_mem_append.2
    ⟨List.forall_mem_cons.2 ⟨by decide, ascii_listed h fun _ _ => Inscribed.ascii⟩,
      Text.forall_mem_of_all (by decide)⟩
  begins := ⟨'\x7b', _, rfl, by decide, by decide⟩
  read fuel rest enough _ := by
    rw [List.length_append, List.length_cons, List.length_singleton] at enough
    obtain ⟨less, rfl⟩ := exists_succ (Nat.succ_pos _) enough
    have read (some : fields ≠ []) (enough : (listed texts).length + 1 ≤ less) :
        readEntries less [] (listed texts ++ '\x7d' :: rest) = .ok (fields.map entry, rest) :=
      readEntries_listed [] h some distinct enough
    rw [List.append_assoc, List.cons_append, List.singleton_append, readValue]
    cases h with
    | nil => rfl
    | @cons f text fields texts first more =>
      rw [skipSpace_entries first]
      obtain ⟨tail, e⟩ := exists_listed text texts
      obtain ⟨more, rfl⟩ := first.begins
      split
      · next brace =>
        rw [e] at brace
        cases (List.cons.inj brace).1
      · rw [read (List.cons_ne_nil _ _) (by omega)]
        rfl

end

/-! ### Plain values -/

theorem exists_forall₂ {α β : Type} {R : α → β → Prop} {xs : List α} (h : ∀ x ∈ xs, ∃ y, R x y) :
    ∃ ys, List.Forall₂ R xs ys := by
  induction xs with
  | nil => exact ⟨[], .nil⟩
  | cons x xs ih =>
    obtain ⟨⟨y, first⟩, others⟩ := List.forall_mem_cons.1 h
    obtain ⟨ys, more⟩ := ih others
    exact ⟨y :: ys, .cons first more⟩

/-- Every plain value has its JSON. -/
theorem Plain.legible (h : Plain v) : ∃ cs, Legible v cs := by
  induction h with
  | null => exact ⟨_, legible_null⟩
  | bool b => exact ⟨_, legible_bool b⟩
  | int writable => exact ⟨_, legible_int writable⟩
  | text s => exact ⟨_, legible_text s⟩
  | list _ ih =>
    obtain ⟨parts, parted⟩ := exists_forall₂ ih
    exact ⟨_, legible_list parted⟩
  | @object fields distinct _ ih =>
    obtain ⟨texts, inscribed⟩ : ∃ texts, List.Forall₂ Inscribed fields texts := by
      refine exists_forall₂ fun f hf => ?_
      obtain ⟨part, legible⟩ := ih f hf
      exact ⟨_, part, legible, rfl⟩
    exact ⟨_, legible_object inscribed distinct⟩

/-- A value is read from the whole of its JSON. -/
theorem Legible.readChars (h : Legible v cs) : readChars cs = .ok v := by
  have unspaced : skipSpace (cs ++ []) = cs ++ [] := h.skipSpace_append
  have read := h.read (2 * cs.length + 2) [] (by omega) fun c hc => by cases hc
  rw [List.append_nil] at unspaced read
  have unmarked : skipMark cs = cs := by
    obtain ⟨c, more, rfl, _⟩ := h.begins
    have small := h.ascii c List.mem_cons_self
    -- both marks begin with a character that is not ASCII
    rw [skipMark.eq_def]
    split
    · next e =>
      rw [(List.cons.inj e).1] at small
      exact absurd small (by decide)
    · next e =>
      rw [(List.cons.inj e).1] at small
      exact absurd small (by decide)
    · rfl
  unfold Json.readChars
  rw [unmarked, unspaced]
  dsimp only
  rw [read]
  rfl

/-- A value is read back from the bytes of its JSON. -/
theorem Legible.read_encode (h : Legible v cs) :
    Json.read (Utf8.encode (String.ofList cs)) = .ok v := by
  rw [Json.read, Utf8.decode?_encode, String.toList_ofList]
  exact h.readChars

end ExaWire.Json
