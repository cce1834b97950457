/-
ExaWire/Proofs/Parameter/Temporal.lean

What columns of days and of timestamps are sent.

A literal is the text of a pattern: the year, month and day of a day, and behind them the hour,
minute, second and microsecond of a timestamp, each with the width that its greatest value
needs.  So each number is read back from a place that is the same in all literals, and literals
are in the order of their numbers, which is that of the calendar.

`Chronological` says this of any way of writing things as texts; timestamps and days differ in
their places and in how their moments are counted.  The offset of a timestamp is no part of its
pattern, and the pattern begins with that of its day.
-/
import ExaWire.Parameter.Literal
import ExaWire.Proofs.Text.Pattern
import ExaWire.Proofs.Value.Calendar

namespace ExaWire

open Pattern

/-! ### Chronological texts -/

/-- A way of writing things that have moments: the texts have one length, each number stands at
its place, the texts are in the order of the moments, and so are the numbers. -/
structure Chronological {α : Type} (literal : α → Attempt String) (valid : α → Prop)
    (length : ℕ) (places : List (Place α)) (moment : α → ℕ) : Prop where
  written : ∀ a, valid a → ∃ text, literal a = .ok text ∧ text.length = length ∧
    ∀ q ∈ places, numberAt? q.start q.width text.toList = some (q.value a)
  ordered : ∀ a b x y, valid a → valid b → literal a = .ok x → literal b = .ok y →
    (x < y ↔ moment a < moment b)
  numbered : ∀ a b, valid a → valid b →
    (moment a < moment b ↔ places.map (·.value a) < places.map (·.value b))

theorem Chronological.of_pattern {α : Type} {literal : α → Attempt String} {valid : α → Prop}
    {moment : α → ℕ} (ps : List (Piece α))
    (rendered : ∀ a, literal a = .ok (String.ofList (render ps a)))
    (fits : ∀ a, valid a → ∀ p ∈ ps, p.Fits a)
    (numbered : ∀ a b, valid a → valid b →
      (moment a < moment b ↔ (places 0 ps).map (·.value a) < (places 0 ps).map (·.value b))) :
    Chronological literal valid (width ps) (places 0 ps) moment where
  written a ha := by
    refine ⟨_, rendered a, ?_, fun q hq => ?_⟩
    · rw [String.length_ofList, length_render (fits a ha)]
    · rw [String.toList_ofList]
      exact numberAt?_render (fits a ha) [] hq
  ordered a b x y ha hb hx hy := by
    rw [rendered, Except.ok.injEq] at hx hy
    subst hx hy
    show (String.ofList (render ps a)).toList < (String.ofList (render ps b)).toList ↔ _
    rw [String.toList_ofList, String.toList_ofList, numbered a b ha hb]
    exact render_lt_render_iff (fits a ha) (fits b hb) 0
  numbered := numbered

/-! ### The pattern of a day -/

namespace Date

/-- `year-month-day`. -/
def pattern : List (Piece Date) :=
  [.number 4 year, .mark '-', .number 2 month, .mark '-', .number 2 day]

/-- Where the numbers of a day stand. -/
def places : List (Place Date) := [⟨0, 4, year⟩, ⟨5, 2, month⟩, ⟨8, 2, day⟩]

theorem literal_eq_render (d : Date) : d.literal = render pattern d := by
  simp only [literal, render, pattern, Piece.text, List.flatMap_cons, List.flatMap_nil,
    List.append_assoc, List.cons_append, List.nil_append, List.append_nil]

theorem IsValid.fits {d : Date} (h : d.IsValid) : ∀ p ∈ pattern, p.Fits d := by
  obtain ⟨year, month, day⟩ := h
  have short := monthDays_le d.year d.month
  simp only [pattern, List.forall_mem_cons, Piece.Fits]
  refine ⟨?_, trivial, ?_, trivial, ?_, List.forall_mem_nil _⟩ <;> omega

end Date

/-! ### The pattern of a timestamp -/

namespace Timestamp

/-- `year-month-day hour:minute:second.microsecond`. -/
def pattern : List (Piece Timestamp) :=
  [.number 4 (·.date.year), .mark '-', .number 2 (·.date.month), .mark '-',
    .number 2 (·.date.day), .mark ' ', .number 2 hour, .mark ':', .number 2 minute, .mark ':',
    .number 2 second, .mark '.', .number 6 microsecond]

/-- Where the numbers of a timestamp stand. -/
def places : List (Place Timestamp) :=
  [⟨0, 4, (·.date.year)⟩, ⟨5, 2, (·.date.month)⟩, ⟨8, 2, (·.date.day)⟩, ⟨11, 2, hour⟩,
    ⟨14, 2, minute⟩, ⟨17, 2, second⟩, ⟨20, 6, microsecond⟩]

theorem literal_eq_render (t : Timestamp) : t.literal = render pattern t := by
  simp only [literal, clock, Date.literal, render, pattern, Piece.text, List.flatMap_cons,
    List.flatMap_nil, List.append_assoc, List.cons_append, List.nil_append, List.append_nil]

theorem IsValid.fits {t : Timestamp} (h : t.IsValid) : ∀ p ∈ pattern, p.Fits t := by
  obtain ⟨⟨year, month, day⟩, hour, minute, second, microsecond⟩ := h
  have short := monthDays_le t.date.year t.date.month
  simp only [pattern, List.forall_mem_cons, Piece.Fits]
  refine ⟨?_, trivial, ?_, trivial, ?_, trivial, ?_, trivial, ?_, trivial, ?_, trivial, ?_,
    List.forall_mem_nil _⟩ <;> omega

/-- The literal of a timestamp begins with the ten characters of its day. -/
theorem take_literal {t : Timestamp} (h : t.IsValid) : t.literal.take 10 = t.date.literal := by
  have ten : t.date.literal.length = 10 := by
    rw [Date.literal_eq_render, length_render h.date.fits]
    rfl
  rw [literal, List.append_assoc, List.take_left' ten]

end Timestamp

/-! ### Literals -/

namespace Parameter

/-- Literals of timestamps tell what the wall clock shows, whatever the offset, and those of
days the day; both are in the order of time, and the first begin with the second. -/
theorem literals_chronological :
    Chronological (fun t => timestampLiteral (.timestamp t)) Timestamp.IsValid 26
      Timestamp.places Timestamp.wallClock ∧
    Chronological (fun d => dateLiteral (.date d)) Date.IsValid 10 Date.places Date.ordinal ∧
    (∀ (t : Timestamp) (offset : Option ℤ),
      timestampLiteral (.timestamp { t with offset }) = timestampLiteral (.timestamp t)) ∧
    ∀ (t : Timestamp) (text : String), t.IsValid → timestampLiteral (.timestamp t) = .ok text →
      dateLiteral (.date t.date) = .ok (String.ofList (text.toList.take 10)) ∧
      dateLiteral (.timestamp t) = dateLiteral (.date t.date) := by
  refine ⟨?_, ?_, fun t offset => rfl, fun t text valid written => ⟨?_, rfl⟩⟩
  · exact .of_pattern Timestamp.pattern
      (fun t => congrArg (Except.ok ∘ String.ofList) t.literal_eq_render)
      (fun _ valid => valid.fits) fun _ _ => Timestamp.wallClock_lt_iff
  · exact .of_pattern Date.pattern
      (fun d => congrArg (Except.ok ∘ String.ofList) d.literal_eq_render)
      (fun _ valid => valid.fits) fun _ _ => Date.ordinal_lt_iff
  · cases written
    rw [String.toList_ofList, Timestamp.take_literal valid]
    rfl

/-- A time with a year of three digits and few microseconds, far west. -/
def lateInYear999 : Timestamp := ⟨⟨999, 12, 31⟩, 23, 59, 59, 789, some (-720)⟩

/-- A time with a year of four digits, far east: in universal time it is the earlier one. -/
def firstOfYear1000 : Timestamp := ⟨⟨1000, 1, 1⟩, 0, 0, 0, 0, some 840⟩

/-- A year of three digits comes before one of four, whatever universal time is. -/
theorem year999_before_year1000 :
    lateInYear999.IsValid ∧ firstOfYear1000.IsValid ∧
    timestampLiteral (.timestamp lateInYear999) = .ok "0999-12-31 23:59:59.000789" ∧
    timestampLiteral (.timestamp firstOfYear1000) = .ok "1000-01-01 00:00:00.000000" ∧
    lateInYear999.wallClock < firstOfYear1000.wallClock ∧
    "0999-12-31 23:59:59.000789" < "1000-01-01 00:00:00.000000" := by
  have valid : lateInYear999.IsValid := by decide
  have valid' : firstOfYear1000.IsValid := by decide
  have written : timestampLiteral (.timestamp lateInYear999) = .ok "0999-12-31 23:59:59.000789" :=
    rfl
  have written' : timestampLiteral (.timestamp firstOfYear1000) = .ok "1000-01-01 00:00:00.000000" :=
    rfl
  have earlier : lateInYear999.wallClock < firstOfYear1000.wallClock := by decide
  exact ⟨valid, valid', written, written', earlier,
    (literals_chronological.1.ordered _ _ _ _ valid valid' written written').2 earlier⟩

end Parameter

end ExaWire
