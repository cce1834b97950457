/-
ExaWire/Proofs/Value/Calendar.lean

Days and times of the calendar, and the order they come in.

`Date.ordinal` counts days and `Timestamp.wallClock` microseconds, both from the first day of
the year 1.  For days that there are, this is the order of year, month and day, each deciding
where those before it agree (`Date.ordinal_lt_iff`), and for times the order of the hours,
minutes, seconds and microseconds after that (`Timestamp.wallClock_lt_iff`).

The days of a month follow those of the month before it, and the days of a year those of the
year before it, so both are blocks.  That no month and no year overlaps the next one is where
the leap years have to be right.
-/
import ExaWire.Proofs.Number.Order
import ExaWire.Value.Calendar
import Mathlib.Data.List.Lex
import Mathlib.Tactic.IntervalCases

namespace ExaWire

/-! ### Days and times that there are -/

/-- The days of a month. -/
def monthDays (year month : ℕ) : ℕ :=
  if month = 2 then if isLeapYear year then 29 else 28
  else if month ∈ [4, 6, 9, 11] then 30
  else 31

theorem monthDays_le (year month : ℕ) : monthDays year month ≤ 31 := by
  unfold monthDays
  split
  · split <;> decide
  · split <;> decide

/-- The days of a year. -/
def yearDays (year : ℕ) : ℕ := if isLeapYear year then 366 else 365

/-- A day of the years that can be written with four digits. -/
structure Date.IsValid (d : Date) : Prop where
  year : 1 ≤ d.year ∧ d.year ≤ 9999
  month : 1 ≤ d.month ∧ d.month ≤ 12
  day : 1 ≤ d.day ∧ d.day ≤ monthDays d.year d.month

/-- A time of such a day, with any offset or none. -/
structure Timestamp.IsValid (t : Timestamp) : Prop where
  date : t.date.IsValid
  hour : t.hour < 24
  minute : t.minute < 60
  second : t.second < 60
  microsecond : t.microsecond < 1000000

instance (d : Date) : Decidable d.IsValid :=
  decidable_of_iff
    ((1 ≤ d.year ∧ d.year ≤ 9999) ∧ (1 ≤ d.month ∧ d.month ≤ 12) ∧
      1 ≤ d.day ∧ d.day ≤ monthDays d.year d.month)
    ⟨fun ⟨year, month, day⟩ => ⟨year, month, day⟩, fun ⟨year, month, day⟩ => ⟨year, month, day⟩⟩

instance (t : Timestamp) : Decidable t.IsValid :=
  decidable_of_iff
    (t.date.IsValid ∧ t.hour < 24 ∧ t.minute < 60 ∧ t.second < 60 ∧ t.microsecond < 1000000)
    ⟨fun ⟨date, hour, minute, second, microsecond⟩ => ⟨date, hour, minute, second, microsecond⟩,
      fun ⟨date, hour, minute, second, microsecond⟩ => ⟨date, hour, minute, second, microsecond⟩⟩

/-! ### Days -/

/-- The days before a year. -/
def yearStart (year : ℕ) : ℕ :=
  (year - 1) * 365 + (year - 1) / 4 - (year - 1) / 100 + (year - 1) / 400

/-- The days before a month in its year. -/
def monthStart (year month : ℕ) : ℕ :=
  daysBefore.getD (month - 1) 0 + if 2 < month && isLeapYear year then 1 else 0

theorem isLeapYear_iff (year : ℕ) :
    isLeapYear year = true ↔ year % 4 = 0 ∧ (year % 100 ≠ 0 ∨ year % 400 = 0) := by
  simp only [isLeapYear, Bool.and_eq_true, Bool.or_eq_true, decide_eq_true_eq]

theorem consecutive_years (last : ℕ) : Consecutive 1 last yearStart yearDays := by
  intro year some _
  have leap := isLeapYear_iff year
  -- from a year to the next, the quotients by 4, 100 and 400 together grow in leap years only
  unfold yearStart yearDays
  split
  · next yes =>
    rw [leap] at yes
    omega
  · next no =>
    rw [leap] at no
    omega

theorem consecutive_months (year : ℕ) : Consecutive 1 12 (monthStart year) (monthDays year) := by
  intro month some more
  unfold monthStart monthDays
  cases isLeapYear year <;> interval_cases month <;> decide

/-- A year does not end before its last month does. -/
theorem month_end_le_yearDays (year : ℕ) {month : ℕ} (some : 1 ≤ month) (twelve : month ≤ 12) :
    monthStart year month + monthDays year month ≤ yearDays year := by
  unfold monthStart monthDays yearDays
  cases isLeapYear year <;> interval_cases month <;> decide

namespace Date

variable {d e : Date}

/-- What tells a day, from the greatest to the least. -/
def numbers (d : Date) : List ℕ := [d.year, d.month, d.day]

/-- The days before a day in its year. -/
def dayOfYear (d : Date) : ℕ := monthStart d.year d.month + (d.day - 1)

theorem ordinal_eq (h : d.IsValid) : d.ordinal = yearStart d.year + d.dayOfYear + 1 := by
  have some := h.day.1
  unfold ordinal dayOfYear yearStart monthStart
  dsimp only
  omega

theorem IsValid.day_lt (h : d.IsValid) : d.day - 1 < monthDays d.year d.month := by
  have day := h.day
  omega

theorem IsValid.dayOfYear_lt (h : d.IsValid) : d.dayOfYear < yearDays d.year :=
  calc d.dayOfYear < monthStart d.year d.month + monthDays d.year d.month :=
        Nat.add_lt_add_left h.day_lt _
    _ ≤ yearDays d.year := month_end_le_yearDays d.year h.month.1 h.month.2

/-- Days are counted in the order of years, months and days. -/
theorem ordinal_lt_iff (hd : d.IsValid) (he : e.IsValid) :
    d.ordinal < e.ordinal ↔ d.numbers < e.numbers := by
  have years := (consecutive_years 9999).lt_iff hd.year he.year hd.dayOfYear_lt he.dayOfYear_lt
  have months (same : d.year = e.year) :
      d.dayOfYear < e.dayOfYear ↔ d.month < e.month ∨ d.month = e.month ∧ d.day < e.day := by
    have inYear : e.day - 1 < monthDays d.year e.month := by
      rw [same]
      exact he.day_lt
    have places := (consecutive_months d.year).lt_iff hd.month he.month hd.day_lt inYear
    have first := hd.day.1
    have first' := he.day.1
    unfold dayOfYear
    rw [← same, places]
    omega
  rw [ordinal_eq hd, ordinal_eq he, Nat.add_lt_add_iff_right, years, and_congr_right months]
  simp only [numbers, List.cons_lt_cons_iff, List.not_lt_nil, and_false, or_false]

theorem ordinal_inj (hd : d.IsValid) (he : e.IsValid) :
    d.ordinal = e.ordinal ↔ d.numbers = e.numbers := by
  rw [le_antisymm_iff, le_antisymm_iff, ← not_lt, ← not_lt, ← not_lt, ← not_lt,
    ordinal_lt_iff hd he, ordinal_lt_iff he hd]

end Date

/-! ### Times -/

namespace Timestamp

variable {s t : Timestamp}

/-- What a clock shows, from the greatest to the least. -/
def clockNumbers (t : Timestamp) : List ℕ := [t.hour, t.minute, t.second, t.microsecond]

/-- What tells a time on the wall clock. -/
def numbers (t : Timestamp) : List ℕ := t.date.numbers ++ t.clockNumbers

theorem wallClock_eq (t : Timestamp) :
    t.wallClock = t.date.ordinal * 86400000000 +
      (t.hour * 3600000000 + (t.minute * 60000000 + (t.second * 1000000 + t.microsecond))) := by
  unfold wallClock
  omega

/-- Microseconds are counted in the order of days and, within one day, of what the clock
shows. -/
theorem wallClock_lt_iff (hs : s.IsValid) (ht : t.IsValid) :
    s.wallClock < t.wallClock ↔ s.numbers < t.numbers := by
  obtain ⟨date, hours, minutes, seconds, micros⟩ := hs
  obtain ⟨date', hours', minutes', seconds', micros'⟩ := ht
  have same : s.date.numbers.length = t.date.numbers.length := rfl
  -- what is left of a unit of time is always less than one of it
  rw [numbers, numbers, append_lt_append_iff same, ← Date.ordinal_lt_iff date date',
    ← Date.ordinal_inj date date', wallClock_eq, wallClock_eq,
    mul_add_lt_mul_add_iff (by omega) (by omega), mul_add_lt_mul_add_iff (by omega) (by omega),
    mul_add_lt_mul_add_iff (by omega) (by omega), mul_add_lt_mul_add_iff micros micros']
  simp only [clockNumbers, List.cons_lt_cons_iff, List.not_lt_nil, and_false, or_false]

end Timestamp

end ExaWire
