/-
ExaWire/Value/Calendar.lean

Texts of days and times.  A literal pads every field to a fixed width, so that
the fields can be read back at fixed positions and literals sort like the times
they name.
-/
import ExaWire.Value.Basic

namespace ExaWire

/-- A natural in decimal, at least so many digits wide. -/
def padded (width n : Nat) : List Char :=
  let ds := Nat.toDigits 10 n
  List.replicate (width - ds.length) '0' ++ ds

/-- `year-month-day` with four, two and two digits. -/
def Date.literal (d : Date) : List Char :=
  padded 4 d.year ++ '-' :: padded 2 d.month ++ '-' :: padded 2 d.day

/-- `hour:minute:second` with two digits each. -/
def Timestamp.clock (t : Timestamp) : List Char :=
  padded 2 t.hour ++ ':' :: padded 2 t.minute ++ ':' :: padded 2 t.second

/-- The wall-clock fields of a timestamp down to the microsecond; the offset from
universal time has no part in it. -/
def Timestamp.literal (t : Timestamp) : List Char :=
  t.date.literal ++ ' ' :: t.clock ++ '.' :: padded 6 t.microsecond

/-- An offset from universal time as a sign, hours and minutes. -/
def offsetText (minutes : Int) : List Char :=
  let n := minutes.natAbs
  (if minutes < 0 then '-' else '+') :: padded 2 (n / 60) ++ ':' :: padded 2 (n % 60)

/-- The plain text of a timestamp: microseconds only if there are any, and the offset
if one is known. -/
def Timestamp.plain (t : Timestamp) : List Char :=
  t.date.literal ++ ' ' :: t.clock ++
    (if t.microsecond = 0 then [] else '.' :: padded 6 t.microsecond) ++
    (match t.offset with
      | none => []
      | some minutes => offsetText minutes)

/-- The days of a year before the first of each month, in a year that is no leap year. -/
def daysBefore : List Nat := [0, 31, 59, 90, 120, 151, 181, 212, 243, 273, 304, 334]

/-- Whether a year has 366 days. -/
def isLeapYear (year : Nat) : Bool := year % 4 = 0 && (year % 100 ≠ 0 || year % 400 = 0)

/-- The number of a day, counted from the first day of the year 1. -/
def Date.ordinal (d : Date) : Nat :=
  let before := d.year - 1
  before * 365 + before / 4 - before / 100 + before / 400 + daysBefore.getD (d.month - 1) 0 +
    (if 2 < d.month && isLeapYear d.year then 1 else 0) + d.day

/-- The microseconds from the first day of the year 1 to a time on the wall clock. -/
def Timestamp.wallClock (t : Timestamp) : Nat :=
  (((t.date.ordinal * 24 + t.hour) * 60 + t.minute) * 60 + t.second) * 1000000 + t.microsecond

/-- Whether two timestamps tell the same time: by the wall clock if neither has an offset,
in universal time if both have one. -/
def Timestamp.sameTime (s t : Timestamp) : Bool :=
  match s.offset, t.offset with
  | none, none => s.wallClock = t.wallClock
  | some m, some n => (s.wallClock : Int) - m * 60000000 = (t.wallClock : Int) - n * 60000000
  | _, _ => false

/-- Naturals separated by commas. -/
def commaSeparated (ns : List Nat) : List Char :=
  [',', ' '].intercalate (ns.map (Nat.toDigits 10))

/-- The constructor text of a day. -/
def Date.written (d : Date) : List Char :=
  "datetime.date(".toList ++ commaSeparated [d.year, d.month, d.day] ++ [')']

/-- The constructor text of an offset: days and the seconds of the day, of which zero
is left out. -/
def offsetWritten (minutes : Int) : List Char :=
  if minutes = 0 then ", tzinfo=datetime.timezone.utc".toList
  else
    let seconds := minutes * 60
    let days := seconds.fdiv 86400
    let rest := seconds.fmod 86400
    let parts := (if days = 0 then [] else ["days=" ++ toString days]) ++
      (if rest = 0 then [] else ["seconds=" ++ toString rest])
    (", tzinfo=datetime.timezone(datetime.timedelta(" ++ ", ".intercalate parts ++ "))").toList

/-- The constructor text of a timestamp: seconds are left out if they and the
microseconds are zero, microseconds if they are zero. -/
def Timestamp.written (t : Timestamp) : List Char :=
  let head := [t.date.year, t.date.month, t.date.day, t.hour, t.minute]
  let fields :=
    if t.microsecond ≠ 0 then head ++ [t.second, t.microsecond]
    else if t.second ≠ 0 then head ++ [t.second]
    else head
  "datetime.datetime(".toList ++ commaSeparated fields ++
    (match t.offset with
      | none => []
      | some minutes => offsetWritten minutes) ++ [')']

end ExaWire
