/-!
# ChainApi.Calendar

Dates of the proleptic Gregorian calendar and points in time, as a document
may hold them in place of text.

* `Date.ofParts?`, `Timestamp.ofParts?` — only real dates and times are built;
* `Date.iso`, `Timestamp.iso` — their written forms.
-/

namespace ChainApi

namespace Calendar

/-- Is this a leap year? -/
def isLeap (year : Nat) : Bool := year % 4 == 0 && (year % 100 != 0 || year % 400 == 0)

/-- The number of days of a month; no month beyond the twelfth has any. -/
def daysInMonth (year month : Nat) : Nat :=
  match month with
  | 2 => if isLeap year then 29 else 28
  | 4 | 6 | 9 | 11 => 30
  | 1 | 3 | 5 | 7 | 8 | 10 | 12 => 31
  | _ => 0

/-- A number filled with zeros on the left to at least the given width. -/
def padded (width n : Nat) : String :=
  let ds := Nat.toDigits 10 n
  String.ofList (List.replicate (width - ds.length) '0' ++ ds)

end Calendar

open Calendar

/-- A calendar day. -/
structure Date where
  year : Nat
  month : Nat
  day : Nat
  year_pos : 0 < year
  day_pos : 0 < day
  day_le : day ≤ daysInMonth year month
  deriving DecidableEq

namespace Date

/-- The day with these parts, if there is one. -/
def ofParts? (year month day : Nat) : Option Date :=
  if h : 0 < year ∧ 0 < day ∧ day ≤ daysInMonth year month then
    some ⟨year, month, day, h.1, h.2.1, h.2.2⟩
  else none

/-- The form `2020-01-02`. -/
def iso (d : Date) : String :=
  padded 4 d.year ++ "-" ++ padded 2 d.month ++ "-" ++ padded 2 d.day

/-- The number of days from the first day of the year 1. -/
def dayNumber (d : Date) : Nat :=
  let y := d.year - 1
  let before := (List.range (d.month - 1)).foldl (fun n m => n + daysInMonth d.year (m + 1)) 0
  365 * y + y / 4 - y / 100 + y / 400 + before + (d.day - 1)

end Date

/-- A time of day on a calendar day, at a known or unknown offset from universal
time. -/
structure Timestamp where
  date : Date
  hour : Nat
  minute : Nat
  second : Nat
  microsecond : Nat
  /-- The offset from universal time in minutes, less than a day either way. -/
  offset : Option Int
  hour_lt : hour < 24
  minute_lt : minute < 60
  second_lt : second < 60
  microsecond_lt : microsecond < 1000000
  offset_lt : ∀ o ∈ offset, o.natAbs < 24 * 60
  deriving DecidableEq

namespace Timestamp

/-- The point in time with these parts, if there is one. -/
def ofParts? (date : Date) (hour minute second microsecond : Nat) (offset : Option Int) :
    Option Timestamp :=
  if h : hour < 24 ∧ minute < 60 ∧ second < 60 ∧ microsecond < 1000000 ∧
      ∀ o ∈ offset, o.natAbs < 24 * 60 then
    some ⟨date, hour, minute, second, microsecond, offset, h.1, h.2.1, h.2.2.1, h.2.2.2.1,
      h.2.2.2.2⟩
  else none

/-- An offset in the form `+05:30`. -/
def offsetText (o : Int) : String :=
  (if o < 0 then "-" else "+") ++ padded 2 (o.natAbs / 60) ++ ":" ++ padded 2 (o.natAbs % 60)

/-- The form `2020-01-02T03:04:05.000006+00:00`, with the given text between day
and time; a fraction and an offset are written only if there is one. -/
def isoWith (separator : String) (t : Timestamp) : String :=
  t.date.iso ++ separator ++ padded 2 t.hour ++ ":" ++ padded 2 t.minute ++ ":" ++
    padded 2 t.second ++
    (if t.microsecond = 0 then "" else "." ++ padded 6 t.microsecond) ++
    (t.offset.map offsetText).getD ""

/-- The form with a `T` between day and time. -/
def iso (t : Timestamp) : String := t.isoWith "T"

/-- Microseconds since the beginning of the year 1, in universal time if the
offset is known and in local time if not. -/
def instant (t : Timestamp) : Int :=
  (((t.date.dayNumber * 24 + t.hour) * 60 + t.minute : Nat) - t.offset.getD 0 : Int) * 60000000 +
    (t.second * 1000000 + t.microsecond : Nat)

end Timestamp

end ChainApi
