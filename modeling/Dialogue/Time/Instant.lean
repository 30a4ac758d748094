/-! # Instants of the calendar

A point of time in UTC, by the proleptic Gregorian calendar with a year zero. The second may be 60,
for a leap second, and is divided into nanoseconds. -/

namespace Dialogue.Time

/-- A day of the calendar. -/
structure Date where
  year : Int
  month : Nat
  day : Nat
  deriving DecidableEq, Repr

/-- A point of time in UTC. -/
structure Instant where
  date : Date
  hour : Nat
  minute : Nat
  second : Nat
  nanosecond : Nat
  deriving DecidableEq, Repr

/-- Every fourth year is a leap year, except every hundredth that is no four-hundredth. -/
def isLeapYear (year : Int) : Bool :=
  year % 4 == 0 && (year % 100 != 0 || year % 400 == 0)

/-- The number of days of a month. -/
def daysInMonth (year : Int) : Nat → Nat
  | 2 => if isLeapYear year then 29 else 28
  | 4 | 6 | 9 | 11 => 30
  | _ => 31

/-- The first year of the calendar. -/
def firstYear : Int := -262143

/-- The last year of the calendar. -/
def lastYear : Int := 262142

/-- The date exists. -/
def Date.Valid (d : Date) : Prop :=
  firstYear ≤ d.year ∧ d.year ≤ lastYear ∧ 1 ≤ d.month ∧ d.month ≤ 12 ∧
    1 ≤ d.day ∧ d.day ≤ daysInMonth d.year d.month

instance (d : Date) : Decidable d.Valid := by unfold Date.Valid; infer_instance

/-- The day after. -/
def Date.next (d : Date) : Date :=
  if d.day < daysInMonth d.year d.month then { d with day := d.day + 1 }
  else if d.month < 12 then ⟨d.year, d.month + 1, 1⟩
  else ⟨d.year + 1, 1, 1⟩

/-- The day before. -/
def Date.previous (d : Date) : Date :=
  if 1 < d.day then { d with day := d.day - 1 }
  else if 1 < d.month then ⟨d.year, d.month - 1, daysInMonth d.year (d.month - 1)⟩
  else ⟨d.year - 1, 12, 31⟩

/-- The fields of a point of time are within their ranges. -/
def Instant.Valid (t : Instant) : Prop :=
  t.date.Valid ∧ t.hour < 24 ∧ t.minute < 60 ∧ t.second ≤ 60 ∧ t.nanosecond < 1000000000

instance (t : Instant) : Decidable t.Valid := by unfold Instant.Valid; infer_instance

/-- The number of minutes of a day. -/
def minutesPerDay : Int := 24 * 60

/-- The point of time whose local reading, `offset` minutes ahead of UTC, is `t`. An offset is less
than a day, so the date moves by one day at most. -/
def Instant.behind (t : Instant) (offset : Int) : Instant :=
  let minutes : Int := t.hour * 60 + t.minute - offset
  let date :=
    if minutes < 0 then t.date.previous
    else if minutesPerDay ≤ minutes then t.date.next
    else t.date
  let ofDay := (minutes % minutesPerDay).toNat
  { t with date, hour := ofDay / 60, minute := ofDay % 60 }

end Dialogue.Time
