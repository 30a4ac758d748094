import Dialogue.Time.Instant
import Dialogue.Text.Digit

/-! # Writing an instant

An instant is written by RFC 3339 with the zone `Z`: four digits for the year, or a sign and at
least four digits outside the years 0 to 9999, and as many groups of three digits of the fraction
of the second as it needs. -/

namespace Dialogue.Time

open Text (padded)

/-- The year. -/
def writeYear (year : Int) : List Char :=
  if 0 ≤ year ∧ year ≤ 9999 then padded 4 year.toNat
  else (if year < 0 then '-' else '+') :: padded 4 year.natAbs

/-- The fraction of a second, with its point. -/
def writeFraction (nanosecond : Nat) : List Char :=
  if nanosecond = 0 then []
  else if nanosecond % 1000000 = 0 then '.' :: padded 3 (nanosecond / 1000000)
  else if nanosecond % 1000 = 0 then '.' :: padded 6 (nanosecond / 1000)
  else '.' :: padded 9 nanosecond

/-- The instant. -/
def Instant.write (t : Instant) : List Char :=
  writeYear t.date.year ++ '-' :: padded 2 t.date.month ++ '-' :: padded 2 t.date.day ++
    'T' :: padded 2 t.hour ++ ':' :: padded 2 t.minute ++ ':' :: padded 2 t.second ++
    writeFraction t.nanosecond ++ ['Z']

/-- The text of an instant. -/
def Instant.text (t : Instant) : String := String.ofList t.write

end Dialogue.Time
