namespace Overlay.Text

/-!
# Moments

A moment is a number of seconds since the beginning of 1970, leap seconds not counted, and is
written by calendar and clock as in `2024-02-29T12:30:00Z`.

Years are counted from March, so that a leap day is the last day of its year, and in groups of
400 years, which all have the same number of days.
-/

/-- Days from the first of March of the year 0 to the beginning of 1970. -/
def daysBefore1970 : Nat := 719468

/-- Days in 400 years. -/
def daysOfEra : Nat := 146097

/-- A date. -/
structure Date where
  /-- The year. -/
  year : Nat
  /-- The month, from 1 to 12. -/
  month : Nat
  /-- The day of the month, from 1. -/
  day : Nat
deriving DecidableEq, Inhabited, Repr

/-- The date of a day, counted from the beginning of 1970. -/
def Date.ofDay (day : Nat) : Date :=
  let days := day + daysBefore1970
  let dayOfEra := days % daysOfEra
  let yearOfEra := (dayOfEra - dayOfEra / 1460 + dayOfEra / 36524 - dayOfEra / 146096) / 365
  let dayOfYear := dayOfEra - (365 * yearOfEra + yearOfEra / 4 - yearOfEra / 100)
  let monthFromMarch := (5 * dayOfYear + 2) / 153
  let month := if monthFromMarch < 10 then monthFromMarch + 3 else monthFromMarch - 9
  { year := days / daysOfEra * 400 + yearOfEra + (if month ≤ 2 then 1 else 0)
    month
    day := dayOfYear - (153 * monthFromMarch + 2) / 5 + 1 }

/-- A number with zeros in front, at least `width` digits long. -/
def padded (width n : Nat) : String :=
  let digits := toString n
  "".pushn '0' (width - digits.length) ++ digits

/-- A date by the calendar. -/
def Date.text (d : Date) : String :=
  s!"{padded 4 d.year}-{padded 2 d.month}-{padded 2 d.day}"

/-- A moment by calendar and clock. -/
def moment (seconds : Nat) : String :=
  let date := (Date.ofDay (seconds / 86400)).text
  let clock := s!"{padded 2 (seconds / 3600 % 24)}:{padded 2 (seconds / 60 % 60)}"
  s!"{date}T{clock}:{padded 2 (seconds % 60)}Z"

end Overlay.Text
