/-! # Calendar dates

Dates of the proleptic Gregorian calendar and their number, counted in days from 1970-01-01.

* **`Date`** with **`Date.IsValid`**: a year, a month 1 to 12 and a day the month has.
* **`Date.dayNumber`** and **`Date.ofDayNumber`**: the two ways between a date and its number. -/

namespace ClusterMetrics.Calendar

/-- A **leap year**: divisible by four, but by a hundred only if by four hundred. -/
def isLeapYear (year : Int) : Bool := year % 4 == 0 && (year % 100 != 0 || year % 400 == 0)

/-- The number of days of a month. -/
def monthLength (year : Int) (month : Nat) : Nat :=
  if month = 2 then if isLeapYear year then 29 else 28
  else if month = 4 ∨ month = 6 ∨ month = 9 ∨ month = 11 then 30
  else 31

/-- A **calendar date**. -/
structure Date where
  year : Int
  month : Nat
  day : Nat
  deriving DecidableEq, Repr

namespace Date

/-- A date that the calendar has. -/
def IsValid (d : Date) : Prop :=
  1 ≤ d.month ∧ d.month ≤ 12 ∧ 1 ≤ d.day ∧ d.day ≤ monthLength d.year d.month

instance (d : Date) : Decidable d.IsValid := by unfold IsValid; infer_instance

/-- The days from 1970-01-01 to a date. Years are counted from March, so that the leap day is the
last of its year, in cycles of four hundred years. -/
def dayNumber (d : Date) : Int :=
  let year := if d.month ≤ 2 then d.year - 1 else d.year
  let month : Int := (d.month + 9) % 12
  let cycle := year / 400
  let yearOfCycle := year % 400
  let dayOfYear := (153 * month + 2) / 5 + d.day - 1
  cycle * 146097 + yearOfCycle * 365 + yearOfCycle / 4 - yearOfCycle / 100 + dayOfYear - 719468

/-- The date that lies a number of days after 1970-01-01. -/
def ofDayNumber (n : Int) : Date :=
  let shifted := n + 719468
  let cycle := shifted / 146097
  let dayOfCycle := shifted % 146097
  let yearOfCycle :=
    (dayOfCycle - dayOfCycle / 1460 + dayOfCycle / 36524 - dayOfCycle / 146096) / 365
  let dayOfYear := dayOfCycle - (365 * yearOfCycle + yearOfCycle / 4 - yearOfCycle / 100)
  let month := (5 * dayOfYear + 2) / 153
  let day := dayOfYear - (153 * month + 2) / 5 + 1
  let monthOfYear := if month < 10 then month + 3 else month - 9
  let year := cycle * 400 + yearOfCycle + (if monthOfYear ≤ 2 then 1 else 0)
  ⟨year, monthOfYear.toNat, day.toNat⟩

/-- The day of the week of a day number, Sunday being 0. -/
def weekday (n : Int) : Int := (n + 4) % 7

end Date

end ClusterMetrics.Calendar
