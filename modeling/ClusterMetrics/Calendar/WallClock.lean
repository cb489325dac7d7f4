import ClusterMetrics.Calendar.Date
import ClusterMetrics.Decimal.Fixed

/-! # Wall clock readings

A wall clock reading is a date and a time of day, without saying where the clock hangs. It is
counted in seconds, or microseconds, from midnight of 1970-01-01 on the same clock.

* **`WallClock`**: the reading by its fields, `WallClock.micros` its count, `WallClock.ofMicros` back.
* **`Moment`**: a reading with the clock's offset from UTC, and the instant it denotes.
* **`dateTimeText`**, **`instantText`**: the written forms of a count of seconds. -/

namespace ClusterMetrics.Calendar

open ClusterMetrics.Decimal (paddedDigits)

/-- A **wall clock reading** to the microsecond. -/
structure WallClock where
  date : Date
  hour : Nat
  minute : Nat
  second : Nat
  micro : Nat
  deriving DecidableEq, Repr

namespace WallClock

/-- A reading that a clock can show, in the years 1 to 9999. -/
def IsValid (w : WallClock) : Prop :=
  1 ≤ w.date.year ∧ w.date.year ≤ 9999 ∧ w.date.IsValid ∧
    w.hour < 24 ∧ w.minute < 60 ∧ w.second < 60 ∧ w.micro < 1000000

instance (w : WallClock) : Decidable w.IsValid := by unfold IsValid; infer_instance

/-- The seconds of a reading since midnight of 1970-01-01 on its clock. -/
def seconds (w : WallClock) : Int :=
  w.date.dayNumber * 86400 + w.hour * 3600 + w.minute * 60 + w.second

/-- The microseconds of a reading since midnight of 1970-01-01 on its clock. -/
def micros (w : WallClock) : Int := w.seconds * 1000000 + w.micro

/-- The reading a number of microseconds after midnight of 1970-01-01. -/
def ofMicros (n : Int) : WallClock :=
  let second := n / 1000000
  let day := second / 86400
  let inDay := (second % 86400).toNat
  ⟨Date.ofDayNumber day, inDay / 3600, inDay / 60 % 60, inDay % 60, (n % 1000000).toNat⟩

/-- The reading a number of seconds after midnight of 1970-01-01. -/
def ofSeconds (n : Int) : WallClock := ofMicros (n * 1000000)

/-- Month and day as `-MM-DD`. -/
def monthDayText (w : WallClock) : String :=
  "-" ++ paddedDigits 2 w.date.month ++ "-" ++ paddedDigits 2 w.date.day

/-- The time of day as `HH:MM:SS`. -/
def timeText (w : WallClock) : String :=
  paddedDigits 2 w.hour ++ ":" ++ paddedDigits 2 w.minute ++ ":" ++ paddedDigits 2 w.second

/-- The reading as `YYYY-MM-DD HH:MM:SS.ffffff` with a year of four digits. -/
def fullText (w : WallClock) : String :=
  paddedDigits 4 w.date.year.toNat ++ w.monthDayText ++ " " ++ w.timeText ++ "." ++
    paddedDigits 6 w.micro

/-- The reading as `Y-MM-DD HH:MM:SS`, the year **without** leading zeros. -/
def dateTimeText (w : WallClock) : String :=
  toString w.date.year ++ w.monthDayText ++ " " ++ w.timeText

/-- The reading as `Y-MM-DDTHH:MM:SSZ`, the year without leading zeros. -/
def instantText (w : WallClock) : String :=
  toString w.date.year ++ w.monthDayText ++ "T" ++ w.timeText ++ "Z"

end WallClock

/-- A **moment**: a wall clock reading, with the clock's offset from UTC if it is known. -/
structure Moment where
  /-- Microseconds since midnight of 1970-01-01 on the clock. -/
  wall : Int
  /-- Microseconds that the clock is ahead of UTC. -/
  offset : Option Int
  deriving DecidableEq, Repr

namespace Moment

/-- The instant in microseconds since 1970-01-01 UTC; a clock of unknown offset counts as UTC. -/
def instant (m : Moment) : Int := m.wall - m.offset.getD 0

/-- Whether the offset is known. -/
def isAware (m : Moment) : Bool := m.offset.isSome

/-- The offset as `Z` or `+HH:MM`, and nothing if it is unknown. Seconds of an offset are not shown. -/
def offsetText (m : Moment) : String :=
  match m.offset with
  | none => ""
  | some 0 => "Z"
  | some micros =>
    let minutes := micros.natAbs / 60000000
    (if micros < 0 then "-" else "+") ++ paddedDigits 2 (minutes / 60) ++ ":" ++
      paddedDigits 2 (minutes % 60)

/-- The moment in the standard interchange form; the fraction appears only if it is not zero. -/
def isoText (m : Moment) : String :=
  let w := WallClock.ofMicros m.wall
  paddedDigits 4 w.date.year.toNat ++ w.monthDayText ++ "T" ++ w.timeText ++
    (if w.micro = 0 then "" else "." ++ paddedDigits 6 w.micro) ++ m.offsetText

end Moment

end ClusterMetrics.Calendar
