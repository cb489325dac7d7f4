import ClusterMetrics.Calendar.WallClock

/-! # Time zones

A zone tells how far its clocks are ahead of UTC at every instant: an offset before the first change,
a list of changes, and a rule that holds from the last change on.

* **`YearDay`**, **`Turn`**: the days and hours at which a yearly rule changes the clocks.
* **`Tail`**: a fixed offset, or daylight saving time between two yearly turns.
* **`Zone.offsetAt`**: the offset at an instant; **`Zone.localSeconds`**: what the clocks show. -/

namespace ClusterMetrics

open ClusterMetrics.Calendar

/-- A **day of every year**. -/
inductive YearDay
  /-- The `week`-th `weekday` of a month, the fifth being the last one; Sunday is 0. -/
  | inMonth (month week weekday : Nat)
  /-- The day 1 to 365 of the year, 29 February not being counted. -/
  | plain (day : Nat)
  /-- The day 0 to 365 of the year, 29 February being counted. -/
  | counted (day : Nat)
  deriving DecidableEq, Repr

/-- The number of the day in a year. -/
def YearDay.dayNumber (year : Int) : YearDay → Int
  | .inMonth month week weekday =>
    let first := (Date.mk year month 1).dayNumber
    let day := first + ((weekday : Int) - Date.weekday first) % 7 + 7 * ((week : Int) - 1)
    if day < first + monthLength year month then day else day - 7
  | .plain day =>
    (Date.mk year 1 1).dayNumber + day - 1 + (if isLeapYear year && 60 ≤ day then 1 else 0)
  | .counted day => (Date.mk year 1 1).dayNumber + day

/-- A **yearly turn** of the clocks: a day, and seconds from its midnight on the clocks until then. -/
structure Turn where
  day : YearDay
  seconds : Int
  deriving DecidableEq, Repr

/-- The reading of the clocks at the turn in a year, in seconds. -/
def Turn.wall (turn : Turn) (year : Int) : Int := turn.day.dayNumber year * 86400 + turn.seconds

/-- The **rule for the open future** of a zone; offsets are seconds ahead of UTC. -/
inductive Tail
  | fixed (offset : Int)
  /-- Daylight saving time runs from `start` to `stop` of every year. -/
  | seasonal (standard daylight : Int) (start stop : Turn)
  deriving DecidableEq, Repr

/-- The offset that a rule gives at an instant. Where the turns of the year come in the other order,
daylight saving time runs over the new year. -/
def Tail.offsetAt (instant : Int) : Tail → Int
  | .fixed offset => offset
  | .seasonal standard daylight start stop =>
    let year := (Date.ofDayNumber ((instant + standard) / 86400)).year
    let starts := start.wall year - standard
    let stops := stop.wall year - daylight
    if starts < stops then
      if starts ≤ instant ∧ instant < stops then daylight else standard
    else
      if stops ≤ instant ∧ instant < starts then standard else daylight

/-- A **time zone**. -/
structure Zone where
  /-- The offset before the first change. -/
  initial : Int
  /-- The changes in ascending order: an instant, and the offset from it on. -/
  changes : List (Int × Int)
  /-- The rule from the last change on. -/
  tail : Tail
  deriving DecidableEq, Repr

namespace Zone

/-- The offset at an instant, given the offset `current` before the changes that remain. -/
def offsetFrom (tail : Tail) (instant : Int) : Int → List (Int × Int) → Int
  | _, [] => tail.offsetAt instant
  | current, (start, offset) :: rest =>
    if instant < start then current else offsetFrom tail instant offset rest

/-- The **offset** from UTC at an instant, in seconds. -/
def offsetAt (zone : Zone) (instant : Int) : Int :=
  offsetFrom zone.tail instant zone.initial zone.changes

/-- The **reading of the local clocks** at an instant, in seconds since midnight of 1970-01-01. -/
def localSeconds (zone : Zone) (instant : Int) : Int := instant + zone.offsetAt instant

/-- Coordinated universal time. -/
def utc : Zone := ⟨0, [], .fixed 0⟩

@[simp] theorem offsetAt_utc (instant : Int) : utc.offsetAt instant = 0 := rfl

@[simp] theorem localSeconds_utc (instant : Int) : utc.localSeconds instant = instant := by
  simp [localSeconds]

end Zone

end ClusterMetrics
