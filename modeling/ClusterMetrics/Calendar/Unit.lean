import ClusterMetrics.Calendar.WallClock

/-! # Calendar units

A wall clock reading is truncated to the start of its minute, hour, day, month or year. Readings are
counted in seconds since midnight of 1970-01-01.

* **`CalendarUnit.truncate`**: the start of the unit that a reading lies in.
* **`CalendarUnit.stepped`**: the reading truncated to a multiple of a width within the next unit. -/

namespace ClusterMetrics.Calendar

/-- A **unit of the calendar**. -/
inductive CalendarUnit
  | minute
  | hour
  | day
  | month
  | year
  deriving DecidableEq, Repr

namespace CalendarUnit

/-- The name of a unit. -/
def name : CalendarUnit → String
  | minute => "minute"
  | hour => "hour"
  | day => "day"
  | month => "month"
  | year => "year"

/-- All units, from the finest to the coarsest. -/
def all : List CalendarUnit := [minute, hour, day, month, year]

/-- The unit of a name. -/
def ofName? (name : String) : Option CalendarUnit := all.find? (·.name == name)

@[simp] theorem ofName?_name (u : CalendarUnit) : ofName? u.name = some u := by
  cases u <;> decide

/-- The date of a reading. -/
def dateOf (t : Int) : Date := Date.ofDayNumber (t / 86400)

/-- The **start of the unit** that a reading lies in. -/
def truncate : CalendarUnit → Int → Int
  | minute, t => t - t % 60
  | hour, t => t - t % 3600
  | day, t => t - t % 86400
  | month, t => (Date.mk (dateOf t).year (dateOf t).month 1).dayNumber * 86400
  | year, t => (Date.mk (dateOf t).year 1 1).dayNumber * 86400

/-- A number rounded down to a multiple of `width`. -/
def roundDown (width : Nat) (n : Int) : Int := n / width * width

/-- The start of the **step** that a reading lies in: minutes are counted in steps from the hour, hours
from midnight, and days by their number from the start of the month, the first day being one. -/
def stepped (width : Nat) : CalendarUnit → Int → Int
  | minute, t => truncate hour t + roundDown width (t % 3600 / 60) * 60
  | hour, t => truncate day t + roundDown width (t % 86400 / 3600) * 3600
  | _, t => truncate month t + roundDown width (dateOf t).day * 86400

end CalendarUnit

end ClusterMetrics.Calendar
