import ClusterMetrics.Bucket.Rule
import ClusterMetrics.Calendar.Timestamp

/-! # Planning the buckets of a series

A series request gives two bounds, a time zone and a granularity. A granularity that names a calendar
unit asks for the buckets of that unit in the zone. Otherwise the width follows from the length of
the range, so that a window yields about sixty buckets.

* **`autoUnit`**: unit and width for a range. **`planBuckets`**: the rule for a request. -/

namespace ClusterMetrics

open ClusterMetrics.Calendar Decimal

/-- The whole hours in a range of microseconds, at least one. Seconds, minutes and hours are each
rounded to the nearest double before the fraction is dropped. -/
def rangeHours (micros : Int) : Nat :=
  let hours := (((Binary.ofRatio micros 1000000).divNat 60).divNat 60).floorMagnitude
  max hours 1

/-- **Unit and width** for a range of so many hours: minutes below sixty hours, hours below sixty days,
days beyond. -/
def autoUnit (hours : Nat) : CalendarUnit × Nat :=
  if hours < 60 then (.minute, hours)
  else if hours < 1440 then (.hour, hours / 60)
  else (.day, hours / 1440)

/-- The moment of a bound, or the fault that it is none. -/
def parseBound (text : String) : Except ParameterFault Moment :=
  match Timestamp.parse? text with
  | some m => .ok m
  | none => .error (.malformedTimestamp text)

/-- The **rule for a request**. -/
def planBuckets (range : List String) (zone granularity : String) :
    Except ParameterFault BucketRule :=
  match range with
  | [first, second] => do
    let start ← parseBound first
    let stop ← parseBound second
    if stop.instant < start.instant then
      throw .dateRangeReversed
    match CalendarUnit.ofName? granularity with
    | some unit => return ⟨start, stop, unit, 1, some (if zone = "" then "UTC" else zone)⟩
    | none =>
      let (unit, width) := autoUnit (rangeHours (stop.instant - start.instant))
      return ⟨start, stop, unit, width, none⟩
  | _ => .error .dateRangeArity

end ClusterMetrics
