import ClusterMetrics.Calendar.Unit
import ClusterMetrics.Fault
import ClusterMetrics.Zone.Database

/-! # Bucket rules

A series groups its samples into buckets. Samples lie in a half-open range of time, and a rule says
which bucket an instant falls into: the calendar unit of the local wall clock that it lies in, or a
step of a width chosen from the length of the range, on the clock of UTC. A bucket is named by the
reading of the clock at its start.

* **`Bucketing`**, **`Bucketing.bucket`**: how instants collapse.
* **`BucketRule`**: a range with a unit, a width and perhaps a zone; **`startSecond`**, **`endSecond`**
  bound the whole seconds in it. -/

namespace ClusterMetrics

open ClusterMetrics.Calendar

/-- How instants **collapse** into buckets. -/
inductive Bucketing
  /-- To the start of a calendar unit on the local clock of a zone. -/
  | calendar (unit : CalendarUnit) (zone : Zone)
  /-- To the start of a step of some width on the clock of UTC. -/
  | stepped (unit : CalendarUnit) (width : Nat)
  deriving DecidableEq, Repr

/-- The **bucket** of an instant: the reading at its start, in seconds since 1970-01-01. -/
def Bucketing.bucket : Bucketing → Int → Int
  | calendar unit zone, t => unit.truncate (zone.localSeconds t)
  | stepped unit width, t => unit.stepped width t

/-- The least whole second that is not before an instant given in microseconds. The instant is first
rounded to the nearest double of seconds. -/
def ceilSecond (instant : Int) : Int := (Decimal.Binary.ofRatio instant 1000000).ceil

/-- The **rule** of a series: its range, and how instants collapse. -/
structure BucketRule where
  /-- The start of the range, which belongs to it. -/
  start : Moment
  /-- The end of the range, which does not. -/
  stop : Moment
  unit : CalendarUnit
  width : Nat
  /-- The name of the zone whose clock is truncated; without one the rule is stepped. -/
  zoneName : Option String
  deriving DecidableEq, Repr

namespace BucketRule

/-- Whether the unit was chosen by the request rather than from the length of the range. -/
def isExplicit (rule : BucketRule) : Bool := rule.zoneName.isSome

/-- The first whole second of the range. -/
def startSecond (rule : BucketRule) : Int := ceilSecond rule.start.instant

/-- The first whole second after the range. -/
def endSecond (rule : BucketRule) : Int := ceilSecond rule.stop.instant

/-- A short description of the rule. -/
def describe (rule : BucketRule) : String :=
  match rule.zoneName with
  | some zone => rule.unit.name ++ " (" ++ zone ++ ")"
  | none => toString rule.width ++ " " ++ rule.unit.name

/-- How instants collapse under the rule; the zone of its name has to exist. -/
def bucketing (rule : BucketRule) : Except Failure Bucketing :=
  match rule.zoneName with
  | none => .ok (.stepped rule.unit rule.width)
  | some name =>
    match Zone.find name with
    | .zone zone => .ok (.calendar rule.unit zone)
    | .obstructed obstacle => .error (.zoneObstructed obstacle)
    | .missing => .error .zoneMissing

end BucketRule

end ClusterMetrics
