import ClusterMetrics.Fault
import ClusterMetrics.Record.Coerce
import ClusterMetrics.Status.Duration

/-! # Server statistics

The server counts the samples it ingested since its start, and reports its uptime, the rate and the
total. An uptime is never less than a nanosecond, so the rate is defined. -/

namespace ClusterMetrics

open ClusterMetrics.Decimal

/-- The **statistics** of a running server. -/
structure ServerStats where
  /-- The time of the start, in seconds. -/
  startedAt : Float
  /-- The number of samples ingested since. -/
  ingested : Int

namespace ServerStats

/-- The statistics of a server that starts now. -/
def start (now : Float) : ServerStats := ⟨now, 0⟩

/-- Counts samples as ingested. -/
def record (stats : ServerStats) (count : Int) : ServerStats :=
  { stats with ingested := stats.ingested + count }

/-- The seconds since the start, at least a nanosecond. -/
def uptime (stats : ServerStats) (now : Float) : Float :=
  let elapsed := now - stats.startedAt
  if 1e-9 > elapsed then 1e-9 else elapsed

/-- The **report**: the uptime, the samples per second and their total. -/
structure Snapshot where
  uptime : String
  rate : String
  total : String
  deriving DecidableEq, Repr

/-- The report at a time. -/
def snapshot (stats : ServerStats) (now : Float) : Except Failure Snapshot := do
  let elapsed := stats.uptime now
  match Status.uptimeText? elapsed, floatOfInt? stats.ingested with
  | none, _ => throw .numeralTooLong
  | _, none => throw .idOverflow
  | some uptime, some total =>
    return ⟨uptime, fixed 2 (total / elapsed), toString stats.ingested⟩

end ServerStats

end ClusterMetrics
