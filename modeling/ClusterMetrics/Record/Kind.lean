import ClusterMetrics.Decimal.Fixed
import ClusterMetrics.Fault
import ClusterMetrics.Record.Coerce

/-! # Records

A store row becomes a record by converting each field to its type. A record kind is a list of named
fields; a row that lacks a field or holds one that does not convert is no record. Sample values are
finite and rounded on entry: to two places, or in the cluster summary to a whole number.

* **`FieldKind`**, **`RecordKind`**: the fields of each kind of record, in order.
* **`RecordKind.decode`**: the record of a row, or the issues of its fields.
* **`Record.dump`**: the fields as they are answered. -/

namespace ClusterMetrics

open ClusterMetrics.Calendar

/-- The **type of a field**. -/
inductive FieldKind
  | whole
  | text
  | flag
  /-- A time in whole seconds since 1970-01-01 UTC, answered as text. -/
  | second
  /-- The wall clock reading that names a bucket. -/
  | bucket
  /-- A sample value, rounded to two places. -/
  | sample
  /-- A sample value, rounded to a whole number. -/
  | wholeSample
  deriving DecidableEq, Repr

/-- A finite double, rounded. -/
def roundSample (round : Float → Float) (x : Float) : Except Issue Value :=
  if Decimal.isFinite x then .ok (.float (round x)) else .error .valueError

/-- **Converts** a value to the type of a field. -/
def FieldKind.coerce : FieldKind → Value → Except Issue Value
  | whole, v => (coerceInt v).map .int
  | text, v => (coerceText v).map .text
  | flag, v => (coerceBool v).map .bool
  | second, v => (coerceInt v).map .int
  | bucket, v => (coerceMoment v).map .moment
  | sample, v => (coerceFloat v).bind (roundSample (Decimal.roundTo 2))
  | wholeSample, v => (coerceFloat v).bind (roundSample Decimal.roundWhole)

/-- The **kinds of records**. -/
inductive RecordKind
  | nodeSnapshot
  | processSnapshot
  | containerSnapshot
  | podSnapshot
  | nodeSeriesPoint
  | processSeriesPoint
  | containerSeriesPoint
  | podSeriesPoint
  | clusterSeriesPoint
  | clusterSummaryRow
  | nodeSummaryRow
  | clusterItem
  | agentItem
  | nodeItem
  | metricNameItem
  deriving DecidableEq, Repr

namespace RecordKind

/-- The fields shared by all snapshots. -/
def snapshotFields : List (String × FieldKind) :=
  [("ts", .second), ("value", .sample), ("metric_name", .text)]

/-- The fields shared by all series points. -/
def seriesFields : List (String × FieldKind) :=
  [("value", .sample), ("bucket", .bucket), ("metric_name", .text)]

/-- The fields of an entity, and the label of its sample. -/
def entityFields (name id : String) : List (String × FieldKind) :=
  [(name, .text), (id, .whole), ("metric_label", .text)]

/-- The fields of a pod. -/
def podFields : List (String × FieldKind) := [("pod", .text), ("namespace", .text)]

/-- The **fields** of a kind, in order. -/
def fields : RecordKind → List (String × FieldKind)
  | nodeSnapshot => snapshotFields ++ entityFields "node" "node_id"
  | processSnapshot => snapshotFields ++ entityFields "process" "process_id"
  | containerSnapshot => snapshotFields ++ entityFields "container" "container_id"
  | podSnapshot => snapshotFields ++ podFields
  | nodeSeriesPoint => seriesFields ++ entityFields "node" "node_id"
  | processSeriesPoint => seriesFields ++ entityFields "process" "process_id"
  | containerSeriesPoint => seriesFields ++ entityFields "container" "container_id"
  | podSeriesPoint => seriesFields ++ podFields
  | clusterSeriesPoint => seriesFields
  | clusterSummaryRow =>
    [("cluster_id", .whole), ("cluster_name", .text), ("metric_name", .text),
     ("value", .wholeSample)]
  | nodeSummaryRow =>
    [("node_id", .whole), ("host", .text), ("metric_name", .text), ("value", .sample)]
  | clusterItem => [("id", .whole), ("name", .text), ("kubernetes", .flag)]
  | agentItem => [("id", .whole), ("version", .text), ("ip", .text), ("online", .flag)]
  | nodeItem =>
    [("id", .whole), ("host", .text), ("ip", .text), ("os", .text), ("platform", .text),
     ("platform_family", .text), ("platform_version", .text), ("agent_id", .whole)]
  | metricNameItem => [("id", .whole), ("name", .text), ("help", .text), ("type", .text)]

end RecordKind

/-- A row as the store returns it: named values. A name occurs once. -/
abbrev Row := List (String × Value)

/-- The value of a column of a row. -/
def Row.get? (row : Row) (column : String) : Option Value := Value.lookupLast column row

/-- A **record**: the converted fields of a row with their types. -/
structure Record where
  fields : List (String × FieldKind × Value)

namespace Record

/-- The value of a field. -/
def get? (record : Record) (name : String) : Option Value :=
  (record.fields.find? (·.1 == name)).map (·.2.2)

/-- The first and last seconds that have a date of four digits. -/
def hasDate (second : Int) : Bool := -62135596800 ≤ second && second < 253402300800

/-- A field **as it is answered**. -/
def dumpField : FieldKind → Value → Except Failure Value
  | .second, .int n =>
    if hasDate n then .ok (.text (WallClock.ofSeconds n).instantText) else .error .unprintableTime
  | .bucket, .moment m => .ok (.text (WallClock.ofMicros m.wall).dateTimeText)
  | _, v => .ok v

/-- The fields of a record **as they are answered**. -/
def dump (record : Record) : Except Failure Row :=
  record.fields.mapM fun f => (dumpField f.2.1 f.2.2).map (f.1, ·)

end Record

/-- The converted field of a row, or its issue. -/
def FieldKind.decode (row : Row) (name : String) (kind : FieldKind) : Except Issue Value :=
  match row.get? name with
  | some v => kind.coerce v
  | none => .error .missing

/-- The **record of a row**, or the issues of its fields in order. -/
def RecordKind.decode (kind : RecordKind) (row : Row) : Except (List (String × Issue)) Record :=
  let results := kind.fields.map fun f => (f.1, f.2, f.2.decode row f.1)
  let issues := results.filterMap fun r =>
    match r.2.2 with
    | .error issue => some (r.1, issue)
    | .ok _ => none
  if issues.isEmpty then
    .ok ⟨results.filterMap fun r =>
      match r.2.2 with
      | .ok v => some (r.1, r.2.1, v)
      | .error _ => none⟩
  else .error issues

end ClusterMetrics
