import ClusterMetrics.Record.Validation

/-! # Incidents

Detected incidents are kept by the name of their event. The listing flattens them, newest first.

* **`Incident`**: one detection, with **`Incident.ofRow`** reading it.
* **`IncidentRegistry`**: incidents by event, events in the order in which they were first seen.
* **`IncidentRegistry.newestFirst`**: the listing; it fails if only some times are known to an instant. -/

namespace ClusterMetrics

open ClusterMetrics.Calendar

/-- A detected **incident**. -/
structure Incident where
  eventName : String
  cluster : Int
  node : Int
  target : String
  value : Float
  message : String
  detected : Moment
  /-- The zone of the database that the time was read in, if it was not read with an offset alone. -/
  zone : Option String

namespace Incident

/-- Reads an incident; all but the event and the time of detection have defaults. A time is read with an
offset at most. -/
def ofRow (row : Row) : Except Report Incident := do
  let eventName := row.required "event_name" coerceText
  let cluster := row.withDefault "cluster_id" 0 coerceInt
  let node := row.withDefault "node_id" 0 coerceInt
  let target := row.withDefault "target" "" coerceText
  let value := row.withDefault "value" 0.0 coerceFloat
  let message := row.withDefault "message" "" coerceText
  let detected := row.required "detected_ts" coerceMoment
  Report.check (eventName.report ++ cluster.report ++ node.report ++ target.report ++
    value.report ++ message.report ++ detected.report)
  return ⟨← eventName.value, ← cluster.value, ← node.value, ← target.value, ← value.value,
    ← message.value, ← detected.value, none⟩

/-- An incident **as it is answered**. -/
def dump (incident : Incident) : Row :=
  [("event_name", .text incident.eventName), ("cluster_id", .int incident.cluster),
   ("node_id", .int incident.node), ("target", .text incident.target),
   ("value", .float incident.value), ("message", .text incident.message),
   ("detected_ts", .text incident.detected.isoText)]

end Incident

/-- The incidents **by event**, in the order of their events' first detection. -/
abbrev IncidentRegistry := List (String × List Incident)

namespace IncidentRegistry

/-- The registry without incidents. -/
def empty : IncidentRegistry := []

/-- Adds an incident after those of its event. -/
def add (incident : Incident) : IncidentRegistry → IncidentRegistry
  | [] => [(incident.eventName, [incident])]
  | (name, incidents) :: rest =>
    if name = incident.eventName then (name, incidents ++ [incident]) :: rest
    else (name, incidents) :: add incident rest

/-- All incidents, event by event. -/
def toList (registry : IncidentRegistry) : List Incident := registry.flatMap (·.2)

/-- Whether the times of two incidents were read in one zone of the database. -/
def sharesZone (a b : Incident) : Bool := a.zone.isSome && a.zone == b.zone

/-- Whether one incident was detected **no earlier** than another. Times of one zone are compared by what
its clock showed, all others by their instants. -/
def notEarlier (a b : Incident) : Bool :=
  if sharesZone a b then b.detected.wall ≤ a.detected.wall
  else b.detected.instant ≤ a.detected.instant

/-- Whether the times of all incidents can be **compared**: all offsets are known, or none. -/
def comparable (incidents : List Incident) : Bool :=
  incidents.all (·.detected.isAware) || incidents.all (!·.detected.isAware)

/-- The incidents **newest first**; those of equal times keep their order. Comparisons that are no order,
as they may be around an hour that a clock repeats, are settled as merging settles them. -/
def newestFirst (registry : IncidentRegistry) : Except Failure (List Incident) :=
  let incidents := registry.toList
  if comparable incidents then .ok (incidents.mergeSort notEarlier) else .error .wrongType

end IncidentRegistry

end ClusterMetrics
