import ClusterMetrics.Decimal.Shortest
import ClusterMetrics.Record.Shape
import ClusterMetrics.Status.Incident
import ClusterMetrics.Status.Stats

/-! # Answers

An answer is a status code and a JSON body. Most bodies are envelopes: a status word and a message, and
beside them the data. What was asked of the store is written to an audit log.

* **`Body`**, **`Answer`**: what a client is told. **`Body.toValue`** is the JSON form.
* **`isHidden`**: names that are left out of JSON objects, with what they name.
* **`AuditEvent`**, **`AuditRecord`**: what the log is told. **`AuditRecord.toValue`** is its JSON form. -/

namespace ClusterMetrics

/-- The **body** of an answer. -/
inductive Body
  /-- All is well. -/
  | healthy
  | status (report : ServerStats.Snapshot)
  | incidents (items : List Incident)
  /-- Data from the store, the number of records if it is told, and the seconds that the store took. -/
  | data (layout : Layout) (count : Option Nat) (elapsed : Float)
  /-- The request failed. -/
  | bad (message : String)
  /-- The request led nowhere. -/
  | detail (text : String)

/-- An **answer**. -/
structure Answer where
  code : Nat
  body : Body

/-- The name of a value as the key of a JSON object. -/
def Value.keyText : Value → String
  | .null => "null"
  | .bool b => if b then "true" else "false"
  | .int n => toString n
  | .float x => Decimal.shortest x
  | .text s => s
  | .moment m => m.isoText
  | .list _ => ""
  | .dict _ => ""

/-- Whether a name is **left out** of JSON objects: they hold no names that start with `_sa`. -/
def isHidden (name : String) : Bool := ['_', 's', 'a'].isPrefixOf name.toList

/-- Whether a value is left out as the key of an object; keys that are no texts are not. -/
def Value.isHiddenKey : Value → Bool
  | .text s => isHidden s
  | _ => false

/-- A group under the name of its key. -/
def groupEntry {α : Type} (members : List α → Value) (g : Group α) : String × Value :=
  (g.shown.keyText, members g.members)

/-- The groups that **are answered**. -/
def shownGroups {α : Type} (groups : List (Group α)) : List (Group α) :=
  groups.filter fun g => !g.shown.isHiddenKey

/-- The cells of a group that **are answered**, as an object. -/
def cellsValue (cells : List (String × Value)) : Value := .dict (cells.filter fun c => !isHidden c.1)

/-- The **JSON form** of a layout. -/
def Layout.toValue : Layout → Value
  | records items => .list (items.map .dict)
  | groups items => .dict ((shownGroups items).map (groupEntry fun rows => .list (rows.map .dict)))
  | cells items => .dict ((shownGroups items).map (groupEntry cellsValue))

/-- An envelope: the status word, the message, and what stands beside them. -/
def envelope (word message : String) (rest : Row) : Value :=
  .dict (("status", .text word) :: ("message", .text message) :: rest)

/-- The report on the server as it is answered. -/
def ServerStats.Snapshot.toRow (report : ServerStats.Snapshot) : Row :=
  [("uptime", .text report.uptime), ("metricsPerSeconds", .text report.rate),
   ("totalMetrics", .text report.total)]

/-- The **JSON form** of a body. -/
def Body.toValue : Body → Value
  | healthy => envelope "ok" "" []
  | status report => envelope "ok" "" [("data", .dict report.toRow)]
  | incidents items => envelope "ok" "" [("data", .list (items.map fun i => .dict i.dump))]
  | data layout count elapsed =>
    envelope "ok" "" (("data", layout.toValue) ::
      (count.toList.map fun (n : Nat) => ("count", .int n)) ++
      [("db_query_time", .text (Status.durationText elapsed))])
  | bad message => envelope "bad" message []
  | detail text => .dict [("detail", .text text)]

/-- An **event** that is worth a record in the audit log. -/
inductive AuditEvent
  /-- A query answered: its name, how many rows it had, how many of them were skipped, and the seconds
  that the store took. -/
  | executed (query : String) (rows skipped : Nat) (elapsed : Float)
  /-- A request failed. -/
  | failed (error : String)

/-- A **record** of the audit log. -/
structure AuditRecord where
  second : Int
  event : AuditEvent
  client : String
  method : String
  path : String

/-- The name of an event. -/
def AuditEvent.name : AuditEvent → String
  | executed _ _ _ _ => "query_executed"
  | failed _ => "query_failed"

/-- The details of an event of a request to a path. -/
def AuditEvent.details (path : String) : AuditEvent → Row
  | executed query rows skipped elapsed =>
    [("endpoint", .text query), ("rows", .int rows), ("skipped_rows", .int skipped),
     ("elapsed_ms", .float (Decimal.roundTo 3 (elapsed * 1000.0)))]
  | failed error => [("endpoint", .text path), ("error", .text error)]

/-- The **JSON form** of an audit record. -/
def AuditRecord.toValue (record : AuditRecord) : Value :=
  .dict [("timestamp", .int record.second), ("event_type", .text record.event.name),
    ("details", .dict (record.event.details record.path)), ("client_ip", .text record.client),
    ("method", .text record.method), ("path", .text record.path)]

end ClusterMetrics
