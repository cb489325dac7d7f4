import ClusterMetrics.Api.QueryString
import ClusterMetrics.Bucket.Plan
import ClusterMetrics.Json.Reader
import ClusterMetrics.Text.Quoted

/-! # Metric queries

A snapshot or series request selects metrics, a date range, a time zone and a granularity. They come
either as separate query parameters or together as one JSON object in the parameter `query`, which
wins. Separate texts for the zone and the granularity lose their quote characters; an empty zone is
UTC, and the zone has to exist.

* **`MetricQuery`**: what is selected. **`MetricQuery.parse`**: the selection of a query string.
* **`MetricQuery.planSeries`**: the bucket rule of a series. -/

namespace ClusterMetrics

open ClusterMetrics.Text

/-- What a request **selects**. -/
structure MetricQuery where
  zoneName : String
  metricNames : List String
  dateRange : List String
  granularity : String
  deriving DecidableEq, Repr

namespace MetricQuery

/-- The name of the zone that a text selects. -/
def checkZone (text : String) : Except Failure String :=
  let name := if text = "" then "UTC" else text
  match Zone.find name with
  | .zone _ => .ok name
  | .obstructed obstacle => .error (.zoneObstructed obstacle)
  | .missing => .error (.parameter .invalidQuery)

/-- The fault of parameters that cannot be read. -/
def refuse {α : Type} : Except Failure α := .error (.parameter .invalidQuery)

/-- A text field of the query object, or its default. -/
def textField (default : String) : Option Value → Except Failure String
  | none => .ok default
  | some (.text s) => .ok s
  | some _ => refuse

/-- The texts of a list that holds nothing else. -/
def allTexts? : List Value → Option (List String)
  | [] => some []
  | .text s :: rest => (allTexts? rest).map (s :: ·)
  | _ => none

/-- A list field of the query object; an absent one is empty. -/
def listField : Option Value → Except Failure (List String)
  | none => .ok []
  | some (.list items) =>
    match allTexts? items with
    | some texts => .ok texts
    | none => refuse
  | some _ => refuse

/-- The selection of a **query object**. The two lists each go by two names, the first of which wins;
entries of other names are ignored. -/
def ofJson (text : String) : Except Failure MetricQuery :=
  match Json.parse? text with
  | some (.dict entries) => do
    let field (name : String) := Value.lookupLast name entries
    let zone ← (textField "UTC" (field "timezone")).bind checkZone
    let names ← listField ((field "metricNames").or (field "metric_names"))
    let range ← listField ((field "dateRange").or (field "date_range"))
    let granularity ← textField "" (field "granularity")
    return ⟨zone, names, range, granularity⟩
  | _ => refuse

/-- The selection of **separate parameters**. -/
def ofParams (params : QueryParams) : Except Failure MetricQuery := do
  let zone ← checkZone (withoutQuotes ((params.last? "timezone").getD ""))
  return ⟨zone, params.all "metricNames", params.all "dateRange",
    withoutQuotes ((params.last? "granularity").getD "")⟩

/-- The **selection of a query string**. -/
def parse (queryString : String) : Except Failure MetricQuery :=
  let params := QueryParams.parse queryString
  match params.last? "query" with
  | none => ofParams params
  | some text => if text = "" then ofParams params else ofJson text

/-- The **bucket rule** of a series, which has to name a metric. -/
def planSeries (query : MetricQuery) : Except ParameterFault BucketRule :=
  if query.metricNames.isEmpty then .error .metricNamesRequired
  else planBuckets query.dateRange query.zoneName query.granularity

end MetricQuery

end ClusterMetrics
