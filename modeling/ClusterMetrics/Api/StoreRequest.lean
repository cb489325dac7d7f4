import ClusterMetrics.Api.MetricQuery
import ClusterMetrics.Api.Route
import ClusterMetrics.Query.Catalog
import ClusterMetrics.Query.Names
import ClusterMetrics.Query.Series
import ClusterMetrics.Record.Shape

/-! # Store requests

A data route is answered in three steps. The request is checked without the store, the store is
asked, and its rows are laid out.

* **`StoreRequest`**: a request that passed the check; **`DataRoute.check`** is the check.
* **`StoreRequest.run`**: the rows from the store. **`DataRoute.shape`**: the layout of the rows.
* **`DataRoute.fetch`**: all three. -/

namespace ClusterMetrics

/-- A request that is **ready for the store**. -/
inductive StoreRequest
  | catalog (query : CatalogQuery)
  | snapshot (query : SnapshotQuery) (scope : Scope) (names : List String)
  | series (query : SeriesQuery) (scope : Scope) (names : List String) (rule : BucketRule)
  | summary (query : SummaryQuery) (scope : Scope)
  deriving DecidableEq, Repr

/-- The identifiers that a query on the entities of a kind **requires**. -/
def EntityKind.required : EntityKind → List IdName
  | node => [.cluster]
  | process => [.cluster, .node]
  | container => [.cluster, .node]

/-- The level at which the entities of a kind have their samples. -/
def EntityKind.level : EntityKind → String
  | node => "node"
  | process => "process"
  | container => "container"

/-- The scope of the identifiers of a path. -/
def PathIds.scope (ids : PathIds) (required : List IdName) (level : String) :
    Except Failure Scope :=
  resolveScope ids.text? (required.map IdName.label) level

/-- The scope of a snapshot request. -/
def SnapshotQuery.scope (ids : PathIds) : SnapshotQuery → Except Failure Scope
  | entities kind => ids.scope kind.required kind.level
  | pods => ids.scope [.cluster] "container"

/-- The scope of a series request. -/
def SeriesQuery.scope (ids : PathIds) : SeriesQuery → Except Failure Scope
  | entities kind => ids.scope kind.required kind.level
  | pods => ids.scope [.cluster] "container"
  | clusterSummary => ids.scope [.cluster] "node"

/-- The scope of a summary request. -/
def SummaryQuery.scope (ids : PathIds) : SummaryQuery → Except Failure Scope
  | clusters => ids.scope [] "node"
  | nodes => ids.scope [.cluster] "node"

/-- The listing of one cluster. -/
def ofCluster (ids : PathIds) (listing : Option Int → CatalogQuery) :
    Except Failure StoreRequest :=
  (ids.scope [.cluster] "node").map fun scope => .catalog (listing scope.cluster)

/-- **Checks a request**: the parameters of the query string come first, then the identifiers, then what a
series needs. -/
def DataRoute.check (ids : PathIds) (queryString : String) : DataRoute → Except Failure StoreRequest
  | clusters => .ok (.catalog .clusters)
  | agents => .ok (.catalog (.agents none))
  | nodes => .ok (.catalog (.nodes none))
  | metricNames => .ok (.catalog .metricNames)
  | clusterAgents => ofCluster ids .agents
  | clusterNodes => ofCluster ids .nodes
  | snapshot query => do
    let selection ← MetricQuery.parse queryString
    let scope ← query.scope ids
    return .snapshot query scope selection.metricNames
  | series query => do
    let selection ← MetricQuery.parse queryString
    let scope ← query.scope ids
    let rule ← selection.planSeries.mapError .parameter
    return .series query scope selection.metricNames rule
  | summary query => (query.scope ids).map (.summary query)

/-- The **rows of a request**. Names are resolved before samples are looked for. -/
def StoreRequest.run (backend : Backend) (now : Int) : StoreRequest → Except Failure (List Row)
  | catalog query => query.run backend
  | snapshot query scope names =>
    (backend.resolveNames names).bind fun filter => query.run backend scope filter now
  | series query scope names rule =>
    (backend.resolveNames names).bind fun filter => query.run backend scope filter rule
  | summary query scope => query.run backend scope now

/-- The records of a snapshot. -/
def SnapshotQuery.record : SnapshotQuery → RecordKind
  | entities .node => .nodeSnapshot
  | entities .process => .processSnapshot
  | entities .container => .containerSnapshot
  | pods => .podSnapshot

/-- The layout of the rows of a snapshot: in groups by the name of the entity. -/
def SnapshotQuery.shape (query : SnapshotQuery) (rows : List Value) : Except Failure Shaped :=
  match query with
  | entities kind => shapeGrouped query.record rows kind.nameField
  | pods => shapeGrouped query.record rows "pod"

/-- The records of a series. -/
def SeriesQuery.record : SeriesQuery → RecordKind
  | entities .node => .nodeSeriesPoint
  | entities .process => .processSeriesPoint
  | entities .container => .containerSeriesPoint
  | pods => .podSeriesPoint
  | clusterSummary => .clusterSeriesPoint

/-- The layout of the rows of a series: in groups by the name of the entity, or flat for a cluster. -/
def SeriesQuery.shape (query : SeriesQuery) (rows : List Value) : Except Failure Shaped :=
  match query with
  | entities kind => shapeGrouped query.record rows kind.nameField
  | pods => shapeGrouped query.record rows "pod"
  | clusterSummary => shapeList query.record rows

/-- The layout of the rows of a summary: in cells by cluster or host and by metric. -/
def SummaryQuery.shape (query : SummaryQuery) (rows : List Value) : Except Failure Shaped :=
  match query with
  | clusters => shapeNested .clusterSummaryRow rows "cluster_id"
  | nodes => shapeNested .nodeSummaryRow rows "host"

/-- The **layout of the rows** of a route. -/
def DataRoute.shape (route : DataRoute) (rows : List Value) : Except Failure Shaped :=
  match route with
  | clusters => shapeList .clusterItem rows
  | agents => shapeByCluster .agentItem rows
  | nodes => shapeByCluster .nodeItem rows
  | metricNames => shapeList .metricNameItem rows
  | clusterAgents => shapeList .agentItem rows
  | clusterNodes => shapeList .nodeItem rows
  | snapshot query => query.shape rows
  | series query => query.shape rows
  | summary query => query.shape rows

/-- What was **fetched** for a route: how many rows, and their layout. -/
structure Fetched where
  rows : Nat
  shaped : Shaped

/-- **Fetches** what a route answers. -/
def DataRoute.fetch (route : DataRoute) (backend : Backend) (now : Int) (ids : PathIds)
    (queryString : String) : Except Failure Fetched := do
  let request ← route.check ids queryString
  let rows ← request.run backend now
  let shaped ← route.shape (rows.map .dict)
  return ⟨rows.length, shaped⟩

end ClusterMetrics
