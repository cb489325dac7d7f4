import ClusterMetrics.Query.Selection
import ClusterMetrics.Record.Kind
import ClusterMetrics.Store.Backend
import ClusterMetrics.Store.Cell

/-! # Snapshots

A snapshot holds the newest sample of every series in the last minute. Newest is decided among the
samples of the scope; the answer then holds every sample of the store with the same series key and
the same time. Pods, clusters and nodes are rolled up: their values are sums.

* **`SeriesKey`**: the five columns that make a series. **`Store.latest`**: the newest samples.
* **`SnapshotQuery.rows`**: newest samples by entity, or summed by pod.
* **`SummaryQuery.rows`**: newest samples summed by cluster or by node.
* **`SnapshotQuery.run`**, **`SummaryQuery.run`**: the rows through a store that may be out of order. -/

namespace ClusterMetrics

/-- The columns that make a **series**. -/
structure SeriesKey where
  node : Int
  process : Int
  container : Int
  name : Int
  label : Int
  deriving DecidableEq, Repr

/-- The series that a sample belongs to, if none of its columns is absent. -/
def Sample.seriesKey? (s : Sample) : Option SeriesKey := do
  return ⟨← s.node, ← s.process, ← s.container, ← s.name, ← s.label⟩

/-- How old a sample of a snapshot may be, in seconds. -/
def freshness : Int := 60

/-- Whether a sample was taken in the **last minute**; one that is dated ahead was not yet. -/
def isFresh (now : Int) (s : Sample) : Bool := s.ts.any fun t => now - freshness ≤ t && t ≤ now

/-- The samples among which the newest are found. -/
def Store.candidates (store : Store) (scope : Scope) (filter : MetricFilter) (now : Int) :
    List Sample :=
  store.samples.filter fun s => scope.admits s && isFresh now s && filter.admits s

/-- The **greatest time** of a series among candidates. -/
def newestTime (candidates : List Sample) (key : SeriesKey) : Option Int :=
  ((candidates.filter fun s => s.seriesKey? = some key).filterMap (·.ts)).max?

/-- Whether a sample has the series and the time of a newest candidate. -/
def isNewest (candidates : List Sample) (s : Sample) : Bool :=
  match s.seriesKey? with
  | some key => joins s.ts (newestTime candidates key)
  | none => false

/-- The **newest samples** of every series in a scope. -/
def Store.latest (store : Store) (scope : Scope) (filter : MetricFilter) (now : Int) :
    List Sample :=
  store.samples.filter (isNewest (store.candidates scope filter now))

/-- The newest samples with their names and labels. -/
def Store.latestLabelled (store : Store) (scope : Scope) (filter : MetricFilter) (now : Int) :
    List LabelledSample :=
  store.labelled (store.latest scope filter now)

/-! ## By entity -/

/-- The order of a snapshot: name and identifier of the entity, name of the metric, label. -/
def entityOrder (r : LabelledSample × Entity) : List Cell :=
  [.ofText r.2.name, .ofInt r.2.id, .ofText r.1.name.name, .ofText r.1.label.label]

/-- The newest samples **by entity**, in order. -/
def Store.snapshot (store : Store) (kind : EntityKind) (scope : Scope) (filter : MetricFilter)
    (now : Int) : List (LabelledSample × Entity) :=
  sortBy entityOrder (kind.join store (store.latestLabelled scope filter now))

/-- A text column as a value. -/
def textValue : Option String → Value := Value.ofOption .text

/-- A number column as a value. -/
def intValue : Option Int → Value := Value.ofOption .int

/-- A sample value as it is read back. -/
def readingValue : Option Reading → Value := Value.ofOption Reading.toValue

/-- A sum as a value. -/
def sumValue : Option Float → Value := Value.ofOption .float

/-- A snapshot row as it is answered. -/
def snapshotRow (kind : EntityKind) (r : LabelledSample × Entity) : Row :=
  [(kind.nameField, textValue r.2.name), (kind.idField, intValue r.2.id),
   ("ts", intValue r.1.sample.ts), ("value", readingValue r.1.sample.value),
   ("metric_name", textValue r.1.name.name), ("metric_label", textValue r.1.label.label)]

/-! ## Sums -/

/-- The newest samples of one pod, cluster or node and one metric, **summed**. -/
structure Rollup (α : Type) where
  /-- What the sum is for. -/
  subject : α
  metricName : Option String
  /-- The greatest time of the samples. -/
  ts : Option Int
  value : Option Float

/-- Sums samples by subject and metric; groups come in the order of their keys. -/
def rollup {α : Type} (subjectKey : α → List Cell) (rows : List (LabelledSample × α)) :
    List (Rollup α) :=
  let key (r : LabelledSample × α) : List Cell := subjectKey r.2 ++ [.ofText r.1.name.name]
  (sortBy (·.1) (groupBy key rows)).filterMap fun g =>
    g.2.head?.map fun first =>
      ⟨first.2, first.1.name.name, (g.2.filterMap (·.1.sample.ts)).max?,
       Reading.sum (g.2.map (·.1.sample.value))⟩

/-- What tells pods apart: the identifier, the name and the namespace. -/
def podKey (path : PodPath) : List Cell :=
  [.ofInt path.pod.id, .ofText path.pod.name, .ofText path.podNamespace.name]

/-- The order of pods: namespace, name, metric. -/
def podOrder (r : Rollup PodPath) : List Cell :=
  [.ofText r.subject.podNamespace.name, .ofText r.subject.pod.name, .ofText r.metricName]

/-- The newest container samples **summed by pod**, in order. -/
def Store.podSnapshot (store : Store) (scope : Scope) (filter : MetricFilter) (now : Int) :
    List (Rollup PodPath) :=
  sortBy podOrder (rollup podKey (store.joinPods scope (store.latestLabelled scope filter now)))

/-- A pod row as it is answered. -/
def podSnapshotRow (r : Rollup PodPath) : Row :=
  [("pod", textValue r.subject.pod.name), ("namespace", textValue r.subject.podNamespace.name),
   ("ts", intValue r.ts), ("value", sumValue r.value), ("metric_name", textValue r.metricName)]

/-- The labelled samples joined to their clusters. -/
def Store.joinClusters (store : Store) (samples : List LabelledSample) :
    List (LabelledSample × Cluster) :=
  samples.flatMap fun m =>
    (store.clusters.filter fun c => joins m.sample.cluster c.id).map (m, ·)

/-- The order of the cluster summary: identifier, metric. -/
def clusterOrder (r : Rollup Cluster) : List Cell := [.ofInt r.subject.id, .ofText r.metricName]

/-- The newest samples **summed by cluster**, in order. -/
def Store.clusterSummary (store : Store) (scope : Scope) (now : Int) : List (Rollup Cluster) :=
  sortBy clusterOrder (rollup (fun c => [.ofInt c.id, .ofText c.name])
    (store.joinClusters (store.latestLabelled scope [] now)))

/-- A row of the cluster summary as it is answered. -/
def clusterSummaryRow (r : Rollup Cluster) : Row :=
  [("cluster_id", intValue r.subject.id), ("cluster_name", textValue r.subject.name),
   ("metric_name", textValue r.metricName), ("value", sumValue r.value)]

/-- The order of the node summary: host, metric. -/
def nodeOrder (r : Rollup Entity) : List Cell := [.ofText r.subject.name, .ofText r.metricName]

/-- The newest samples **summed by node**, in order. -/
def Store.nodeSummary (store : Store) (scope : Scope) (now : Int) : List (Rollup Entity) :=
  sortBy nodeOrder (rollup (fun e => [.ofInt e.id, .ofText e.name])
    (EntityKind.node.join store (store.latestLabelled scope [] now)))

/-- A row of the node summary as it is answered. -/
def nodeSummaryRow (r : Rollup Entity) : Row :=
  [("node_id", intValue r.subject.id), ("host", textValue r.subject.name),
   ("metric_name", textValue r.metricName), ("value", sumValue r.value)]

/-! ## The queries -/

/-- The **snapshot queries**. -/
inductive SnapshotQuery
  | entities (kind : EntityKind)
  | pods
  deriving DecidableEq, Repr

/-- The tables that a newest sample is looked up in, besides those of the query. -/
def latestTables : List TableName := [.samples, .metricNames, .metricLabels]

/-- The tables that lead from a sample to its pods. -/
def podTables : List TableName := [.containers, .podContainers, .pods, .podNamespaces]

namespace SnapshotQuery

/-- The rows of a snapshot query. -/
def rows (store : Store) (scope : Scope) (filter : MetricFilter) (now : Int) :
    SnapshotQuery → List Row
  | entities kind => (store.snapshot kind scope filter now).map (snapshotRow kind)
  | pods => (store.podSnapshot scope filter now).map podSnapshotRow

/-- The tables of a snapshot query. -/
def tables : SnapshotQuery → List TableName
  | entities kind => latestTables ++ [kind.table]
  | pods => latestTables ++ podTables

/-- The numbers that the statement is given. -/
def bound (scope : Scope) (filter : MetricFilter) (now : Int) : SnapshotQuery → List Int
  | entities _ => scope.bound ++ [now - freshness, now] ++ filter.filterMap id
  | pods => scope.bound ++ [now - freshness, now] ++ filter.filterMap id ++ scope.boundPod

/-- The rows of a **snapshot**. -/
def run (query : SnapshotQuery) (backend : Backend) (scope : Scope) (filter : MetricFilter)
    (now : Int) : Except Failure (List Row) :=
  (backend.query query.tables (query.bound scope filter now) (scope.others filter)).map fun store =>
    query.rows store scope filter now

end SnapshotQuery

/-- The **summary queries**. -/
inductive SummaryQuery
  | clusters
  | nodes
  deriving DecidableEq, Repr

namespace SummaryQuery

/-- The rows of a summary query. -/
def rows (store : Store) (scope : Scope) (now : Int) : SummaryQuery → List Row
  | clusters => (store.clusterSummary scope now).map clusterSummaryRow
  | nodes => (store.nodeSummary scope now).map nodeSummaryRow

/-- The tables of a summary query. -/
def tables : SummaryQuery → List TableName
  | clusters => latestTables ++ [.clusters]
  | nodes => latestTables ++ [.nodes]

/-- The numbers that the statement is given. -/
def bound (scope : Scope) (now : Int) : List Int := scope.bound ++ [now - freshness, now]

/-- The rows of a **summary**. -/
def run (query : SummaryQuery) (backend : Backend) (scope : Scope) (now : Int) :
    Except Failure (List Row) :=
  (backend.query query.tables (bound scope now) (scope.others [])).map fun store =>
    query.rows store scope now

end SummaryQuery

end ClusterMetrics
