import ClusterMetrics.Bucket.Rule
import ClusterMetrics.Query.Snapshot

/-! # Series

A series query takes the samples of a range of time, collapses their times into buckets and averages
the samples of each cell, a cell being an entity, a metric, a label and a bucket. Cells with an absent
part are dropped. Pods and clusters are rolled up: the means of their children are added.

* **`mean`**, **`compensatedSum`**: averages and sums with the lost part carried along.
* **`SeriesCell`**: a cell with its value. **`cellMeans`**: the means; **`addUp`**: sums of means.
* **`SeriesQuery.rows`**: the rows of the series queries. **`SeriesQuery.run`**: the same through a store
  that may be out of order. -/

namespace ClusterMetrics

open ClusterMetrics.Decimal ClusterMetrics.Calendar

/-! ## Averages -/

/-- A running sum and what its last step **lost to rounding**. -/
structure CarriedSum where
  total : Float
  carry : Float

/-- The sum of no numbers. -/
def CarriedSum.zero : CarriedSum := ⟨0.0, 0.0⟩

/-- Adds a number, less what the last step added too much. A carry that is not a number, after an
infinity, is dropped. -/
def CarriedSum.add (s : CarriedSum) (x : Float) : CarriedSum :=
  let y := x - s.carry
  let total := s.total + y
  let carry := total - s.total - y
  ⟨total, if isNaN carry then 0.0 else carry⟩

/-- The **sum** of numbers. -/
def compensatedSum (xs : List Float) : Float := (xs.foldl CarriedSum.add CarriedSum.zero).total

/-- The **mean** of numbers; of none it is not a number. -/
def mean (xs : List Float) : Float :=
  if xs.isEmpty then nan else compensatedSum xs / Float.ofNat xs.length

/-! ## Cells -/

/-- A sample of a cell: what the cell is **keyed by**, its time and its value. -/
structure KeyedSample where
  key : List Cell
  ts : Int
  value : Option Reading

/-- A **cell** of a series: what it is keyed by, its bucket and its value. -/
structure SeriesCell where
  key : List Cell
  bucket : Int
  value : Float

/-- Whether no part of a key is absent. -/
def isComplete (key : List Cell) : Bool := key.all (· != .null)

/-- Whether a value is present but no number. -/
def isText (value : Option Reading) : Bool := value.any fun r => r.number?.isNone

/-- The numbers among values. -/
def numbers (values : List (Option Reading)) : List Float :=
  (values.filterMap fun v => v.bind Reading.number?).filter fun x => !isNaN x

/-- The **mean of every cell**, in the order of first samples. Text cannot be averaged. -/
def cellMeans (bucketing : Bucketing) (samples : List KeyedSample) :
    Except Failure (List SeriesCell) :=
  let kept := samples.filter fun s => isComplete s.key
  if kept.any fun s => isText s.value then .error .wrongType
  else .ok <| (groupBy (fun s => (s.key, bucketing.bucket s.ts)) kept).map fun g =>
    ⟨g.1.1, g.1.2, mean (numbers (g.2.map (·.value)))⟩

/-- The cells **added up** by a part of their keys; what is not a number adds nothing. -/
def addUp (part : List Cell → List Cell) (cells : List SeriesCell) : List SeriesCell :=
  (groupBy (fun c => (part c.key, c.bucket)) cells).map fun g =>
    ⟨g.1.1, g.1.2, compensatedSum ((g.2.map (·.value)).filter fun x => !isNaN x)⟩

/-- Cells in the order of their buckets and then of a key. -/
def inOrder (order : List Cell → List Cell) (cells : List SeriesCell) : List SeriesCell :=
  sortBy (fun c => .int c.bucket :: order c.key) cells

/-! ## Samples of a range -/

/-- Whether a sample lies in the range of a rule. -/
def BucketRule.covers (rule : BucketRule) (s : Sample) : Bool :=
  s.ts.any fun t => rule.startSecond ≤ t && t < rule.endSecond

/-- The labelled samples of a **range** in a scope. -/
def Store.inRange (store : Store) (scope : Scope) (filter : MetricFilter) (rule : BucketRule) :
    List LabelledSample :=
  store.labelled (store.samples.filter fun s =>
    scope.admits s && rule.covers s && filter.admits s)

/-- A labelled sample keyed by cells in front of others. -/
def keyed (key : List Cell) (m : LabelledSample) : KeyedSample :=
  ⟨key, m.sample.ts.getD 0, m.sample.value⟩

/-- The samples of a range **by entity**: name, identifier, metric, label. -/
def Store.entitySamples (store : Store) (kind : EntityKind) (scope : Scope) (filter : MetricFilter)
    (rule : BucketRule) : List KeyedSample :=
  (kind.join store (store.inRange scope filter rule)).map fun r =>
    keyed [.ofText r.2.name, .ofInt r.2.id, .ofText r.1.name.name, .ofText r.1.label.label] r.1

/-- The samples of a range **by pod and container**: container, label, then pod identifier, pod,
namespace and metric. -/
def Store.podSamples (store : Store) (scope : Scope) (filter : MetricFilter) (rule : BucketRule) :
    List KeyedSample :=
  (store.joinPods scope (store.inRange scope filter rule)).map fun r =>
    keyed [.ofInt r.1.sample.container, .ofText r.1.label.label, .ofInt r.2.pod.id,
      .ofText r.2.pod.name, .ofText r.2.podNamespace.name, .ofText r.1.name.name] r.1

/-- The **double nearest** to a whole number, as a whole number again. -/
def nearestDouble (n : Int) : Int := (Binary.ofRatio n 1).truncate

/-- Whether every sample names a node. -/
def namesNodes (samples : List LabelledSample) : Bool := samples.all fun m => m.sample.node.isSome

/-- A cell of the node column. Whole numbers stand in it exactly, unless the column has a gap: the
numbers of such a column are doubles. -/
def nodeCell (isWhole : Bool) (node : Option Int) : Cell :=
  .ofInt (if isWhole then node else node.map nearestDouble)

/-- The samples of a range **by node**: node identifier, label, metric. -/
def Store.nodeSamples (store : Store) (scope : Scope) (filter : MetricFilter) (rule : BucketRule) :
    List KeyedSample :=
  let samples := store.inRange scope filter rule
  let isWhole := namesNodes samples
  samples.map fun m =>
    keyed [nodeCell isWhole m.sample.node, .ofText m.label.label, .ofText m.name.name] m

/-! ## The queries -/

/-- The **series queries**. -/
inductive SeriesQuery
  | entities (kind : EntityKind)
  | pods
  | clusterSummary
  deriving DecidableEq, Repr

/-- A cell of a key as a value. -/
def Cell.toValue : Cell → Value
  | null => .null
  | int n => .int n
  | text s => .text s

/-- A cell as it is answered, the parts of its key under given names. -/
def seriesRow (names : List String) (c : SeriesCell) : Row :=
  names.zip (c.key.map Cell.toValue) ++
    [("bucket", .moment ⟨c.bucket * 1000000, none⟩), ("value", .float c.value)]

namespace SeriesQuery

/-- The samples that a query averages. -/
def samples (store : Store) (scope : Scope) (filter : MetricFilter) (rule : BucketRule) :
    SeriesQuery → List KeyedSample
  | entities kind => store.entitySamples kind scope filter rule
  | pods => store.podSamples scope filter rule
  | clusterSummary => store.nodeSamples scope filter rule

/-- The part of a pod's key in the order of the answer: namespace, pod, identifier, metric. -/
def podOrder : List Cell → List Cell
  | [id, pod, podNamespace, metric] => [podNamespace, pod, id, metric]
  | key => key

/-- The cells of the answer, made from the means. -/
def answer (means : List SeriesCell) : SeriesQuery → List SeriesCell
  | entities _ => inOrder id means
  | pods => inOrder podOrder (addUp (·.drop 2) means)
  | clusterSummary => inOrder id (addUp (·.drop 2) means)

/-- The names of the parts of a key. -/
def keyNames : SeriesQuery → List String
  | entities kind => [kind.nameField, kind.idField, "metric_name", "metric_label"]
  | pods => ["pod_id", "pod", "namespace", "metric_name"]
  | clusterSummary => ["metric_name"]

/-- The **cells of a series**. Without a sample in range the rule is not looked at. -/
def cells (query : SeriesQuery) (store : Store) (scope : Scope) (filter : MetricFilter)
    (rule : BucketRule) : Except Failure (List SeriesCell) :=
  match query.samples store scope filter rule with
  | [] => .ok []
  | samples => do
    let bucketing ← rule.bucketing
    let means ← cellMeans bucketing samples
    return query.answer means

/-- The rows of a series query. -/
def rows (query : SeriesQuery) (store : Store) (scope : Scope) (filter : MetricFilter)
    (rule : BucketRule) : Except Failure (List Row) :=
  (query.cells store scope filter rule).map (·.map (seriesRow query.keyNames))

/-- The tables of a series query. -/
def tables : SeriesQuery → List TableName
  | entities kind => latestTables ++ [kind.table]
  | pods => latestTables ++ podTables
  | clusterSummary => latestTables

/-- The numbers that the statement is given. -/
def bound (scope : Scope) (filter : MetricFilter) : SeriesQuery → List Int
  | pods => scope.bound ++ filter.filterMap id ++ scope.boundPod
  | _ => scope.bound ++ filter.filterMap id

/-- The number of values besides that the statement is given, with the bounds of the range. -/
def others (scope : Scope) (filter : MetricFilter) : Nat := scope.others filter + 2

/-- The rows of a **series**. -/
def run (query : SeriesQuery) (backend : Backend) (scope : Scope) (filter : MetricFilter)
    (rule : BucketRule) : Except Failure (List Row) :=
  (backend.query query.tables (query.bound scope filter) (others scope filter)).bind fun store =>
    query.rows store scope filter rule

end SeriesQuery

end ClusterMetrics
