import ClusterMetrics.Record.Kind
import ClusterMetrics.Store.Tables

/-! # Editing the store

Rows are added from lists of values in the order of the columns, and deleted by the values of columns.

* **`TableName.columns`**: the columns of each table. **`Store.insert`**: adds a row.
* **`Store.delete`**: deletes the rows that have given values; **`Store.size`** counts rows. -/

namespace ClusterMetrics

/-- A value in a column of whole numbers; a value that is none is stored as absent. -/
def storedInt : Value → Option Int
  | .int n => some n
  | .bool b => some (if b then 1 else 0)
  | .float x => (wholeOfFloat x).toOption
  | .text s => readWhole? s.toList
  | _ => none

/-- A value in a column of text. -/
def storedText : Value → Option String
  | .text s => some s
  | .int n => some (toString n)
  | _ => none

/-- Whether two stored values are **equal**. Absence equals absence here. -/
def sameStored : Value → Value → Bool
  | .null, .null => true
  | .int m, .int n => m == n
  | .float x, .float y => x == y
  | .text s, .text t => s == t
  | _, _ => false

/-- How the values of a column are stored. -/
inductive ColumnKind
  | int
  | text
  | sample
  deriving DecidableEq, Repr

/-- A value as a column stores it. -/
def ColumnKind.store : ColumnKind → Value → Value
  | int, v => Value.ofOption .int (storedInt v)
  | text, v => Value.ofOption .text (storedText v)
  | sample, v =>
    match Reading.ofValue v with
    | some (.number x) => .float x
    | some (.text s) => .text s
    | none => .null

/-- The **columns** of a table, in order. -/
def TableName.columns : TableName → List (String × ColumnKind)
  | clusters => [("id", .int), ("name", .text)]
  | kubernetesClusters => [("id", .int), ("agent_cluster_id", .int), ("name", .text)]
  | agents =>
    [("id", .int), ("cluster_id", .int), ("version", .text), ("ipv4", .text), ("online", .int)]
  | nodes =>
    [("id", .int), ("cluster_id", .int), ("host", .text), ("ipv4", .text), ("os", .text),
     ("platform", .text), ("platform_family", .text), ("platform_version", .text),
     ("agent_id", .int)]
  | processes => [("id", .int), ("name", .text)]
  | containers => [("id", .int), ("name", .text), ("container_id", .text)]
  | podNamespaces => [("id", .int), ("name", .text)]
  | pods => [("id", .int), ("name", .text), ("k8s_namespace_id", .int)]
  | podContainers =>
    [("id", .int), ("container_id", .text), ("k8s_pod_id", .int), ("name", .text)]
  | metricTypes => [("id", .int), ("name", .text)]
  | metricNames => [("id", .int), ("name", .text), ("help", .text), ("type_id", .int)]
  | metricLabels => [("id", .int), ("label", .text)]
  | samples =>
    [("cluster_id", .int), ("node_id", .int), ("process_id", .int), ("container_id", .int),
     ("name_id", .int), ("label_id", .int), ("ts", .int), ("value", .sample)]

/-- The stored values of a row, by position. -/
structure StoredRow where
  cells : List Value

namespace StoredRow

/-- The stored values of a row for a table. -/
def ofValues (table : TableName) (values : List Value) : StoredRow :=
  ⟨table.columns.zipIdx.map fun c => c.1.2.store (values.getD c.2 .null)⟩

/-- The number in a column. -/
def int (row : StoredRow) (i : Nat) : Option Int := row.cells[i]?.bind storedInt

/-- The text in a column. -/
def text (row : StoredRow) (i : Nat) : Option String := row.cells[i]?.bind storedText

/-- The sample value in a column. -/
def reading (row : StoredRow) (i : Nat) : Option Reading := row.cells[i]?.bind Reading.ofValue

end StoredRow

/-- **Adds a row** to a table, behind those that are there. -/
def Store.insert (store : Store) (table : TableName) (values : List Value) : Store :=
  let r := StoredRow.ofValues table values
  match table with
  | .clusters => { store with clusters := store.clusters ++ [⟨r.int 0, r.text 1⟩] }
  | .kubernetesClusters =>
    { store with
      kubernetesClusters := store.kubernetesClusters ++ [⟨r.int 0, r.int 1, r.text 2⟩] }
  | .agents =>
    { store with agents := store.agents ++ [⟨r.int 0, r.int 1, r.text 2, r.text 3, r.int 4⟩] }
  | .nodes =>
    { store with
      nodes := store.nodes ++ [⟨r.int 0, r.int 1, r.text 2, r.text 3, r.text 4, r.text 5, r.text 6,
        r.text 7, r.int 8⟩] }
  | .processes => { store with processes := store.processes ++ [⟨r.int 0, r.text 1⟩] }
  | .containers => { store with containers := store.containers ++ [⟨r.int 0, r.text 1, r.text 2⟩] }
  | .podNamespaces => { store with podNamespaces := store.podNamespaces ++ [⟨r.int 0, r.text 1⟩] }
  | .pods => { store with pods := store.pods ++ [⟨r.int 0, r.text 1, r.int 2⟩] }
  | .podContainers =>
    { store with podContainers := store.podContainers ++ [⟨r.int 0, r.text 1, r.int 2, r.text 3⟩] }
  | .metricTypes => { store with metricTypes := store.metricTypes ++ [⟨r.int 0, r.text 1⟩] }
  | .metricNames =>
    { store with metricNames := store.metricNames ++ [⟨r.int 0, r.text 1, r.text 2, r.int 3⟩] }
  | .metricLabels => { store with metricLabels := store.metricLabels ++ [⟨r.int 0, r.text 1⟩] }
  | .samples =>
    { store with
      samples := store.samples ++ [⟨r.int 0, r.int 1, r.int 2, r.int 3, r.int 4, r.int 5, r.int 6,
        r.reading 7⟩] }

/-- The stored value of a sample column. -/
def storedReading : Option Reading → Value
  | some (.number x) => .float x
  | some (.text s) => .text s
  | none => .null

/-- A number that may be absent, as a stored value. -/
def cellOfInt : Option Int → Value := Value.ofOption .int

/-- A text that may be absent, as a stored value. -/
def cellOfText : Option String → Value := Value.ofOption .text

/-- Whether the cells of a row, by position in its table, have given values in given columns. -/
def matchesWhere (table : TableName) (conditions : Row) (cells : List Value) : Bool :=
  let row := (table.columns.map (·.1)).zip cells
  conditions.all fun c =>
    match row.lookup c.1, table.columns.lookup c.1 with
    | some cell, some kind => sameStored cell (kind.store c.2)
    | _, _ => false

/-! ## Rows by position -/

/-- The stored values of a row of `clusters`. -/
def Cluster.cells (r : Cluster) : List Value :=
  [cellOfInt r.id, cellOfText r.name]

/-- The stored values of a row of `k8s_clusters`. -/
def KubernetesCluster.cells (r : KubernetesCluster) : List Value :=
  [cellOfInt r.id, cellOfInt r.cluster, cellOfText r.name]

/-- The stored values of a row of `agents`. -/
def Agent.cells (r : Agent) : List Value :=
  [cellOfInt r.id, cellOfInt r.cluster, cellOfText r.version, cellOfText r.address,
   cellOfInt r.online]

/-- The stored values of a row of `nodes`. -/
def Node.cells (r : Node) : List Value :=
  [cellOfInt r.id, cellOfInt r.cluster, cellOfText r.host, cellOfText r.address, cellOfText r.os,
   cellOfText r.platform, cellOfText r.platformFamily, cellOfText r.platformVersion,
   cellOfInt r.agent]

/-- The stored values of a row of `processes`. -/
def Process.cells (r : Process) : List Value :=
  [cellOfInt r.id, cellOfText r.name]

/-- The stored values of a row of `containers`. -/
def Container.cells (r : Container) : List Value :=
  [cellOfInt r.id, cellOfText r.name, cellOfText r.externalId]

/-- The stored values of a row of `k8s_namespaces`. -/
def PodNamespace.cells (r : PodNamespace) : List Value :=
  [cellOfInt r.id, cellOfText r.name]

/-- The stored values of a row of `k8s_pods`. -/
def Pod.cells (r : Pod) : List Value :=
  [cellOfInt r.id, cellOfText r.name, cellOfInt r.podNamespace]

/-- The stored values of a row of `k8s_containers`. -/
def PodContainer.cells (r : PodContainer) : List Value :=
  [cellOfInt r.id, cellOfText r.externalId, cellOfInt r.pod, cellOfText r.name]

/-- The stored values of a row of `metric_types`. -/
def MetricType.cells (r : MetricType) : List Value :=
  [cellOfInt r.id, cellOfText r.name]

/-- The stored values of a row of `metric_names`. -/
def MetricName.cells (r : MetricName) : List Value :=
  [cellOfInt r.id, cellOfText r.name, cellOfText r.help, cellOfInt r.metricType]

/-- The stored values of a row of `metric_labels`. -/
def MetricLabel.cells (r : MetricLabel) : List Value :=
  [cellOfInt r.id, cellOfText r.label]

/-- The stored values of a row of `metrics`. -/
def Sample.cells (r : Sample) : List Value :=
  [cellOfInt r.cluster, cellOfInt r.node, cellOfInt r.process, cellOfInt r.container,
   cellOfInt r.name, cellOfInt r.label, cellOfInt r.ts, storedReading r.value]

/-- **Deletes the rows** of a table that have given values in given columns. -/
def Store.delete (store : Store) (table : TableName) (conditions : Row) : Store :=
  let keep (cells : List Value) : Bool := !matchesWhere table conditions cells
  match table with
  | .clusters => { store with clusters := store.clusters.filter fun r => keep r.cells }
  | .kubernetesClusters =>
    { store with kubernetesClusters := store.kubernetesClusters.filter fun r => keep r.cells }
  | .agents => { store with agents := store.agents.filter fun r => keep r.cells }
  | .nodes => { store with nodes := store.nodes.filter fun r => keep r.cells }
  | .processes => { store with processes := store.processes.filter fun r => keep r.cells }
  | .containers => { store with containers := store.containers.filter fun r => keep r.cells }
  | .podNamespaces =>
    { store with podNamespaces := store.podNamespaces.filter fun r => keep r.cells }
  | .pods => { store with pods := store.pods.filter fun r => keep r.cells }
  | .podContainers =>
    { store with podContainers := store.podContainers.filter fun r => keep r.cells }
  | .metricTypes => { store with metricTypes := store.metricTypes.filter fun r => keep r.cells }
  | .metricNames => { store with metricNames := store.metricNames.filter fun r => keep r.cells }
  | .metricLabels => { store with metricLabels := store.metricLabels.filter fun r => keep r.cells }
  | .samples => { store with samples := store.samples.filter fun r => keep r.cells }

/-- The number of rows of a table. -/
def Store.size (store : Store) : TableName → Nat
  | .clusters => store.clusters.length
  | .kubernetesClusters => store.kubernetesClusters.length
  | .agents => store.agents.length
  | .nodes => store.nodes.length
  | .processes => store.processes.length
  | .containers => store.containers.length
  | .podNamespaces => store.podNamespaces.length
  | .pods => store.pods.length
  | .podContainers => store.podContainers.length
  | .metricTypes => store.metricTypes.length
  | .metricNames => store.metricNames.length
  | .metricLabels => store.metricLabels.length
  | .samples => store.samples.length

end ClusterMetrics
