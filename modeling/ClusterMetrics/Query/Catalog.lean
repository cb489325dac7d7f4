import ClusterMetrics.Query.Snapshot

/-! # Catalog listings

The catalog is listed by clusters, agents, nodes and metric names, each in the order of identifiers.
Agents and nodes are listed for one cluster, or for all with the name of the cluster beside them; a row
of a cluster that is not in the catalog is listed too, without a name.

* **`CatalogQuery.rows`**: the rows of each listing. **`CatalogQuery.run`**: the same through a store that
  may be out of order. -/

namespace ClusterMetrics

/-- The rows of a table joined to the clusters they refer to; a row that refers to **no cluster** is
kept once. -/
def Store.withCluster {α : Type} (store : Store) (cluster : α → Option Int) (rows : List α) :
    List (α × Option String) :=
  rows.flatMap fun a =>
    match store.clusters.filter fun c => joins (cluster a) c.id with
    | [] => [(a, none)]
    | found => found.map fun c => (a, c.name)

/-- The key of a cluster in the listing. -/
def clusterKeyCells (c : Cluster) : List Cell := [.ofInt c.id, .ofText c.name]

/-- Whether a cluster is linked to a Kubernetes cluster that has an identifier. -/
def Store.isKubernetes (store : Store) (c : Cluster) : Bool :=
  store.kubernetesClusters.any fun k => joins k.cluster c.id && k.id.isSome

/-- The **clusters**, each identifier and name once, and whether Kubernetes runs on them. -/
def Store.listClusters (store : Store) : List (Cluster × Bool) :=
  (sortBy (·.1) (groupBy clusterKeyCells store.clusters)).filterMap fun g =>
    g.2.head?.map fun c => (c, store.isKubernetes c)

/-- A cluster as it is answered. -/
def clusterRow (r : Cluster × Bool) : Row :=
  [("id", intValue r.1.id), ("name", textValue r.1.name),
   ("kubernetes", .int (if r.2 then 1 else 0))]

/-- The name of the owning cluster as a column of a listing of all clusters. -/
def ownerColumn (name : Option String) : Row := [("cluster_name", textValue name)]

/-- An agent as it is answered. -/
def agentRow (a : Agent) : Row :=
  [("id", intValue a.id), ("version", textValue a.version), ("ip", textValue a.address),
   ("online", Value.ofOption (fun n => .bool (n != 0)) a.online)]

/-- A node as it is answered. -/
def nodeRow (n : Node) : Row :=
  [("id", intValue n.id), ("host", textValue n.host), ("ip", textValue n.address),
   ("os", textValue n.os), ("platform", textValue n.platform),
   ("platform_family", textValue n.platformFamily),
   ("platform_version", textValue n.platformVersion), ("agent_id", intValue n.agent)]

/-- The **agents** of one cluster, or of all. -/
def Store.listAgents (store : Store) : Option Int → List Row
  | some id =>
    (sortBy (fun a => [.ofInt a.id]) (store.agents.filter fun a => holds a.cluster id)).map agentRow
  | none =>
    (sortBy (fun r => [.ofInt r.1.id]) (store.withCluster Agent.cluster store.agents)).map
      fun r => agentRow r.1 ++ ownerColumn r.2

/-- The **nodes** of one cluster, or of all. -/
def Store.listNodes (store : Store) : Option Int → List Row
  | some id =>
    (sortBy (fun n => [.ofInt n.id]) (store.nodes.filter fun n => holds n.cluster id)).map nodeRow
  | none =>
    (sortBy (fun r => [.ofInt r.1.id]) (store.withCluster Node.cluster store.nodes)).map
      fun r => nodeRow r.1 ++ ownerColumn r.2

/-- The **metric names** that have a type. -/
def Store.listMetricNames (store : Store) : List Row :=
  (sortBy (fun r => [.ofInt r.1.id]) (store.metricNames.flatMap fun n =>
    (store.metricTypes.filter fun t => joins n.metricType t.id).map (n, ·))).map fun r =>
      [("id", intValue r.1.id), ("name", textValue r.1.name), ("help", textValue r.1.help),
       ("type", textValue r.2.name)]

/-- The **catalog listings**. -/
inductive CatalogQuery
  | clusters
  | agents (cluster : Option Int)
  | nodes (cluster : Option Int)
  | metricNames
  deriving DecidableEq, Repr

namespace CatalogQuery

/-- The rows of a listing. -/
def rows (store : Store) : CatalogQuery → List Row
  | clusters => store.listClusters.map clusterRow
  | agents cluster => store.listAgents cluster
  | nodes cluster => store.listNodes cluster
  | metricNames => store.listMetricNames

/-- The tables of a listing. -/
def tables : CatalogQuery → List TableName
  | clusters => [.clusters, .kubernetesClusters]
  | agents (some _) => [.agents]
  | agents none => [.agents, .clusters]
  | nodes (some _) => [.nodes]
  | nodes none => [.nodes, .clusters]
  | metricNames => [.metricNames, .metricTypes]

/-- The numbers that the statement is given. -/
def bound : CatalogQuery → List Int
  | agents cluster => cluster.toList
  | nodes cluster => cluster.toList
  | _ => []

/-- The number of values besides that the statement is given: what a count is compared with. -/
def others : CatalogQuery → Nat
  | clusters => 1
  | _ => 0

/-- The rows of a **catalog listing**. -/
def run (query : CatalogQuery) (backend : Backend) : Except Failure (List Row) :=
  (backend.query query.tables query.bound query.others).map fun store => query.rows store

end CatalogQuery

end ClusterMetrics
