import ClusterMetrics.Store.Reading

/-! # The tables of the store

The store holds the catalog of a monitored fleet and the samples taken from it. Any column of any row
may be absent, and nothing is unique, so rows are plain structures and a table is a list of them.

* One structure for each table; **`Sample`** is a row of the fact table.
* **`Store`**: the tables. **`TableName`**: their names. -/

namespace ClusterMetrics

/-- A row of `clusters`. -/
structure Cluster where
  id : Option Int
  name : Option String

/-- A row of `k8s_clusters`: it marks a cluster as one of Kubernetes. -/
structure KubernetesCluster where
  id : Option Int
  cluster : Option Int
  name : Option String

/-- A row of `agents`. -/
structure Agent where
  id : Option Int
  cluster : Option Int
  version : Option String
  address : Option String
  online : Option Int

/-- A row of `nodes`. -/
structure Node where
  id : Option Int
  cluster : Option Int
  host : Option String
  address : Option String
  os : Option String
  platform : Option String
  platformFamily : Option String
  platformVersion : Option String
  agent : Option Int

/-- A row of `processes`. -/
structure Process where
  id : Option Int
  name : Option String

/-- A row of `containers`: the external identifier is the one that the container runtime gave. -/
structure Container where
  id : Option Int
  name : Option String
  externalId : Option String

/-- A row of `k8s_namespaces`. -/
structure PodNamespace where
  id : Option Int
  name : Option String

/-- A row of `k8s_pods`. -/
structure Pod where
  id : Option Int
  name : Option String
  podNamespace : Option Int

/-- A row of `k8s_containers`: it links an external container identifier to a pod. -/
structure PodContainer where
  id : Option Int
  externalId : Option String
  pod : Option Int
  name : Option String

/-- A row of `metric_types`. -/
structure MetricType where
  id : Option Int
  name : Option String

/-- A row of `metric_names`. -/
structure MetricName where
  id : Option Int
  name : Option String
  help : Option String
  metricType : Option Int

/-- A row of `metric_labels`. -/
structure MetricLabel where
  id : Option Int
  label : Option String

/-- A row of `metrics`, one **sample**: process and container are zero where the sample is of none. -/
structure Sample where
  cluster : Option Int
  node : Option Int
  process : Option Int
  container : Option Int
  name : Option Int
  label : Option Int
  ts : Option Int
  value : Option Reading

/-- The **store**. -/
structure Store where
  clusters : List Cluster
  kubernetesClusters : List KubernetesCluster
  agents : List Agent
  nodes : List Node
  processes : List Process
  containers : List Container
  podNamespaces : List PodNamespace
  pods : List Pod
  podContainers : List PodContainer
  metricTypes : List MetricType
  metricNames : List MetricName
  metricLabels : List MetricLabel
  samples : List Sample

/-- The store without rows. -/
def Store.empty : Store := ⟨[], [], [], [], [], [], [], [], [], [], [], [], []⟩

/-- The **names of the tables**. -/
inductive TableName
  | clusters
  | kubernetesClusters
  | agents
  | nodes
  | processes
  | containers
  | podNamespaces
  | pods
  | podContainers
  | metricTypes
  | metricNames
  | metricLabels
  | samples
  deriving DecidableEq, Repr

namespace TableName

/-- The name of a table as statements spell it. -/
def label : TableName → String
  | clusters => "clusters"
  | kubernetesClusters => "k8s_clusters"
  | agents => "agents"
  | nodes => "nodes"
  | processes => "processes"
  | containers => "containers"
  | podNamespaces => "k8s_namespaces"
  | pods => "k8s_pods"
  | podContainers => "k8s_containers"
  | metricTypes => "metric_types"
  | metricNames => "metric_names"
  | metricLabels => "metric_labels"
  | samples => "metrics"

/-- All tables, in the order in which they are created. -/
def all : List TableName :=
  [clusters, kubernetesClusters, agents, nodes, processes, containers, podNamespaces, pods,
   podContainers, metricTypes, metricNames, metricLabels, samples]

/-- The table of a name. -/
def ofLabel? (name : String) : Option TableName := all.find? (·.label == name)

end TableName

end ClusterMetrics
