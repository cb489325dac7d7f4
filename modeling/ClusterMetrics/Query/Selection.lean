import ClusterMetrics.Query.Scope
import ClusterMetrics.Store.Tables

/-! # Selecting samples

Samples are selected by a scope and a filter of metric identifiers, and joined to the catalog by equal
identifiers. An absent identifier equals nothing: it satisfies no condition and joins no row.

* **`Scope.admits`**, **`MetricFilter.admits`**: the conditions on one sample.
* **`Store.labelled`**: samples with the names and labels of their metrics.
* **`EntityKind`**: the catalog table that a sample's entity is looked up in.
* **`Store.podPaths`**: the pods that a sample's container is linked to.
* **`Scope.bound`**, **`Scope.boundPod`**, **`Scope.others`**: the values that a statement is given. -/

namespace ClusterMetrics

/-- Whether a column holds a **given number**. -/
def holds (column : Option Int) (n : Int) : Bool := column == some n

/-- Whether a column holds a number **other than** the given one. -/
def holdsOther (column : Option Int) (n : Int) : Bool := column.any (· != n)

/-- Whether two columns hold the **same value**. -/
def joins {α : Type} [DecidableEq α] (a b : Option α) : Bool := a.isSome && a == b

/-- Whether a sample belongs to an entity level. Zero marks a sample of no process or no container; no
other place knows of it. -/
def EntityLevel.admits : EntityLevel → Sample → Bool
  | node, s => holds s.process 0 && holds s.container 0
  | process id, s =>
    holds s.container 0 && match id with
      | some p => holds s.process p
      | none => holdsOther s.process 0
  | container id, s =>
    holds s.process 0 && match id with
      | some c => holds s.container c
      | none => holdsOther s.container 0

/-- Whether a sample lies in a **scope**. -/
def Scope.admits (scope : Scope) (s : Sample) : Bool :=
  scope.cluster.all (holds s.cluster) && scope.node.all (holds s.node) && scope.level.admits s

/-- The identifiers of the metrics that a query is narrowed to; none means all. -/
abbrev MetricFilter := List (Option Int)

/-- Whether a sample passes a **metric filter**. -/
def MetricFilter.admits (filter : MetricFilter) (s : Sample) : Bool :=
  filter.isEmpty || (s.name.isSome && filter.contains s.name)

/-- A sample with the **name and label** of its metric. -/
structure LabelledSample where
  sample : Sample
  name : MetricName
  label : MetricLabel

/-- The samples joined to metric names and labels. -/
def Store.labelled (store : Store) (samples : List Sample) : List LabelledSample :=
  samples.flatMap fun s =>
    (store.metricNames.filter fun n => joins s.name n.id).flatMap fun n =>
      (store.metricLabels.filter fun l => joins s.label l.id).map fun l => ⟨s, n, l⟩

/-- A catalog row by **identifier and name**. -/
structure Entity where
  id : Option Int
  name : Option String

/-- The kinds of entities that samples are listed by. -/
inductive EntityKind
  | node
  | process
  | container
  deriving DecidableEq, Repr

namespace EntityKind

/-- The entities of a kind. -/
def entities (store : Store) : EntityKind → List Entity
  | node => store.nodes.map fun n => ⟨n.id, n.host⟩
  | process => store.processes.map fun p => ⟨p.id, p.name⟩
  | container => store.containers.map fun c => ⟨c.id, c.name⟩

/-- The column of a sample that refers to an entity of the kind. -/
def column : EntityKind → Sample → Option Int
  | node, s => s.node
  | process, s => s.process
  | container, s => s.container

/-- The catalog table of the kind. -/
def table : EntityKind → TableName
  | node => .nodes
  | process => .processes
  | container => .containers

/-- The name that the entity's name has in answers. -/
def nameField : EntityKind → String
  | node => "node"
  | process => "process"
  | container => "container"

/-- The name that the entity's identifier has in answers. -/
def idField : EntityKind → String
  | node => "node_id"
  | process => "process_id"
  | container => "container_id"

/-- The labelled samples joined to the entities of the kind. -/
def join (kind : EntityKind) (store : Store) (samples : List LabelledSample) :
    List (LabelledSample × Entity) :=
  samples.flatMap fun m =>
    ((kind.entities store).filter fun e => joins (kind.column m.sample) e.id).map (m, ·)

end EntityKind

/-- A **pod and its namespace**. -/
structure PodPath where
  pod : Pod
  podNamespace : PodNamespace

/-- Whether a pod lies in a scope. -/
def Scope.admitsPod (scope : Scope) (path : PodPath) : Bool :=
  scope.podNamespace.all (holds path.podNamespace.id) && scope.pod.all (holds path.pod.id)

/-- The pods in a scope that a container identifier leads to: by the container's external identifier to
its links, and from there to pods and their namespaces. -/
def Store.podPaths (store : Store) (scope : Scope) (container : Option Int) : List PodPath :=
  ((store.containers.filter fun c => joins container c.id).flatMap fun c =>
    (store.podContainers.filter fun k => joins c.externalId k.externalId).flatMap fun k =>
      (store.pods.filter fun p => joins k.pod p.id).flatMap fun p =>
        (store.podNamespaces.filter fun n => joins p.podNamespace n.id).map fun n => ⟨p, n⟩).filter
    scope.admitsPod

/-- The labelled samples joined to the pods of their containers. -/
def Store.joinPods (store : Store) (scope : Scope) (samples : List LabelledSample) :
    List (LabelledSample × PodPath) :=
  samples.flatMap fun m => (store.podPaths scope m.sample.container).map (m, ·)

/-- The numbers of a scope that every statement is given. -/
def Scope.bound (scope : Scope) : List Int :=
  scope.cluster.toList ++ scope.node.toList ++ match scope.level with
    | .node => []
    | .process id => id.toList
    | .container id => id.toList

/-- The numbers of a scope that statements on pods are given besides. -/
def Scope.boundPod (scope : Scope) : List Int := scope.podNamespace.toList ++ scope.pod.toList

/-- How often a statement is given zero, the mark of samples of no process or no container. -/
def EntityLevel.marks : EntityLevel → Nat
  | node => 2
  | process id | container id => if id.isSome then 1 else 2

/-- The number of values besides its numbers that a statement on a scope and a filter is given: the marks
of the level, and the identifiers that are absent. -/
def Scope.others (scope : Scope) (filter : MetricFilter) : Nat :=
  scope.level.marks + filter.count none

end ClusterMetrics
