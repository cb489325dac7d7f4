import ClusterMetrics.Proofs.NearestDoubles
import ClusterMetrics.Proofs.PodPaths
import ClusterMetrics.Proofs.Rollups
import ClusterMetrics.Proofs.RowFields
import ClusterMetrics.Proofs.Selections

/-! # Series of pods and clusters

The samples of a pod come from its containers, and those of a cluster from its nodes. The key of
such a sample starts with its child, so the series of a pod or a cluster adds up the means of its
children.

* **`Store.podMembers`**, **`Store.nodeMembers`**: the samples of a pod and of a cluster.
* **`Store.KeepsNodesApart`**: whether a column of nodes still tells them apart.
* **`rollup_series_add_up_means`**: the series of pods and clusters add up the means of their
  children. -/

namespace ClusterMetrics

open ClusterMetrics.Decimal

/-! ## Members -/

/-- Whether a labelled sample is **of a metric and a bucket**, and its label is not absent. -/
def LabelledSample.isOf (rule : BucketRule) (metric : String) (bucket : Int) (m : LabelledSample) :
    Bool :=
  m.name.name = some metric && m.label.label.isSome && m.sample.ts.bind rule.bucket? = some bucket

/-- Whether neither the name of a pod nor that of its namespace is absent. -/
def PodPath.isNamed (path : PodPath) : Bool :=
  path.pod.name.isSome && path.podNamespace.name.isSome

/-- Whether the container of a sample leads to a **named pod** of an identifier. -/
def Store.isOfPod (store : Store) (scope : Scope) (pod : Int) (m : LabelledSample) : Bool :=
  (store.podPaths scope m.sample.container).any fun p => joins (some pod) p.pod.id && p.isNamed

/-- The **samples of a pod**, of a metric and of a bucket. -/
def Store.podMembers (store : Store) (scope : Scope) (filter : MetricFilter) (rule : BucketRule) :
    Int × String × Int → List LabelledSample
  | (pod, metric, bucket) => (store.inRange scope filter rule).filter fun m =>
      store.isOfPod scope pod m && m.isOf rule metric bucket

/-- The **samples of a cluster**, of a metric and of a bucket. -/
def Store.nodeMembers (store : Store) (scope : Scope) (filter : MetricFilter) (rule : BucketRule) :
    String × Int → List LabelledSample
  | (metric, bucket) => (store.inRange scope filter rule).filter fun m =>
      m.sample.node.isSome && m.isOf rule metric bucket

/-- The key of a **pod and a metric**: the pod's identifier, its name, its namespace, the metric. -/
def podMetricKey (path : PodPath) (metric : String) : List Cell :=
  podKey path ++ [.text metric]

/-- Where the cell of a **pod**, a metric and a bucket lies. -/
def Store.podPlace? (store : Store) : Int × String × Int → Option (List Cell × Int)
  | (pod, metric, bucket) =>
    (store.podPath? (some pod)).map fun path => (podMetricKey path metric, bucket)

/-- Where the cell of a **metric** and a bucket lies. -/
def metricPlace? : String × Int → Option (List Cell × Int)
  | (metric, bucket) => some ([.text metric], bucket)

/-- A child of a pod: a **container and a label**. -/
def LabelledSample.containerLabel (m : LabelledSample) : Option Int × Option String :=
  (m.sample.container, m.label.label)

/-- A child of a cluster: a **node and a label**. -/
def LabelledSample.nodeLabel (m : LabelledSample) : Option Int × Option String :=
  (m.sample.node, m.label.label)

/-- What the key of a pod's sample starts with. -/
def LabelledSample.containerCells (m : LabelledSample) : List Cell :=
  [.ofInt m.sample.container, .ofText m.label.label]

/-- What the key of a cluster's sample starts with. -/
def LabelledSample.nodeCells (isWhole : Bool) (m : LabelledSample) : List Cell :=
  [nodeCell isWhole m.sample.node, .ofText m.label.label]

section Members

variable {store : Store} {scope : Scope} {filter : MetricFilter} {rule : BucketRule}

/-- A labelled sample of the range has a time, and **the bucket of that time**. -/
theorem exists_bucket_of_mem_inRange {bucketing : Bucketing} (hb : rule.bucketing = .ok bucketing)
    {m : LabelledSample} (h : m ∈ store.inRange scope filter rule) :
    m.sample.ts.bind rule.bucket? = some (bucketing.bucket (m.sample.ts.getD 0)) := by
  obtain ⟨s, hs, hm⟩ := List.mem_flatMap.1 h
  obtain ⟨n, -, hm⟩ := List.mem_flatMap.1 hm
  obtain ⟨l, -, rfl⟩ := List.mem_map.1 hm
  obtain ⟨t, hts, hbucket⟩ := exists_bucket_of_isInRange hb (List.mem_filter.1 hs).2
  rw [hbucket, hts]
  rfl

/-- Without a bucketing **no sample** is of a bucket. -/
theorem isOf_of_bucketing_error {f : Failure} (hb : rule.bucketing = .error f) (metric : String)
    (bucket : Int) (m : LabelledSample) : m.isOf rule metric bucket = false := by
  have hnone : ∀ t, rule.bucket? t = none := by
    intro t
    rw [BucketRule.bucket?, hb]
    rfl
  cases hts : m.sample.ts with
  | none => simp [LabelledSample.isOf, hts]
  | some t => simp [LabelledSample.isOf, hts, hnone t]

/-- Containers and labels are told apart **by their cells**. -/
theorem containerCells_eq_iff {m m' : LabelledSample} :
    m.containerCells = m'.containerCells ↔ m.containerLabel = m'.containerLabel := by
  simp [LabelledSample.containerCells, LabelledSample.containerLabel, ofInt_inj, ofText_inj]

/-- The cell of a node is absent only **without a node**. -/
theorem nodeCell_ne_null (isWhole : Bool) {node : Option Int} :
    (nodeCell isWhole node != .null) = node.isSome := by
  rw [nodeCell, ofInt_ne_null]
  cases isWhole <;> cases node <;> rfl

/-- What makes the key of a cluster's sample one **of a metric and a bucket**. -/
theorem isOf_iff_nodeKey {bucketing : Bucketing} (hb : rule.bucketing = .ok bucketing)
    (isWhole : Bool) (metric : String) (bucket : Int) {m : LabelledSample}
    (hm : m ∈ store.inRange scope filter rule) :
    (isComplete (m.nodeCells isWhole ++ [.ofText m.name.name]) &&
        ([Cell.ofText m.name.name], bucketing.bucket (m.sample.ts.getD 0))
          = ([Cell.text metric], bucket))
      = (m.sample.node.isSome && m.isOf rule metric bucket) := by
  rw [LabelledSample.isOf, exists_bucket_of_mem_inRange hb hm, Bool.eq_iff_iff]
  cases hname : m.name.name with
  | none => simp
  | some name =>
    simp [isComplete, LabelledSample.nodeCells, nodeCell_ne_null, ofText_ne_null, and_assoc,
      and_comm, and_left_comm]

/-- The samples of the place of a metric are made **from its members**. -/
theorem nodeSamples_filter {bucketing : Bucketing} (hb : rule.bucketing = .ok bucketing)
    (metric : String) (bucket : Int) :
    (store.nodeSamples scope filter rule).filter (fun s => isComplete s.key &&
        (s.key.drop 2, bucketing.bucket s.ts) = ([Cell.text metric], bucket))
      = (store.nodeMembers scope filter rule (metric, bucket)).map fun m =>
          keyed (m.nodeCells (namesNodes (store.inRange scope filter rule)) ++ [.text metric])
            m := by
  rw [Store.nodeSamples, List.filter_map, Store.nodeMembers]
  have hmembers : (store.inRange scope filter rule).filter (fun m => m.sample.node.isSome &&
        m.isOf rule metric bucket) = _ :=
    List.filter_congr fun m hm =>
      (isOf_iff_nodeKey hb (namesNodes (store.inRange scope filter rule)) metric bucket hm).symm
  rw [hmembers]
  apply List.map_congr_left
  intro m hm
  -- members bear the metric, so their keys end in it
  have hcond := (List.mem_filter.1 hm).2
  rw [Function.comp_apply, Bool.and_eq_true, decide_eq_true_eq, Prod.mk.injEq] at hcond
  rw [← hcond.2.1]
  rfl

/-- What makes the key of a pod's sample one **of a metric and a bucket**. -/
theorem isOf_iff_podKey {bucketing : Bucketing} (hb : rule.bucketing = .ok bucketing)
    {path : PodPath} {pod : Int} (hpod : path.pod.id = some pod) (metric : String) (bucket : Int)
    {m : LabelledSample} (hm : m ∈ store.inRange scope filter rule)
    (hcontainer : m.sample.container.isSome = true) :
    (isComplete (m.containerCells ++ (podKey path ++ [.ofText m.name.name])) &&
        (podKey path ++ [Cell.ofText m.name.name], bucketing.bucket (m.sample.ts.getD 0))
          = (podMetricKey path metric, bucket))
      = (path.isNamed && m.isOf rule metric bucket) := by
  rw [LabelledSample.isOf, exists_bucket_of_mem_inRange hb hm, Bool.eq_iff_iff]
  cases hname : m.name.name with
  | none => simp [podMetricKey]
  | some name =>
    simp [isComplete, LabelledSample.containerCells, podKey, podMetricKey, ofInt_ne_null,
      ofText_ne_null, hcontainer, hpod, PodPath.isNamed, and_assoc, and_comm, and_left_comm]

section Pods

variable (unique : store.HasUniqueIds)
include unique

/-- A pod of a container that bears an identifier is **the path of that identifier**. -/
theorem eq_of_mem_podPaths {pod : Int} {path : PodPath} (h : store.podPath? (some pod) = some path)
    {container : Option Int} {p : PodPath} (hp : p ∈ store.podPaths scope container)
    (hid : joins (some pod) p.pod.id = true) : p = path := by
  have hpath := podPath?_of_mem_podPaths unique hp
  rw [joins_some_left.1 hid, h] at hpath
  exact (Option.some.inj hpath).symm

/-- A container leads to a named pod if it leads to the pod, and **the path of the pod** is
named. -/
theorem isOfPod_eq {pod : Int} {path : PodPath} (h : store.podPath? (some pod) = some path)
    (m : LabelledSample) :
    store.isOfPod scope pod m
      = (((store.podPaths scope m.sample.container).any fun p => joins (some pod) p.pod.id) &&
          path.isNamed) := by
  rw [Store.isOfPod, Bool.eq_iff_iff, Bool.and_eq_true, List.any_eq_true, List.any_eq_true]
  constructor
  · rintro ⟨p, hp, hcond⟩
    rw [Bool.and_eq_true] at hcond
    exact ⟨⟨p, hp, hcond.1⟩, eq_of_mem_podPaths unique h hp hcond.1 ▸ hcond.2⟩
  · rintro ⟨⟨p, hp, hid⟩, hnamed⟩
    refine ⟨p, hp, ?_⟩
    rw [hid, eq_of_mem_podPaths unique h hp hid, hnamed]
    rfl

/-- The samples of the place of a pod are made **from its members**. -/
theorem podSamples_filter (links : store.LinksDiffer) {bucketing : Bucketing}
    (hb : rule.bucketing = .ok bucketing) {pod : Int} {path : PodPath}
    (h : store.podPath? (some pod) = some path) (metric : String) (bucket : Int) :
    (store.podSamples scope filter rule).filter (fun s => isComplete s.key &&
        (s.key.drop 2, bucketing.bucket s.ts) = (podMetricKey path metric, bucket))
      = (store.podMembers scope filter rule (pod, metric, bucket)).map fun m =>
          keyed (m.containerCells ++ podMetricKey path metric) m := by
  rw [Store.podSamples, Store.joinPods, List.map_flatMap, List.filter_flatMap, Store.podMembers]
  apply flatMap_eq_map_filter
  intro m hm
  rw [List.map_map, List.filter_map]
  -- a path of the container makes a sample of the place if it is the path of the pod
  have hpaths : ∀ p ∈ store.podPaths scope m.sample.container,
      (isComplete (m.containerCells ++ (podKey p ++ [.ofText m.name.name])) &&
        (podKey p ++ [Cell.ofText m.name.name], bucketing.bucket (m.sample.ts.getD 0))
          = (podMetricKey path metric, bucket))
        = ((path.isNamed && m.isOf rule metric bucket) && joins (some pod) p.pod.id) := by
    intro p hp
    have hcontainer : m.sample.container.isSome = true := by
      cases hnone : m.sample.container with
      | none => simp [hnone, Store.podPaths] at hp
      | some c => rfl
    cases hid : joins (some pod) p.pod.id with
    | true =>
      have heq : p = path := eq_of_mem_podPaths unique h hp hid
      subst heq
      rw [Bool.and_true]
      exact isOf_iff_podKey hb (joins_some_left.1 hid) metric bucket hm hcontainer
    | false =>
      have hne : podKey p ++ [Cell.ofText m.name.name] ≠ podMetricKey path metric := by
        intro heq
        have hcell : Cell.ofInt p.pod.id = .ofInt path.pod.id := (List.cons.inj heq).1
        have hjoins := joins_of_podPath? unique h
        rw [← ofInt_inj.1 hcell, hid] at hjoins
        exact Bool.noConfusion hjoins
      simp [hne]
  refine (congrArg (List.map _) (List.filter_congr hpaths)).trans ?_
  rw [← List.filter_filter, podPaths_filter unique links h, isOfPod_eq unique h m, Bool.and_assoc]
  cases (store.podPaths scope m.sample.container).any fun p => joins (some pod) p.pod.id with
  | false => rfl
  | true =>
    cases hof : path.isNamed && m.isOf rule metric bucket with
    | false => simp
    | true =>
      have hname : m.name.name = some metric := by
        simp only [LabelledSample.isOf, Bool.and_eq_true, decide_eq_true_eq] at hof
        exact hof.2.1.1
      simp only [hname, LabelledSample.containerCells, podMetricKey, podKey, List.filter_cons,
        List.filter_nil, if_true, List.map_cons, List.map_nil, Function.comp_apply, Bool.and_true,
        ofText_some, List.cons_append, List.nil_append]

/-- The sums of a series of pods **add up** the means of containers and labels. -/
theorem podCells_addUp (links : store.LinksDiffer) {bucketing : Bucketing}
    (hb : rule.bucketing = .ok bucketing) {means : List SeriesCell}
    (hm : cellMeans bucketing (store.podSamples scope filter rule) = .ok means) :
    AddsUp (addUp (·.drop 2) means) store.podPlace? (store.podMembers scope filter rule)
      LabelledSample.containerLabel := by
  have hcells : AddsUp (addUp (·.drop 2) means) store.podPlace?
      (store.podMembers scope filter rule) LabelledSample.containerCells := by
    refine AddsUp.of_cellMeans hm ?_ ?_ ?_
    · rintro ⟨pod, metric, bucket⟩ place hplace
      obtain ⟨path, hpath, rfl⟩ := Option.map_eq_some_iff.1 hplace
      exact podSamples_filter unique links hb hpath metric bucket
    · rintro ⟨pod, metric, bucket⟩ hne
      obtain ⟨m, hmem⟩ := List.exists_mem_of_ne_nil _ hne
      have hcond := (List.mem_filter.1 hmem).2
      rw [Bool.and_eq_true, Store.isOfPod, List.any_eq_true] at hcond
      obtain ⟨⟨p, hp, hjoins⟩, -⟩ := hcond
      rw [Bool.and_eq_true] at hjoins
      have hpath := podPath?_of_mem_podPaths unique hp
      rw [joins_some_left.1 hjoins.1] at hpath
      simp [Store.podPlace?, hpath]
    · intro s hs hcomplete
      obtain ⟨⟨m, p⟩, hr, rfl⟩ := List.mem_map.1 hs
      obtain ⟨_, -, hpair⟩ := List.mem_flatMap.1 hr
      obtain ⟨_, hp, heq⟩ := List.mem_map.1 hpair
      cases heq
      have hpath := podPath?_of_mem_podPaths unique hp
      cases hname : m.name.name with
      | none => simp [keyed, isComplete, hname] at hcomplete
      | some metric =>
        cases hid : p.pod.id with
        | none => simp [keyed, isComplete, hid, Cell.ofInt] at hcomplete
        | some pod =>
          rw [hid] at hpath
          refine ⟨(pod, metric, bucketing.bucket (m.sample.ts.getD 0)), ?_⟩
          rw [Store.podPlace?, hpath]
          simp only [Option.map_some, keyed, podMetricKey, podKey, hid, ofText_some]
          rfl
  exact hcells.congr fun _ _ _ _ _ => containerCells_eq_iff

end Pods

/-- The sums of a series of a cluster **add up** the means of the cells of nodes and labels. -/
theorem nodeCells_addUp {bucketing : Bucketing} (hb : rule.bucketing = .ok bucketing)
    {means : List SeriesCell}
    (hm : cellMeans bucketing (store.nodeSamples scope filter rule) = .ok means) :
    AddsUp (addUp (·.drop 2) means) metricPlace? (store.nodeMembers scope filter rule)
      (LabelledSample.nodeCells (namesNodes (store.inRange scope filter rule))) := by
  refine AddsUp.of_cellMeans hm ?_ ?_ ?_
  · rintro ⟨metric, bucket⟩ place hplace
    cases hplace
    exact nodeSamples_filter hb metric bucket
  · intro i _
    rfl
  · intro s hs hcomplete
    obtain ⟨m, -, rfl⟩ := List.mem_map.1 hs
    cases hname : m.name.name with
    | none => simp [keyed, isComplete, hname] at hcomplete
    | some metric =>
      refine ⟨(metric, bucketing.bucket (m.sample.ts.getD 0)), ?_⟩
      simp [metricPlace?, keyed]

/-- Whether nodes that share a bucket of a metric, and a label, are told apart
**by their cells**. -/
def Store.KeepsNodesApart (store : Store) (scope : Scope) (filter : MetricFilter)
    (rule : BucketRule) : Prop :=
  ∀ i, ∀ m ∈ store.nodeMembers scope filter rule i, ∀ m' ∈ store.nodeMembers scope filter rule i,
    m.nodeCells (namesNodes (store.inRange scope filter rule))
        = m'.nodeCells (namesNodes (store.inRange scope filter rule)) →
      m.nodeLabel = m'.nodeLabel

/-- Nodes and labels are told apart by their cells **where nodes are kept apart**. -/
theorem nodeCells_eq_iff (apart : store.KeepsNodesApart scope filter rule) {i : String × Int}
    {m m' : LabelledSample} (hm : m ∈ store.nodeMembers scope filter rule i)
    (hm' : m' ∈ store.nodeMembers scope filter rule i) :
    m.nodeCells (namesNodes (store.inRange scope filter rule))
        = m'.nodeCells (namesNodes (store.inRange scope filter rule)) ↔
      m.nodeLabel = m'.nodeLabel := by
  refine ⟨apart i m hm m' hm', fun h => ?_⟩
  obtain ⟨hnode, hlabel⟩ := Prod.mk.inj h
  rw [LabelledSample.nodeCells, LabelledSample.nodeCells, hnode, hlabel]

/-- Nodes are kept apart **exactly if** cells and nodes make the same children in every bucket. -/
theorem keepsNodesApart_iff :
    store.KeepsNodesApart scope filter rule ↔
      ∀ i, (groupBy (LabelledSample.nodeCells (namesNodes (store.inRange scope filter rule)))
          (store.nodeMembers scope filter rule i)).map (·.2)
        = (groupBy LabelledSample.nodeLabel (store.nodeMembers scope filter rule i)).map (·.2) := by
  constructor
  · intro apart i
    exact groupBy_members_eq _ fun m hm m' hm' => nodeCells_eq_iff apart hm hm'
  · intro h i m hm m' hm' heq
    exact ((groupBy_members_eq_iff.1 (h i)) m hm m' hm').1 heq

/-- Where every sample of the range names a node, **nodes are kept apart**. -/
theorem keepsNodesApart_of_namesNodes
    (names : namesNodes (store.inRange scope filter rule) = true) :
    store.KeepsNodesApart scope filter rule := by
  intro i m _ m' _ h
  rw [names] at h
  simpa [LabelledSample.nodeCells, LabelledSample.nodeLabel, nodeCell, ofInt_inj, ofText_inj]
    using h

/-- Where the identifiers of nodes lie below `2 ^ 53`, **nodes are kept apart**. -/
theorem keepsNodesApart_of_lt (small : ∀ m ∈ store.inRange scope filter rule,
      ∀ n ∈ m.sample.node, n.natAbs < twoTo 53) :
    store.KeepsNodesApart scope filter rule := by
  -- rounding leaves such identifiers as they are, whether the column has a gap or not
  have hnode : ∀ m ∈ store.inRange scope filter rule,
      m.sample.node.map nearestDouble = m.sample.node := by
    intro m hm
    cases hn : m.sample.node with
    | none => rfl
    | some n => rw [Option.map_some, nearestDouble_eq_self (small m hm n hn)]
  rintro ⟨metric, bucket⟩ m hm m' hm' h
  have hm := hnode m (List.mem_filter.1 hm).1
  have hm' := hnode m' (List.mem_filter.1 hm').1
  cases hwhole : namesNodes (store.inRange scope filter rule) <;>
    simpa [LabelledSample.nodeCells, LabelledSample.nodeLabel, nodeCell, ofInt_inj, ofText_inj,
      hwhole, hm, hm'] using h

end Members

/-! ## Answers -/

section Answers

variable {store : Store} {scope : Scope} {filter : MetricFilter} {rule : BucketRule}
  {cells : List SeriesCell}

/-- The order of pods tells **their keys** apart. -/
theorem podOrder_inj {path path' : PodPath} {metric metric' : String}
    (h : SeriesQuery.podOrder (podMetricKey path metric)
      = SeriesQuery.podOrder (podMetricKey path' metric')) :
    podMetricKey path metric = podMetricKey path' metric' := by
  simp only [podMetricKey, podKey, List.cons_append, List.nil_append, SeriesQuery.podOrder,
    List.cons.injEq] at h ⊢
  obtain ⟨hspace, hname, hid, hmetric⟩ := h
  exact ⟨hid, hname, hspace, hmetric⟩

/-- The series of pods **adds up** the means of containers and labels, in order. -/
theorem pods_cells_addUp (unique : store.HasUniqueIds) (links : store.LinksDiffer)
    (h : SeriesQuery.pods.cells store scope filter rule = .ok cells) :
    AddsUp cells store.podPlace? (store.podMembers scope filter rule)
        LabelledSample.containerLabel ∧
      cells.Pairwise fun c d =>
        keyLt (c.orderKey SeriesQuery.podOrder) (d.orderKey SeriesQuery.podOrder) = true := by
  rcases SeriesQuery.cells_cases h with ⟨bucketing, means, hb, hm, rfl⟩ | ⟨⟨f, hb⟩, rfl⟩
  · have hsums := podCells_addUp unique links hb hm
    refine ⟨hsums.inOrder _, inOrder_pairwise addUp_places_nodup ?_⟩
    -- identifier, name, namespace and metric make up the whole key
    intro c hc d hd horder
    obtain ⟨⟨_, metric, _⟩, hcplace, -⟩ := hsums.sound c hc
    obtain ⟨⟨_, metric', _⟩, hdplace, -⟩ := hsums.sound d hd
    obtain ⟨path, -, hcplace⟩ := Option.map_eq_some_iff.1 hcplace
    obtain ⟨path', -, hdplace⟩ := Option.map_eq_some_iff.1 hdplace
    have hckey : podMetricKey path metric = c.key := congrArg Prod.fst hcplace
    have hdkey : podMetricKey path' metric' = d.key := congrArg Prod.fst hdplace
    rw [← hckey, ← hdkey] at horder ⊢
    exact podOrder_inj horder
  · refine ⟨AddsUp.nil fun i => ?_, List.Pairwise.nil⟩
    exact List.filter_eq_nil_iff.2 fun m _ => by simp [isOf_of_bucketing_error hb]

/-- The series of a cluster **adds up** the means of the cells of nodes and labels, in order. -/
theorem clusterSummary_cells_addUp
    (h : SeriesQuery.clusterSummary.cells store scope filter rule = .ok cells) :
    AddsUp cells metricPlace? (store.nodeMembers scope filter rule)
        (LabelledSample.nodeCells (namesNodes (store.inRange scope filter rule))) ∧
      cells.Pairwise fun c d => keyLt (c.orderKey id) (d.orderKey id) = true := by
  rcases SeriesQuery.cells_cases h with ⟨bucketing, means, hb, hm, rfl⟩ | ⟨⟨f, hb⟩, rfl⟩
  · refine ⟨(nodeCells_addUp hb hm).inOrder _, ?_⟩
    exact inOrder_pairwise addUp_places_nodup fun _ _ _ _ h => h
  · refine ⟨AddsUp.nil fun i => ?_, List.Pairwise.nil⟩
    exact List.filter_eq_nil_iff.2 fun m _ => by simp [isOf_of_bucketing_error hb]

/-- **Rollup series add up the means of children, each child once.** Whenever the series of pods is
answered, it has one cell for each pod, metric and bucket that has a sample, and the value of the
cell is the sum of the means of the pod's containers and labels; its cells are strictly in the order
of bucket, namespace, pod, identifier and metric. The series of a cluster is the same of metrics and
buckets, with cells of nodes and labels for children; these are the nodes and labels themselves
where nodes are kept apart, and only there. -/
theorem rollup_series_add_up_means {backend : Backend} (unique : backend.store.HasUniqueIds)
    (links : backend.store.LinksDiffer) (scope : Scope) (filter : MetricFilter)
    (rule : BucketRule) :
    (∀ rows, SeriesQuery.pods.run backend scope filter rule = .ok rows →
      ∃ cells : List SeriesCell, rows = cells.map (seriesRow SeriesQuery.pods.keyNames) ∧
        AddsUp cells backend.store.podPlace? (backend.store.podMembers scope filter rule)
          LabelledSample.containerLabel ∧
        cells.Pairwise fun c d =>
          keyLt (c.orderKey SeriesQuery.podOrder) (d.orderKey SeriesQuery.podOrder) = true) ∧
    ∀ rows, SeriesQuery.clusterSummary.run backend scope filter rule = .ok rows →
      ∃ cells : List SeriesCell, rows = cells.map (seriesRow SeriesQuery.clusterSummary.keyNames) ∧
        AddsUp cells metricPlace? (backend.store.nodeMembers scope filter rule)
          (LabelledSample.nodeCells (namesNodes (backend.store.inRange scope filter rule))) ∧
        (backend.store.KeepsNodesApart scope filter rule →
          AddsUp cells metricPlace? (backend.store.nodeMembers scope filter rule)
            LabelledSample.nodeLabel) ∧
        (backend.store.KeepsNodesApart scope filter rule ↔
          ∀ i, (groupBy
              (LabelledSample.nodeCells (namesNodes (backend.store.inRange scope filter rule)))
              (backend.store.nodeMembers scope filter rule i)).map (·.2)
            = (groupBy LabelledSample.nodeLabel
                (backend.store.nodeMembers scope filter rule i)).map (·.2)) ∧
        cells.Pairwise fun c d => keyLt (c.orderKey id) (d.orderKey id) = true := by
  constructor
  · intro rows answered
    obtain ⟨cells, hcells, hrows⟩ := SeriesQuery.rows_eq_ok_iff.1 (SeriesQuery.rows_of_run answered)
    obtain ⟨hsums, horder⟩ := pods_cells_addUp unique links hcells
    exact ⟨cells, hrows, hsums, horder⟩
  · intro rows answered
    obtain ⟨cells, hcells, hrows⟩ := SeriesQuery.rows_eq_ok_iff.1 (SeriesQuery.rows_of_run answered)
    obtain ⟨hsums, horder⟩ := clusterSummary_cells_addUp hcells
    refine ⟨cells, hrows, hsums, fun apart => ?_, keepsNodesApart_iff, horder⟩
    exact hsums.congr fun i m hm m' hm' => nodeCells_eq_iff apart hm hm'

end Answers

/-- A pod of two containers on one node. The first container has two samples of a minute, and the
second has one. -/
def onePod : Store :=
  { Store.empty with
    nodes := [⟨some 1, some 1, some "alpha", none, none, none, none, none, none⟩]
    containers := [⟨some 1, some "web", some "c1"⟩, ⟨some 2, some "log", some "c2"⟩]
    podNamespaces := [⟨some 7, some "prod"⟩]
    pods := [⟨some 5, some "shop", some 7⟩]
    podContainers := [⟨some 1, some "c1", some 5, none⟩, ⟨some 2, some "c2", some 5, none⟩]
    metricNames := [⟨some 1, some "cpu", none, none⟩]
    metricLabels := [⟨some 1, some "total"⟩]
    samples := [⟨some 1, some 1, some 0, some 1, some 1, some 1, some 60, some (.number 1.0)⟩,
      ⟨some 1, some 1, some 0, some 1, some 1, some 1, some 75, some (.number 3.0)⟩,
      ⟨some 1, some 1, some 0, some 2, some 1, some 1, some 90, some (.number 5.0)⟩] }

/-- The pod of two containers, and its cluster, have one cell each. -/
theorem rollup_series_of_one_pod :
    onePod.HasUniqueIds ∧ onePod.LinksDiffer ∧
      (∃ (rows : List Row) (cells : List SeriesCell),
        SeriesQuery.pods.run (.ofStore onePod) ⟨some 1, none, .container none, none, none⟩ []
            firstMinutes = .ok rows ∧
          rows = cells.map (seriesRow SeriesQuery.pods.keyNames) ∧
            ∃! c, c ∈ cells ∧ onePod.podPlace? (5, "cpu", 60) = some c.place) ∧
      ∃ (rows : List Row) (cells : List SeriesCell),
        SeriesQuery.clusterSummary.run (.ofStore onePod) ⟨some 1, none, .container none, none, none⟩
            [] firstMinutes = .ok rows ∧
          rows = cells.map (seriesRow SeriesQuery.clusterSummary.keyNames) ∧
            AddsUp cells metricPlace?
              (onePod.nodeMembers ⟨some 1, none, .container none, none, none⟩ [] firstMinutes)
              LabelledSample.nodeLabel := by
  have hunique : onePod.HasUniqueIds := by constructor <;> decide
  have hlinks : onePod.LinksDiffer := by decide
  obtain ⟨hpods, hcluster⟩ := @rollup_series_add_up_means (.ofStore onePod) hunique hlinks
    ⟨some 1, none, .container none, none, none⟩ [] firstMinutes
  refine ⟨hunique, hlinks, ?_, ?_⟩
  · obtain ⟨rows, hrun⟩ : ∃ rows, SeriesQuery.pods.run (.ofStore onePod)
        ⟨some 1, none, .container none, none, none⟩ [] firstMinutes = .ok rows := ⟨_, rfl⟩
    obtain ⟨cells, hrows, hsums, -⟩ := hpods rows hrun
    exact ⟨rows, cells, hrun, hrows, hsums.complete _ (List.cons_ne_nil _ _)⟩
  · obtain ⟨rows, hrun⟩ : ∃ rows, SeriesQuery.clusterSummary.run (.ofStore onePod)
        ⟨some 1, none, .container none, none, none⟩ [] firstMinutes = .ok rows := ⟨_, rfl⟩
    obtain ⟨cells, hrows, -, hsums, -⟩ := hcluster rows hrun
    exact ⟨rows, cells, hrun, hrows, hsums (keepsNodesApart_of_namesNodes (by decide))⟩

/-- Two nodes whose identifiers have one nearest double, and a sample of no node. -/
def closeNodes : Store :=
  { Store.empty with
    metricNames := [⟨some 1, some "cpu", none, none⟩]
    metricLabels := [⟨some 1, some "total"⟩]
    samples := [
      ⟨some 1, some 9007199254740992, some 0, some 0, some 1, some 1, some 60, some (.number 10.0)⟩,
      ⟨some 1, some 9007199254740993, some 0, some 0, some 1, some 1, some 60, some (.number 30.0)⟩,
      ⟨some 1, none, some 0, some 0, some 1, some 1, some 60, some (.number 5.0)⟩] }

/-- Nodes that have one nearest double are summarised **as one node**: the cluster has two children,
and the value of its cell is a single mean over both. -/
theorem close_nodes_are_one_child :
    closeNodes.HasUniqueIds ∧ closeNodes.LinksDiffer ∧
      (groupBy LabelledSample.nodeLabel (closeNodes.nodeMembers ⟨some 1, none, .node, none, none⟩ []
          firstMinutes ("cpu", 60))).map (·.2.map (·.sample.value))
        = [[some (.number 10.0)], [some (.number 30.0)]] ∧
      ∃ (rows : List Row) (cells : List SeriesCell),
        SeriesQuery.clusterSummary.run (.ofStore closeNodes) ⟨some 1, none, .node, none, none⟩ []
            firstMinutes = .ok rows ∧
          rows = cells.map (seriesRow SeriesQuery.clusterSummary.keyNames) ∧
            ∃ c ∈ cells, metricPlace? ("cpu", 60) = some c.place ∧
              c.value = compensatedSum
                ([mean (numbers [some (.number 10.0), some (.number 30.0)])].filter
                  fun x => !isNaN x) := by
  have hunique : closeNodes.HasUniqueIds := by constructor <;> decide
  refine ⟨hunique, by decide, rfl, ?_⟩
  obtain ⟨rows, hrun⟩ : ∃ rows, SeriesQuery.clusterSummary.run (.ofStore closeNodes)
      ⟨some 1, none, .node, none, none⟩ [] firstMinutes = .ok rows := ⟨_, rfl⟩
  obtain ⟨cells, hcells, hrows⟩ := SeriesQuery.rows_eq_ok_iff.1 (SeriesQuery.rows_of_run hrun)
  obtain ⟨hsums, -⟩ := clusterSummary_cells_addUp hcells
  obtain ⟨c, ⟨hc, hplace⟩, -⟩ := hsums.complete ("cpu", 60) (List.cons_ne_nil _ _)
  obtain ⟨⟨metric, bucket⟩, hi, -, hvalue⟩ := hsums.sound c hc
  cases hplace.trans hi.symm
  exact ⟨rows, cells, hrun, hrows, c, hc, hplace, hvalue⟩

end ClusterMetrics
