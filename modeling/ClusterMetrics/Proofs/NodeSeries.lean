import ClusterMetrics.Proofs.EntitySeries
import ClusterMetrics.Proofs.LevelIsolation
import ClusterMetrics.Proofs.SeriesRollups
import ClusterMetrics.Proofs.SeriesSelections

/-! # Series of a cluster and of its nodes

The series of a cluster adds up means over nodes and labels, and the series of nodes lists means
over hosts, nodes and labels. Where every node sample names a node of a host, both take the same means: a
node has one host, so the two kinds of keys tell the same samples apart.

* **`Store.NodesAreHosted`**: whether every node sample names a node of a host.
* **`Store.hostKey`**: the key of a node's sample, read off the sample.
* **`entitySamples_eq_map`**: no sample is lost or repeated in the join to nodes.
* **`cluster_series_adds_up_node_series`**: the means that the series of a cluster adds up are the
  values of the series of its nodes. -/

namespace ClusterMetrics

open ClusterMetrics.Decimal

/-- Whether every node sample **names a node of a host**. -/
def Store.NodesAreHosted (store : Store) : Prop :=
  ∀ s ∈ store.samples, LevelName.node.has s = true →
    ∃ n ∈ store.nodes, joins s.node n.id = true ∧ n.host.isSome = true

instance (store : Store) : Decidable store.NodesAreHosted :=
  inferInstanceAs (Decidable (∀ s ∈ store.samples, LevelName.node.has s = true →
    ∃ n ∈ store.nodes, joins s.node n.id = true ∧ n.host.isSome = true))

/-- The **node** of a labelled sample. -/
def Store.nodeOf? (store : Store) (m : LabelledSample) : Option Entity :=
  findById Entity.id (EntityKind.node.entities store) m.sample.node

/-- The key of a node's sample: **host, node, metric and label**. -/
def Store.hostKey (store : Store) (m : LabelledSample) : List Cell :=
  [.ofText ((store.nodeOf? m).bind (·.name)), .ofInt m.sample.node, .ofText m.name.name,
    .ofText m.label.label]

section Keys

variable {store : Store} {scope : Scope} {filter : MetricFilter} {rule : BucketRule}
  {bucketing : Bucketing} (hb : rule.bucketing = .ok bucketing)
include hb

/-- Hosts tell the members of a metric and a bucket apart **as nodes and labels do**. -/
theorem hostKey_place_eq_iff {metric : String} {bucket : Int} {m m' : LabelledSample}
    (hm : m ∈ store.nodeMembers scope filter rule (metric, bucket))
    (hm' : m' ∈ store.nodeMembers scope filter rule (metric, bucket)) :
    (keyed (store.hostKey m) m).place bucketing = (keyed (store.hostKey m') m').place bucketing ↔
      m.nodeLabel = m'.nodeLabel := by
  have hmember : ∀ {m : LabelledSample},
      m ∈ store.nodeMembers scope filter rule (metric, bucket) →
        m.name.name = some metric ∧ bucketing.bucket (m.sample.ts.getD 0) = bucket := by
    intro m hm
    obtain ⟨hrange, hof⟩ := List.mem_filter.1 hm
    rw [LabelledSample.isOf, exists_bucket_of_mem_inRange hb hrange] at hof
    simp only [Bool.and_eq_true, decide_eq_true_eq, Option.some.injEq] at hof
    exact ⟨hof.2.1.1, hof.2.2⟩
  obtain ⟨hname, hbucket⟩ := hmember hm
  obtain ⟨hname', hbucket'⟩ := hmember hm'
  have hplace : ∀ m : LabelledSample, (keyed (store.hostKey m) m).place bucketing
      = (store.hostKey m, bucketing.bucket (m.sample.ts.getD 0)) := fun _ => rfl
  rw [hplace, hplace, hbucket, hbucket', Prod.mk.injEq, and_iff_left rfl]
  constructor
  · intro hkey
    simp only [Store.hostKey, List.cons.injEq, ofInt_inj, ofText_inj] at hkey
    exact Prod.ext hkey.2.1 hkey.2.2.2.1
  · intro hlabel
    -- the host of a sample is that of its node
    obtain ⟨hnode, hlabel⟩ := Prod.mk.inj hlabel
    simp only [Store.hostKey, Store.nodeOf?, hnode, hlabel, hname, hname']

end Keys

/-- Cells that add up members of metrics and buckets have one of a metric and a bucket **if it has
members**. -/
theorem AddsUp.exists_metric_iff {κ : Type} [DecidableEq κ] {cells : List SeriesCell}
    {members : String × Int → List LabelledSample} {child : LabelledSample → κ}
    (h : AddsUp cells metricPlace? members child) {metric : String} {bucket : Int} :
    (∃ c ∈ cells, c.place = ([Cell.text metric], bucket)) ↔ members (metric, bucket) ≠ [] := by
  rw [← List.mem_map, h.mem_places_iff]
  constructor
  · rintro ⟨i, hplace, hne⟩
    cases hplace
    exact hne
  · intro hne
    exact ⟨(metric, bucket), rfl, hne⟩

section Hosted

variable {store : Store} {scope : Scope} {filter : MetricFilter} {rule : BucketRule}
  (unique : store.HasUniqueIds) (hosted : store.NodesAreHosted) (level : scope.level = .node)
include unique hosted level

/-- A labelled sample of the range is of **a node of a host**. -/
theorem exists_nodeOf? {m : LabelledSample} (hm : m ∈ store.inRange scope filter rule) :
    ∃ e, store.nodeOf? m = some e ∧ e.id = m.sample.node ∧ e.id.isSome = true ∧
      e.name.isSome = true := by
  obtain ⟨s, hs, hm⟩ := List.mem_flatMap.1 hm
  obtain ⟨name, -, hm⟩ := List.mem_flatMap.1 hm
  obtain ⟨label, -, rfl⟩ := List.mem_map.1 hm
  obtain ⟨hs, hrange⟩ := List.mem_filter.1 hs
  rw [Bool.and_eq_true, Bool.and_eq_true, Scope.admits, Bool.and_eq_true, level] at hrange
  obtain ⟨n, hn, hjoins, hhost⟩ := hosted s hs hrange.1.1.2
  obtain ⟨x, hnode, hid⟩ := joins_iff.1 hjoins
  refine ⟨⟨n.id, n.host⟩, ?_, hid.trans hnode.symm, by rw [hid]; rfl, hhost⟩
  exact (findById_eq_some_iff (unique.entities .node)).2 ⟨List.mem_map_of_mem hn, hjoins⟩

/-- Every sample of the range **names a node**. -/
theorem namesNodes_inRange : namesNodes (store.inRange scope filter rule) = true := by
  refine List.all_eq_true.2 fun m hm => ?_
  obtain ⟨e, -, hid, hsome, -⟩ := exists_nodeOf? unique hosted level hm
  rw [← hid]
  exact hsome

/-- The samples of a series of nodes are the samples of the range, **each once**. -/
theorem entitySamples_eq_map :
    store.entitySamples .node scope filter rule
      = (store.inRange scope filter rule).map fun m => keyed (store.hostKey m) m := by
  rw [Store.entitySamples, EntityKind.join, List.map_flatMap]
  refine (flatMap_eq_map_filter (p := fun _ => true) fun m hm => ?_).trans
    (by rw [List.filter_true])
  obtain ⟨e, he, hid, -, -⟩ := exists_nodeOf? unique hosted level hm
  have hfound : findById Entity.id (EntityKind.node.entities store)
      (EntityKind.node.column m.sample) = some e := he
  rw [filter_joins (unique.entities .node), hfound]
  simp [Store.hostKey, he, hid]

variable {bucketing : Bucketing} (hb : rule.bucketing = .ok bucketing)
include hb

variable (filter) in
/-- The samples of the cells of a metric and a bucket are made **from the members** that the cluster
has there. -/
theorem entitySamples_filter (metric : String) (bucket : Int) :
    (store.entitySamples .node scope filter rule).filter (fun s => isComplete s.key &&
        ((SeriesQuery.entities .node).metric? s.key = some metric &&
          bucketing.bucket s.ts = bucket))
      = (store.nodeMembers scope filter rule (metric, bucket)).map fun m =>
          keyed (store.hostKey m) m := by
  rw [entitySamples_eq_map unique hosted level, List.filter_map, Store.nodeMembers]
  congr 1
  apply List.filter_congr
  intro m hm
  obtain ⟨e, he, hid, hsome, hname⟩ := exists_nodeOf? unique hosted level hm
  rw [LabelledSample.isOf, exists_bucket_of_mem_inRange hb hm, Bool.eq_iff_iff]
  -- the node and its host have their cells, so only a metric without a name lacks its own
  cases hmetric : m.name.name with
  | none => simp [isComplete, keyed, Store.hostKey, hmetric]
  | some name =>
    simp [isComplete, keyed, Store.hostKey, SeriesQuery.metric?, SeriesQuery.metricIndex,
      Cell.text?, he, hmetric, ← hid, hsome, hname, ofInt_ne_null, ofText_ne_null, and_assoc, and_left_comm]

/-- The means of the cells of a metric and a bucket are the means **of nodes and labels** there. -/
theorem node_means_eq {means : List SeriesCell}
    (hm : cellMeans bucketing (store.entitySamples .node scope filter rule) = .ok means)
    (metric : String) (bucket : Int) :
    (means.filter fun c => (SeriesQuery.entities .node).metric? c.key = some metric &&
        c.bucket = bucket).map (·.value)
      = childMeans LabelledSample.nodeLabel (·.sample.value)
          (store.nodeMembers scope filter rule (metric, bucket)) := by
  obtain ⟨-, hselected⟩ := cellMeans_eq_ok_iff.1 (cellMeans_filter hm fun place =>
    (SeriesQuery.entities .node).metric? place.1 = some metric && place.2 = bucket)
  rw [List.filter_filter] at hselected
  have hmembers := entitySamples_filter filter unique hosted level hb metric bucket
  calc (means.filter fun c => (SeriesQuery.entities .node).metric? c.key = some metric &&
          c.bucket = bucket).map (·.value)
      = childMeans (KeyedSample.place bucketing) (·.value)
          ((store.nodeMembers scope filter rule (metric, bucket)).map fun m =>
            keyed (store.hostKey m) m) := by
        rw [← hmembers]
        exact (congrArg (List.map (·.value)) hselected).trans (List.map_map ..)
    _ = childMeans LabelledSample.nodeLabel (·.sample.value)
          (store.nodeMembers scope filter rule (metric, bucket)) := by
        rw [childMeans_map]
        exact childMeans_congr _ fun m hm m' hm' =>
          hostKey_place_eq_iff hb hm hm'

section Cells

omit hb

variable {nodeCells : List SeriesCell}
  (hnodes : (SeriesQuery.entities .node).cells store scope filter rule = .ok nodeCells)
include hnodes

/-- The values of the cells of nodes of a metric and a bucket are the means **of nodes and labels**
there, in some order. -/
theorem childMeans_perm_nodeCells (metric : String) (bucket : Int) :
    (childMeans LabelledSample.nodeLabel (·.sample.value)
        (store.nodeMembers scope filter rule (metric, bucket))).Perm
      ((nodeCells.filter fun c => (SeriesQuery.entities .node).metric? c.key = some metric &&
        c.bucket = bucket).map (·.value)) := by
  rcases SeriesQuery.cells_cases hnodes with ⟨bucketing, means, hb, hm, rfl⟩ | ⟨⟨f, hb⟩, rfl⟩
  · rw [← node_means_eq unique hosted level hb hm metric bucket]
    exact (((sortBy_perm _ means).filter _).map _).symm
  · -- without a bucketing there is neither a member nor a cell
    have hnone : store.nodeMembers scope filter rule (metric, bucket) = [] :=
      List.filter_eq_nil_iff.2 fun m _ => by simp [isOf_of_bucketing_error hb]
    rw [hnone]
    exact List.Perm.refl []

/-- Some node has a cell of a metric and a bucket **if there are members**. -/
theorem exists_nodeCell_iff {metric : String} {bucket : Int} :
    (∃ c ∈ nodeCells, (SeriesQuery.entities .node).metric? c.key = some metric ∧
        c.bucket = bucket) ↔
      store.nodeMembers scope filter rule (metric, bucket) ≠ [] := by
  have hlength := (childMeans_perm_nodeCells unique hosted level hnodes metric bucket).length_eq
  rw [ne_eq, ← childMeans_eq_nil_iff LabelledSample.nodeLabel (·.sample.value),
    ← List.length_eq_zero_iff, hlength, List.length_eq_zero_iff, List.map_eq_nil_iff,
    List.filter_eq_nil_iff]
  simp

end Cells

end Hosted

/-- **The series of a cluster adds up the values of the series of its nodes.** Take a store whose
catalog identifiers are unique, and where every node sample names a node of a host. Whenever both
series are answered for a scope of nodes, a filter and a rule, the cells of the cluster add up means
of nodes and labels; for each metric and bucket, these means are the values that the cells of the
nodes have there, and the cluster has a cell there exactly if some node has one. -/
theorem cluster_series_adds_up_node_series {backend : Backend}
    (unique : backend.store.HasUniqueIds) (hosted : backend.store.NodesAreHosted) {scope : Scope}
    (level : scope.level = .node) {filter : MetricFilter} {rule : BucketRule}
    {summaryRows nodeRows : List Row}
    (summarised : SeriesQuery.clusterSummary.run backend scope filter rule = .ok summaryRows)
    (listed : (SeriesQuery.entities .node).run backend scope filter rule = .ok nodeRows) :
    ∃ summaryCells nodeCells : List SeriesCell,
      summaryRows = summaryCells.map (seriesRow SeriesQuery.clusterSummary.keyNames) ∧
        nodeRows = nodeCells.map (seriesRow (SeriesQuery.entities .node).keyNames) ∧
        AddsUp summaryCells metricPlace? (backend.store.nodeMembers scope filter rule)
          LabelledSample.nodeLabel ∧
        ∀ metric bucket,
          (childMeans LabelledSample.nodeLabel (·.sample.value)
              (backend.store.nodeMembers scope filter rule (metric, bucket))).Perm
            ((nodeCells.filter fun c => (SeriesQuery.entities .node).metric? c.key = some metric &&
              c.bucket = bucket).map (·.value)) ∧
          ((∃ c ∈ summaryCells, c.place = ([Cell.text metric], bucket)) ↔
            ∃ c ∈ nodeCells, (SeriesQuery.entities .node).metric? c.key = some metric ∧
              c.bucket = bucket) := by
  obtain ⟨summaryCells, hsummary, hsummaryRows⟩ :=
    SeriesQuery.rows_eq_ok_iff.1 (SeriesQuery.rows_of_run summarised)
  obtain ⟨nodeCells, hnodes, hnodeRows⟩ :=
    SeriesQuery.rows_eq_ok_iff.1 (SeriesQuery.rows_of_run listed)
  have hsums : AddsUp summaryCells metricPlace? (backend.store.nodeMembers scope filter rule)
      LabelledSample.nodeLabel :=
    (clusterSummary_cells_addUp hsummary).1.congr fun _ _ hm _ hm' =>
      nodeCells_eq_iff (keepsNodesApart_of_namesNodes (namesNodes_inRange unique hosted level))
        hm hm'
  refine ⟨summaryCells, nodeCells, hsummaryRows, hnodeRows, hsums, fun metric bucket =>
    ⟨childMeans_perm_nodeCells unique hosted level hnodes metric bucket, ?_⟩⟩
  rw [hsums.exists_metric_iff, exists_nodeCell_iff unique hosted level hnodes]

/-- The means of a cluster of two nodes are the two values of the series of its nodes. -/
theorem series_of_two_nodes_agree :
    twoNodes.HasUniqueIds ∧ twoNodes.NodesAreHosted ∧
      ∃ (summaryRows nodeRows : List Row) (summaryCells nodeCells : List SeriesCell),
        SeriesQuery.clusterSummary.run (.ofStore twoNodes) ⟨some 1, none, .node, none, none⟩ []
            firstMinutes = .ok summaryRows ∧
          (SeriesQuery.entities .node).run (.ofStore twoNodes) ⟨some 1, none, .node, none, none⟩ []
            firstMinutes = .ok nodeRows ∧
          summaryRows = summaryCells.map (seriesRow SeriesQuery.clusterSummary.keyNames) ∧
          nodeRows = nodeCells.map (seriesRow (SeriesQuery.entities .node).keyNames) ∧
          (∃ c ∈ summaryCells, c.place = ([Cell.text "cpu"], 60)) ∧
          (nodeCells.filter fun c => (SeriesQuery.entities .node).metric? c.key = some "cpu" &&
            c.bucket = 60).length = 2 := by
  have hunique : twoNodes.HasUniqueIds := by constructor <;> decide
  have hhosted : twoNodes.NodesAreHosted := by decide
  obtain ⟨summaryRows, hsummarised⟩ : ∃ rows, SeriesQuery.clusterSummary.run (.ofStore twoNodes)
      ⟨some 1, none, .node, none, none⟩ [] firstMinutes = .ok rows := ⟨_, rfl⟩
  obtain ⟨nodeRows, hlisted⟩ : ∃ rows, (SeriesQuery.entities .node).run (.ofStore twoNodes)
      ⟨some 1, none, .node, none, none⟩ [] firstMinutes = .ok rows := ⟨_, rfl⟩
  obtain ⟨summaryCells, nodeCells, hsummaryRows, hnodeRows, -, hcells⟩ :=
    cluster_series_adds_up_node_series hunique hhosted rfl hsummarised hlisted
  obtain ⟨hvalues, hplaces⟩ := hcells "cpu" 60
  have hlength := hvalues.length_eq
  rw [List.length_map] at hlength
  have htwo : (nodeCells.filter fun c =>
      (SeriesQuery.entities .node).metric? c.key = some "cpu" && c.bucket = 60).length = 2 :=
    hlength.symm.trans rfl
  refine ⟨hunique, hhosted, summaryRows, nodeRows, summaryCells, nodeCells, hsummarised, hlisted,
    hsummaryRows, hnodeRows, hplaces.2 ?_, htwo⟩
  obtain ⟨c, hc⟩ := List.exists_mem_of_length_pos (Nat.lt_of_lt_of_eq Nat.two_pos htwo.symm)
  obtain ⟨hc, hcond⟩ := List.mem_filter.1 hc
  rw [Bool.and_eq_true, decide_eq_true_eq, decide_eq_true_eq] at hcond
  exact ⟨c, hc, hcond⟩

end ClusterMetrics
