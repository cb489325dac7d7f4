import ClusterMetrics.Proofs.ClusterIsolation
import ClusterMetrics.Proofs.LevelIsolation
import ClusterMetrics.Proofs.SnapshotSums

/-! # Summaries of clusters

The summaries of a cluster sum up what the snapshot of its nodes lists: its own summary all of it,
and the summary of its nodes the samples of each node. The summary of one cluster is its part of the
summary of all clusters, where a node is of one cluster.

* **`Store.newestOfCluster`**, **`Store.newestOfNode`**: the newest samples that are summed for a
  cluster and for a node.
* **`summaries_share_the_newest_samples`**: both summaries and the snapshot are of the same samples.
* **`Store.NodesKeepCluster`**: whether a node is of one cluster.
* **`cluster_summary_is_part_of_all`**: then a cluster has the sums that it has among all. -/

namespace ClusterMetrics

/-! ## Samples of a cluster -/

/-- The newest samples of a metric that are **of a cluster** of the catalog. -/
def Store.newestOfCluster (store : Store) (scope : Scope) (now : Int) (c : Int)
    (metric : Option String) : List Sample :=
  (store.newestOf scope [] now metric).filter fun s =>
    holds s.cluster c && store.clusters.any fun k => holds k.id c

/-- The newest samples of a metric that are **of a node** of the catalog. -/
def Store.newestOfNode (store : Store) (scope : Scope) (now : Int) (n : Int)
    (metric : Option String) : List Sample :=
  (store.newestOf scope [] now metric).filter fun s =>
    holds s.node n && (EntityKind.node.entities store).any fun e => holds e.id n

section Samples

variable {store : Store} {scope : Scope} {filter : MetricFilter} {now : Int}

/-- The newest samples of a cluster of the catalog are **all of it**. -/
theorem newestOfCluster_clusterScope {c : Int} (known : ∃ k ∈ store.clusters, k.id = some c)
    (metric : Option String) :
    store.newestOfCluster (clusterScope c) now c metric
      = store.newestOf (clusterScope c) [] now metric := by
  have hscope : (clusterScope c).cluster = some c := rfl
  refine List.filter_eq_self.2 fun s hs => ?_
  have hcluster : s.isOfCluster c = true :=
    isOfCluster_of_admits hscope s (admits_of_mem_newestOf hs)
  rw [any_holds_iff.2 known, Bool.and_true]
  exact hcluster

variable (unique : store.HasUniqueIds)
include unique

/-- The newest samples of a metric are those of the nodes, put together, if **each is of a node** of
the catalog. -/
theorem flatMap_newestOfNode_perm {metric : Option String}
    (placed : ∀ s ∈ store.newestOf scope [] now metric,
      ∃ n ∈ store.nodes, joins s.node n.id = true) :
    ((store.nodes.filterMap Node.id).flatMap fun n =>
        store.newestOfNode scope now n metric).Perm (store.newestOf scope [] now metric) := by
  have hnodes : ((store.nodes.filterMap Node.id).flatMap fun n =>
        store.newestOfNode scope now n metric)
      = (store.nodes.filterMap Node.id).flatMap fun n =>
          (store.newestOf scope [] now metric).filter fun s => s.node = some n := by
    refine List.flatMap_congr fun n hn => List.filter_congr fun s _ => ?_
    obtain ⟨row, hrow, hid⟩ := List.mem_filterMap.1 hn
    have hknown : ∃ e ∈ EntityKind.node.entities store, e.id = some n :=
      ⟨⟨row.id, row.host⟩, List.mem_map_of_mem hrow, hid⟩
    rw [any_holds_iff.2 hknown, Bool.and_true, Bool.eq_iff_iff, holds_iff, decide_eq_true_eq]
  rw [hnodes]
  refine flatMap_filter_perm unique.nodes.nodup_filterMap fun s hs => ?_
  obtain ⟨row, hrow, hjoins⟩ := placed s hs
  obtain ⟨n, hnode, hid⟩ := joins_iff.1 hjoins
  exact ⟨n, List.mem_filterMap.2 ⟨row, hrow, hid⟩, hnode⟩

variable (differ : store.SamplesDiffer)
include differ

/-- The summary of clusters **sums up** the newest samples of each cluster. -/
theorem clusterSummary_sumsUp :
    SumsUp (store.clusterSummary scope now) Cluster.id
      (fun c => findById Cluster.id store.clusters (some c)) (store.newestOfCluster scope now) :=
  (rollup_catalog_sumsUp unique differ (fun _ => rfl) unique.clusters Sample.cluster).sortBy _

/-- The summary of nodes **sums up** the newest samples of each node. -/
theorem nodeSummary_sumsUp :
    SumsUp (store.nodeSummary scope now) Entity.id
      (fun n => findById Entity.id (EntityKind.node.entities store) (some n))
      (store.newestOfNode scope now) :=
  (rollup_catalog_sumsUp unique differ (fun _ => rfl) (unique.entities .node) Sample.node).sortBy _

variable (scope filter now) in
/-- The rows of a snapshot of a metric are **the newest samples** of the metric that are of an
entity. -/
theorem snapshot_metric_perm (kind : EntityKind) (metric : Option String) :
    (((store.snapshot kind scope filter now).filter fun r => r.1.name.name = metric).map
        fun r => r.1.sample).Perm
      ((store.newestOf scope filter now metric).filter fun s =>
        (findById Entity.id (kind.entities store) (kind.column s)).isSome) := by
  -- identifiers are unique, so a sample is joined to one entity at most
  have hone : ∀ s, (((kind.entities store).filter fun e => joins (kind.column s) e.id).filter
        fun _ => true).length
      = if (findById Entity.id (kind.entities store) (kind.column s)).isSome then 1 else 0 := by
    intro s
    rw [List.filter_true, filter_joins (unique.entities kind)]
    cases findById Entity.id (kind.entities store) (kind.column s) <;> rfl
  have hsamples := samples_joined scope filter now unique differ hone metric
  simp only [Bool.true_and] at hsamples
  rw [← hsamples]
  exact ((sortBy_perm entityOrder _).filter _).map _

end Samples

/-- **Both summaries of a cluster and the snapshot of its nodes are of the same samples.** In a
store whose catalog identifiers are unique, whose samples differ, and that knows the node of every
node sample, take a cluster of the catalog. The statements of its summary, of the summary of its nodes
and of the snapshot of its nodes are all answered, or all refused because a number does not fit 64
bits. The summaries sum up newest samples of clusters and of nodes. For each metric, those of the
cluster are those of the nodes, put together, and those of the rows of the snapshot, and none is
there twice. -/
theorem summaries_share_the_newest_samples {store : Store} (unique : store.HasUniqueIds)
    (differ : store.SamplesDiffer)
    (placed : ∀ s ∈ store.samples, LevelName.node.has s = true →
      ∃ n ∈ store.nodes, joins s.node n.id = true)
    {c : Int} (known : ∃ k ∈ store.clusters, k.id = some c) (now : Int) :
    ∃ (clusterSums : List (Rollup Cluster)) (nodeSums : List (Rollup Entity))
      (records : List (LabelledSample × Entity)),
      (if ∀ n ∈ [c, now - freshness, now], fits64 n = true then
        SummaryQuery.clusters.run (.ofStore store) (clusterScope c) now
            = .ok (clusterSums.map clusterSummaryRow) ∧
          SummaryQuery.nodes.run (.ofStore store) (clusterScope c) now
            = .ok (nodeSums.map nodeSummaryRow) ∧
          (SnapshotQuery.entities .node).run (.ofStore store) (clusterScope c) [] now
            = .ok (records.map (snapshotRow .node))
      else
        SummaryQuery.clusters.run (.ofStore store) (clusterScope c) now = .error .idOverflow ∧
          SummaryQuery.nodes.run (.ofStore store) (clusterScope c) now = .error .idOverflow ∧
          (SnapshotQuery.entities .node).run (.ofStore store) (clusterScope c) [] now
            = .error .idOverflow) ∧
      SumsUp clusterSums Cluster.id (fun k => findById Cluster.id store.clusters (some k))
        (store.newestOfCluster (clusterScope c) now) ∧
      SumsUp nodeSums Entity.id
        (fun n => findById Entity.id (EntityKind.node.entities store) (some n))
        (store.newestOfNode (clusterScope c) now) ∧
      (∀ r ∈ records, store.Joins .node r) ∧
      ∀ metric,
        (store.newestOfCluster (clusterScope c) now c metric).Perm
          ((store.nodes.filterMap Node.id).flatMap fun n =>
            store.newestOfNode (clusterScope c) now n metric) ∧
        (store.newestOfCluster (clusterScope c) now c metric).Perm
          ((records.filter fun r => r.1.name.name = metric).map fun r => r.1.sample) ∧
        (store.newestOfCluster (clusterScope c) now c metric).Nodup := by
  refine ⟨store.clusterSummary (clusterScope c) now, store.nodeSummary (clusterScope c) now,
    store.snapshot .node (clusterScope c) [] now, ?_, clusterSummary_sumsUp unique differ,
    nodeSummary_sumsUp unique differ, fun r hr => joins_of_mem_snapshot unique hr,
    fun metric => ?_⟩
  · have hsummary : ∀ query : SummaryQuery,
        query.run (.ofStore store) (clusterScope c) now
          = ((Backend.ofStore store).query query.tables [c, now - freshness, now] 2).map
              fun store => query.rows store (clusterScope c) now := fun _ => rfl
    have hsnapshot : (SnapshotQuery.entities .node).run (.ofStore store) (clusterScope c) [] now
        = ((Backend.ofStore store).query (SnapshotQuery.entities .node).tables
            [c, now - freshness, now] 2).map fun store =>
              (SnapshotQuery.entities .node).rows store (clusterScope c) [] now := rfl
    rw [hsummary, hsummary, hsnapshot]
    -- the three statements are given the same values
    have few : [c, now - freshness, now].length + 2 ≤ variableLimit := by simp [variableLimit]
    by_cases fits : ∀ n ∈ [c, now - freshness, now], fits64 n = true
    · have htakes : Backend.Takes [c, now - freshness, now] 2 := ⟨few, fits⟩
      rw [if_pos fits, Backend.query_ofStore store htakes, Backend.query_ofStore store htakes,
        Backend.query_ofStore store htakes]
      exact ⟨rfl, rfl, rfl⟩
    · have hrefused : ∀ tables, (Backend.ofStore store).query tables [c, now - freshness, now] 2
          = .error .idOverflow := fun _ => Backend.query_ofStore_of_not_fits store few fits
      rw [if_neg fits, hrefused, hrefused, hrefused]
      exact ⟨rfl, rfl, rfl⟩
  · -- every newest sample of the scope is a node sample, so its node is known
    have hplaced : ∀ s ∈ store.newestOf (clusterScope c) [] now metric,
        ∃ n ∈ store.nodes, joins s.node n.id = true := by
      intro s hs
      have hadmits := admits_of_mem_newestOf hs
      rw [Scope.admits, Bool.and_eq_true] at hadmits
      exact placed s (List.mem_filter.1 hs).1 hadmits.2
    rw [newestOfCluster_clusterScope known]
    refine ⟨(flatMap_newestOfNode_perm unique hplaced).symm, ?_, newestOf_nodup differ metric⟩
    have hknown : ((store.newestOf (clusterScope c) [] now metric).filter fun s =>
        (findById Entity.id (EntityKind.node.entities store) (EntityKind.node.column s)).isSome)
          = store.newestOf (clusterScope c) [] now metric := by
      refine List.filter_eq_self.2 fun s hs => ?_
      obtain ⟨n, hn, hjoins⟩ := hplaced s hs
      exact findById_isSome_iff.2 ⟨⟨n.id, n.host⟩, List.mem_map_of_mem hn, hjoins⟩
    have hperm := snapshot_metric_perm (clusterScope c) [] now unique differ .node metric
    rw [hknown] at hperm
    exact hperm.symm

/-- Two nodes of a cluster of the catalog, with samples of theirs. -/
def knownCluster : Store := { twoNodes with clusters := [⟨some 1, some "main"⟩] }

/-- The two newest samples of a cluster are summed for it, one for each of its nodes. -/
theorem summaries_of_two_nodes :
    knownCluster.HasUniqueIds ∧ knownCluster.SamplesDiffer ∧
      (∀ s ∈ knownCluster.samples, LevelName.node.has s = true →
        ∃ n ∈ knownCluster.nodes, joins s.node n.id = true) ∧
      (∃ k ∈ knownCluster.clusters, k.id = some 1) ∧
      ∃ (clusterSums : List (Rollup Cluster)) (nodeSums : List (Rollup Entity)),
        SummaryQuery.clusters.run (.ofStore knownCluster) (clusterScope 1) 100
            = .ok (clusterSums.map clusterSummaryRow) ∧
          SummaryQuery.nodes.run (.ofStore knownCluster) (clusterScope 1) 100
            = .ok (nodeSums.map nodeSummaryRow) ∧
          (∃ k, clusterSums.filter (Rollup.isFor Cluster.id 1 (some "cpu"))
            = [Rollup.ofSamples k (some "cpu")
                (knownCluster.newestOfCluster (clusterScope 1) 100 1 (some "cpu"))]) ∧
          (knownCluster.newestOfCluster (clusterScope 1) 100 1 (some "cpu")).map Sample.ts
            = [some 95, some 90] ∧
          (knownCluster.newestOfCluster (clusterScope 1) 100 1 (some "cpu")).Perm
            (knownCluster.newestOfNode (clusterScope 1) 100 1 (some "cpu") ++
              knownCluster.newestOfNode (clusterScope 1) 100 2 (some "cpu")) := by
  have hunique : knownCluster.HasUniqueIds := by constructor <;> decide
  have hdiffer : knownCluster.SamplesDiffer := by decide
  have hplaced : ∀ s ∈ knownCluster.samples, LevelName.node.has s = true →
      ∃ n ∈ knownCluster.nodes, joins s.node n.id = true := by decide
  have hknown : ∃ k ∈ knownCluster.clusters, k.id = some 1 := by decide
  obtain ⟨clusterSums, nodeSums, _, hruns, hclusters, -, -, hsamples⟩ :=
    summaries_share_the_newest_samples hunique hdiffer hplaced hknown 100
  rw [if_pos (by decide)] at hruns
  have hts : (knownCluster.newestOfCluster (clusterScope 1) 100 1 (some "cpu")).map Sample.ts
      = [some 95, some 90] := by decide
  have hne : knownCluster.newestOfCluster (clusterScope 1) 100 1 (some "cpu") ≠ [] := by
    intro hnone
    rw [hnone] at hts
    cases hts
  obtain ⟨k, -, hsum⟩ := hclusters.present 1 (some "cpu") hne
  exact ⟨hunique, hdiffer, hplaced, hknown, clusterSums, nodeSums, hruns.1, hruns.2.1, ⟨k, hsum⟩,
    hts, by simpa [knownCluster, twoNodes] using (hsamples (some "cpu")).1⟩

/-! ## One cluster among all -/

/-- Whether the samples **of a node** are of one cluster. -/
def Store.NodesKeepCluster (store : Store) : Prop :=
  ∀ s ∈ store.samples, ∀ t ∈ store.samples, joins s.node t.node = true → s.cluster = t.cluster

instance (store : Store) : Decidable store.NodesKeepCluster :=
  inferInstanceAs (Decidable (∀ s ∈ store.samples, ∀ t ∈ store.samples,
    joins s.node t.node = true → s.cluster = t.cluster))

/-- A scope **narrowed to a cluster**. -/
def Scope.inCluster (scope : Scope) (c : Int) : Scope := { scope with cluster := some c }

/-- The cluster in the row of a summary is the one **that was summed**. -/
theorem int?_clusterSummaryRow (r : Rollup Cluster) :
    (clusterSummaryRow r).int? "cluster_id" = r.subject.id := by
  obtain ⟨⟨id, name⟩, metricName, ts, value⟩ := r
  cases id <;> rfl

section Clusters

variable {store : Store} (keeps : store.NodesKeepCluster) {scope : Scope}
  (broad : scope.cluster = none)
include keeps broad

/-- Where a node is of one cluster, the newest samples of a cluster are **those of all** that are of
the cluster. -/
theorem latest_inCluster (filter : MetricFilter) (c now : Int) :
    store.latest (scope.inCluster c) filter now
      = (store.latest scope filter now).filter (Sample.isOfCluster c) := by
  refine latest_filter_of_series ?_ ?_ now
  · -- the samples of a series are of one node, and so of one cluster
    intro s hs t ht key hskey htkey
    have hnode : joins s.node t.node = true :=
      joins_iff.2 ⟨key.node, (seriesKey?_eq_some_iff.1 hskey).1, (seriesKey?_eq_some_iff.1 htkey).1⟩
    rw [Sample.isOfCluster, Sample.isOfCluster, keeps s hs t ht hnode]
  · intro s _
    have hadmits : (scope.inCluster c).admits s = (s.isOfCluster c && scope.admits s) := by
      simp [Scope.inCluster, Scope.admits, broad, Sample.isOfCluster, Bool.and_assoc]
    rw [hadmits, Bool.and_assoc]

/-- Where a node is of one cluster, the sums of a cluster are **those of all** that are for the
cluster. -/
theorem clusterSummary_inCluster (c now : Int) :
    store.clusterSummary (scope.inCluster c) now
      = (store.clusterSummary scope now).filter fun r => r.subject.id = some c := by
  have hjoined : store.joinClusters (store.latestLabelled (scope.inCluster c) [] now)
      = (store.joinClusters (store.latestLabelled scope [] now)).filter fun r =>
          r.2.id = some c := by
    rw [Store.latestLabelled, latest_inCluster keeps broad, labelled_filter, Store.joinClusters]
    refine flatMap_filter fun m _ r hr => ?_
    -- a sample is joined to its own cluster
    obtain ⟨k, hk, rfl⟩ := List.mem_map.1 hr
    obtain ⟨n, hcluster, hid⟩ := joins_iff.1 (List.mem_filter.1 hk).2
    rw [Sample.isOfCluster, hcluster, hid, Bool.eq_iff_iff, decide_eq_true_eq, holds_iff]
  rw [Store.clusterSummary, hjoined,
    rollup_filter (p := fun key => decide (key[0]?.bind Cell.int? = some c)) fun r _ => by simp,
    ← filter_sortBy, Store.clusterSummary]
  apply List.filter_congr
  intro r _
  simp [Rollup.key]

end Clusters

/-- **The summary of a cluster is its part of the summary of all clusters**, where a node is of one
cluster: narrowing the scope to a cluster whose identifier fits 64 bits leaves the rows of the
cluster, with their sums, in order. It fails exactly as the summary of all clusters does. -/
theorem cluster_summary_is_part_of_all {backend : Backend}
    (keeps : backend.store.NodesKeepCluster) {scope : Scope} (broad : scope.cluster = none)
    {c : Int} (fits : fits64 c = true) (now : Int) :
    SummaryQuery.clusters.run backend (scope.inCluster c) now
      = (SummaryQuery.clusters.run backend scope now).map fun rows =>
          rows.filter fun row => row.int? "cluster_id" = some c := by
  -- the narrowed statement is given the cluster besides, and the cluster fits
  have hbound : SummaryQuery.bound (scope.inCluster c) now = c :: SummaryQuery.bound scope now := by
    simp [SummaryQuery.bound, Scope.bound, Scope.inCluster, broad]
  have hothers : (scope.inCluster c).others [] = scope.others [] := rfl
  have few := SummaryQuery.valueCount_le (scope.inCluster c) now
  rw [hbound] at few
  rw [SummaryQuery.run, SummaryQuery.run, hbound, Backend.query_cons fits few, hothers]
  cases hq : backend.query SummaryQuery.clusters.tables (SummaryQuery.bound scope now)
      (scope.others []) with
  | error f => rfl
  | ok store =>
    obtain rfl := (Backend.query_eq_ok_iff.1 hq).2
    show Except.ok ((backend.store.clusterSummary (scope.inCluster c) now).map clusterSummaryRow)
      = Except.ok (((backend.store.clusterSummary scope now).map clusterSummaryRow).filter _)
    rw [clusterSummary_inCluster keeps broad, List.filter_map]
    simp only [Function.comp_def, int?_clusterSummaryRow]

/-- The node samples of all clusters. -/
def allClusters : Scope := ⟨none, none, .node, none, none⟩

/-- Two clusters with a node each. -/
def twoClusters : Store :=
  { Store.empty with
    clusters := [⟨some 1, some "main"⟩, ⟨some 2, some "edge"⟩]
    nodes := [⟨some 1, some 1, some "alpha", none, none, none, none, none, none⟩,
      ⟨some 2, some 2, some "beta", none, none, none, none, none, none⟩]
    metricNames := [⟨some 1, some "cpu", none, none⟩]
    metricLabels := [⟨some 1, some "total"⟩]
    samples := [⟨some 1, some 1, some 0, some 0, some 1, some 1, some 90, some (.number 1.0)⟩,
      ⟨some 2, some 2, some 0, some 0, some 1, some 1, some 95, some (.number 2.0)⟩] }

/-- The summary of the second of two clusters is what the summary of both says of it. -/
theorem summary_of_one_of_two_clusters :
    twoClusters.NodesKeepCluster ∧ allClusters.cluster = none ∧ fits64 2 = true ∧
      ∃ rows, SummaryQuery.clusters.run (.ofStore twoClusters) allClusters 100 = .ok rows ∧
        SummaryQuery.clusters.run (.ofStore twoClusters) (clusterScope 2) 100
          = .ok (rows.filter fun row => row.int? "cluster_id" = some 2) := by
  have hkeeps : twoClusters.NodesKeepCluster := by decide
  obtain ⟨rows, hrun⟩ : ∃ rows,
      SummaryQuery.clusters.run (.ofStore twoClusters) allClusters 100 = .ok rows := ⟨_, rfl⟩
  have hpart := @cluster_summary_is_part_of_all (.ofStore twoClusters) hkeeps allClusters rfl 2
    (by decide) 100
  rw [hrun] at hpart
  exact ⟨hkeeps, rfl, by decide, rows, hrun, hpart⟩

/-- A cluster that does not fit 64 bits has **no summary**, not even an empty one: the summary of
all clusters has no row of it. -/
theorem summary_of_a_cluster_beyond_64_bits :
    twoClusters.HasUniqueIds ∧ twoClusters.NodesKeepCluster ∧
      SummaryQuery.clusters.run (.ofStore twoClusters) (clusterScope 9223372036854775808) 100
        = .error .idOverflow ∧
      ∃ rows, SummaryQuery.clusters.run (.ofStore twoClusters) allClusters 100 = .ok rows ∧
        (rows.filter fun row => row.int? "cluster_id" = some 9223372036854775808) = [] := by
  have hunique : twoClusters.HasUniqueIds := by constructor <;> decide
  have hdiffer : twoClusters.SamplesDiffer := by decide
  refine ⟨hunique, by decide, rfl, _, rfl, ?_⟩
  rw [List.filter_eq_nil_iff]
  intro row hrow hcluster
  obtain ⟨r, hr, rfl⟩ := List.mem_map.1 hrow
  rw [int?_clusterSummaryRow, decide_eq_true_eq] at hcluster
  -- a sum is for a cluster of the catalog, which has none of this identifier
  obtain ⟨n, hn, hknown⟩ := (clusterSummary_sumsUp hunique hdiffer).subject r hr
  obtain rfl := Option.some.inj (hcluster.symm.trans hn)
  cases hknown

end ClusterMetrics
