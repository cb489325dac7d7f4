import ClusterMetrics.Proofs.KeptSamples

/-! # Isolation of clusters

A snapshot of a cluster finds the newest times among the samples of the cluster, and then looks the
newest samples up in the whole store, by their series and their time. So it holds the newest samples
of the cluster, and every sample of another cluster that agrees with one of them. Where no such
sample exists, the other clusters do not matter to the answer.

* **`Sample.isOfCluster`**: whether a sample was taken in a cluster.
* **`Store.KeepsClusterApart`**: no sample of another cluster agrees with a newest one of the
  cluster. **`keepsClusterApart_iff`**: then, and only then, the newest samples are all of the
  cluster.
* **`cluster_answers_are_isolated`**: stores that hold the same samples of a cluster, and keep it
  apart, answer the same. -/

namespace ClusterMetrics

/-- Whether a sample was taken **in a cluster**. -/
def Sample.isOfCluster (c : Int) (s : Sample) : Bool := holds s.cluster c

/-- Whether **no sample of another cluster** agrees, on series and time, with one of the newest of a
cluster. -/
def Store.KeepsClusterApart (store : Store) (c : Int) (scope : Scope) (filter : MetricFilter)
    (now : Int) : Prop :=
  ∀ s ∈ store.samples, s.isOfCluster c = false →
    ∀ n ∈ (store.keeping (Sample.isOfCluster c)).latest scope filter now, s.agrees n = false

section

variable {store : Store} {c : Int} {scope : Scope} {filter : MetricFilter} {now : Int}

/-- Where samples differ, **every cluster** is kept apart. -/
theorem keepsClusterApart_of_samplesDiffer (differ : store.SamplesDiffer) :
    store.KeepsClusterApart c scope filter now := by
  intro s hs hother n hn
  obtain ⟨hmem, hcluster⟩ := List.mem_filter.1 (List.mem_filter.1 hn).1
  rw [Bool.eq_false_iff]
  intro hagrees
  -- samples that agree are one sample, which is of the cluster or not
  rw [differ.eq_of_agrees hs hmem hagrees, hcluster] at hother
  exact Bool.noConfusion hother

variable (ofCluster : scope.cluster = some c)
include ofCluster

/-- A scope of a cluster admits samples **of the cluster**. -/
theorem isOfCluster_of_admits (s : Sample) (h : scope.admits s = true) :
    s.isOfCluster c = true := by
  rw [Scope.admits, ofCluster, Bool.and_eq_true, Bool.and_eq_true] at h
  exact h.1.1

/-- A cluster is kept apart **exactly if** all newest samples are its own. -/
theorem keepsClusterApart_iff :
    store.KeepsClusterApart c scope filter now ↔
      ∀ m ∈ store.latest scope filter now, m.isOfCluster c = true := by
  constructor
  · intro apart m hm
    obtain ⟨hmem, n, hn, hagrees⟩ :=
      (mem_latest_iff_agrees (isOfCluster_of_admits ofCluster) now).1 hm
    by_contra hother
    rw [apart m hmem (Bool.eq_false_iff.2 hother) n hn] at hagrees
    exact Bool.noConfusion hagrees
  · intro h s hs hother n hn
    rw [Bool.eq_false_iff]
    intro hagrees
    rw [h s ((mem_latest_iff_agrees (isOfCluster_of_admits ofCluster) now).2
      ⟨hs, n, hn, hagrees⟩)] at hother
    exact Bool.noConfusion hother

/-- A cluster that is kept apart has the newest samples that it has **on its own**. -/
theorem latest_keeping_cluster (apart : store.KeepsClusterApart c scope filter now) :
    (store.keeping (Sample.isOfCluster c)).latest scope filter now
      = store.latest scope filter now := by
  rw [latest_keeping (isOfCluster_of_admits ofCluster)]
  exact List.filter_eq_self.2 ((keepsClusterApart_iff ofCluster).1 apart)

end

/-- **The answers on a cluster are isolated from other clusters** that are kept apart. Two stores
that agree on all but the samples of other clusters answer every snapshot and every summary of the
cluster alike, provided that neither has a sample of another cluster that agrees with a newest one
of the cluster on series and time. Without such samples, and only then, every newest sample is of
the cluster; with them, they are among the newest. -/
theorem cluster_answers_are_isolated {backend backend' : Backend} {c : Int} {scope : Scope}
    (ofCluster : scope.cluster = some c)
    (same : backend.keeping (Sample.isOfCluster c) = backend'.keeping (Sample.isOfCluster c))
    (now : Int) :
    (∀ (query : SnapshotQuery) (filter : MetricFilter),
      backend.store.KeepsClusterApart c scope filter now →
      backend'.store.KeepsClusterApart c scope filter now →
        query.run backend scope filter now = query.run backend' scope filter now) ∧
    (∀ query : SummaryQuery, backend.store.KeepsClusterApart c scope [] now →
      backend'.store.KeepsClusterApart c scope [] now →
        query.run backend scope now = query.run backend' scope now) ∧
    ∀ filter : MetricFilter,
      (backend.store.KeepsClusterApart c scope filter now ↔
        ∀ m ∈ backend.store.latest scope filter now, m.isOfCluster c = true) ∧
      ∀ m, m ∈ backend.store.latest scope filter now ↔ m ∈ backend.store.samples ∧
        ∃ n ∈ (backend.store.keeping (Sample.isOfCluster c)).latest scope filter now,
          m.agrees n = true := by
  refine ⟨fun query filter apart apart' => ?_, fun query apart apart' => ?_, fun filter => ?_⟩
  · calc query.run backend scope filter now
        = query.run (backend.keeping (Sample.isOfCluster c)) scope filter now :=
          (query.run_keeping (latest_keeping_cluster ofCluster apart)).symm
      _ = query.run (backend'.keeping (Sample.isOfCluster c)) scope filter now := by rw [same]
      _ = query.run backend' scope filter now :=
          query.run_keeping (latest_keeping_cluster ofCluster apart')
  · calc query.run backend scope now
        = query.run (backend.keeping (Sample.isOfCluster c)) scope now :=
          (query.run_keeping (latest_keeping_cluster ofCluster apart)).symm
      _ = query.run (backend'.keeping (Sample.isOfCluster c)) scope now := by rw [same]
      _ = query.run backend' scope now :=
          query.run_keeping (latest_keeping_cluster ofCluster apart')
  · exact ⟨keepsClusterApart_iff ofCluster,
      fun _ => mem_latest_iff_agrees (isOfCluster_of_admits ofCluster) now⟩

/-- Two nodes of one cluster, and a further sample of the first node that was taken later in another
cluster. -/
def movedNode : Store :=
  { twoNodes with
    samples := twoNodes.samples ++
      [⟨some 2, some 1, some 0, some 0, some 1, some 1, some 98, some (.number 7.0)⟩] }

/-- A later sample of another cluster does not change the snapshot of two nodes. -/
theorem snapshot_of_a_moved_node :
    (Backend.ofStore movedNode).keeping (Sample.isOfCluster 1)
        = (Backend.ofStore twoNodes).keeping (Sample.isOfCluster 1) ∧
      movedNode.SamplesDiffer ∧ twoNodes.SamplesDiffer ∧
      (SnapshotQuery.entities .node).run (.ofStore movedNode) ⟨some 1, none, .node, none, none⟩ []
          100
        = (SnapshotQuery.entities .node).run (.ofStore twoNodes) ⟨some 1, none, .node, none, none⟩
          [] 100 := by
  have same : (Backend.ofStore movedNode).keeping (Sample.isOfCluster 1)
      = (Backend.ofStore twoNodes).keeping (Sample.isOfCluster 1) := rfl
  have hmoved : movedNode.SamplesDiffer := by decide
  have htwo : twoNodes.SamplesDiffer := by decide
  obtain ⟨hsnapshots, -, -⟩ := @cluster_answers_are_isolated _ _ 1
    ⟨some 1, none, .node, none, none⟩ rfl same 100
  exact ⟨same, hmoved, htwo, hsnapshots (.entities .node) []
    (keepsClusterApart_of_samplesDiffer hmoved) (keepsClusterApart_of_samplesDiffer htwo)⟩

/-- A node with a sample in one cluster, and one of the same series and time in another. -/
def sharedNode : Store :=
  { Store.empty with
    nodes := [⟨some 1, some 1, some "alpha", none, none, none, none, none, none⟩]
    metricNames := [⟨some 1, some "cpu", none, none⟩]
    metricLabels := [⟨some 1, some "total"⟩]
    samples := [⟨some 1, some 1, some 0, some 0, some 1, some 1, some 90, some (.number 10.0)⟩,
      ⟨some 2, some 1, some 0, some 0, some 1, some 1, some 90, some (.number 20.0)⟩] }

/-- A sample of another cluster that agrees with a newest one **is returned**: the snapshot of the
first cluster has two rows, and one if the other cluster is left out of the store. -/
theorem snapshot_of_a_shared_node_crosses_clusters :
    (Backend.ofStore sharedNode).keeping (Sample.isOfCluster 1)
        = (Backend.ofStore (sharedNode.keeping (Sample.isOfCluster 1))).keeping
          (Sample.isOfCluster 1) ∧
      ∃ rows rows' : List Row,
        (SnapshotQuery.entities .node).run (.ofStore sharedNode) ⟨some 1, none, .node, none, none⟩
            [] 100 = .ok rows ∧
          (SnapshotQuery.entities .node).run
              (.ofStore (sharedNode.keeping (Sample.isOfCluster 1)))
              ⟨some 1, none, .node, none, none⟩ [] 100 = .ok rows' ∧
            rows.length = 2 ∧ rows'.length = 1 := by
  have hsize : ∀ (store : Store) (scope : Scope),
      ((SnapshotQuery.entities .node).rows store scope [] 100).length
        = (EntityKind.node.join store (store.latestLabelled scope [] 100)).length := by
    intro store scope
    rw [SnapshotQuery.rows, List.length_map, Store.snapshot]
    exact (sortBy_perm entityOrder _).length_eq
  refine ⟨rfl, _, _, rfl, rfl, ?_, ?_⟩
  · rw [hsize]
    rfl
  · rw [hsize]
    rfl

end ClusterMetrics
