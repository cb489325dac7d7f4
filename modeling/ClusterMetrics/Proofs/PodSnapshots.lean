import ClusterMetrics.Proofs.Narrowing
import ClusterMetrics.Proofs.SnapshotSums

/-! # Snapshots of pods

A container sample leads to the pods that the external identifier of its container is linked to. The
snapshot of pods sums up the newest samples that lead to each pod.

* **`Store.LeadsToPod`**: whether a sample leads to a pod of a scope. **`Store.newestOfPod`**: the
  newest samples of a metric that do.
* **`pod_snapshot_sums_the_newest_samples`**: the snapshot has one row for each pod and metric that
  newest samples lead to, with the sum of these samples. -/

namespace ClusterMetrics

/-! ## Samples of a pod -/

/-- Whether a sample **leads to a pod** of a scope: the catalog has its container, a link from the
external identifier of the container to the pod, the pod, and a namespace of the pod, and the scope
admits the pod and the namespace. -/
def Store.LeadsToPod (store : Store) (scope : Scope) (pod : Int) (s : Sample) : Prop :=
  ∃ c ∈ store.containers, joins s.container c.id = true ∧
    ∃ k ∈ store.podContainers, joins c.externalId k.externalId = true ∧
      ∃ p ∈ store.pods, joins k.pod p.id = true ∧ p.id = some pod ∧
        ∃ n ∈ store.podNamespaces, joins p.podNamespace n.id = true ∧ scope.admitsPod ⟨p, n⟩ = true

instance (store : Store) (scope : Scope) (pod : Int) (s : Sample) :
    Decidable (store.LeadsToPod scope pod s) := by
  unfold Store.LeadsToPod
  infer_instance

/-- The newest samples of a metric that **lead to a pod**. -/
def Store.newestOfPod (store : Store) (scope : Scope) (filter : MetricFilter) (now : Int)
    (pod : Int) (metric : Option String) : List Sample :=
  (store.newestOf scope filter now metric).filter fun s => store.LeadsToPod scope pod s

section Pods

variable {store : Store} {scope : Scope}

/-- A sample leads to the pods **of its container**. -/
theorem leadsToPod_iff {pod : Int} {s : Sample} :
    store.LeadsToPod scope pod s ↔
      ∃ path ∈ store.podPaths scope s.container, path.pod.id = some pod := by
  constructor
  · rintro ⟨c, hc, hsample, k, hk, hlink, p, hp, hpod, hid, n, hn, hspace, hadmits⟩
    refine ⟨⟨p, n⟩, List.mem_filter.2 ⟨?_, hadmits⟩, hid⟩
    -- one step a join: the container, the link, the pod and its namespace
    refine List.mem_flatMap.2 ⟨c, List.mem_filter.2 ⟨hc, hsample⟩, ?_⟩
    refine List.mem_flatMap.2 ⟨k, List.mem_filter.2 ⟨hk, hlink⟩, ?_⟩
    refine List.mem_flatMap.2 ⟨p, List.mem_filter.2 ⟨hp, hpod⟩, ?_⟩
    exact List.mem_map_of_mem (List.mem_filter.2 ⟨hn, hspace⟩)
  · rintro ⟨path, hpath, hid⟩
    obtain ⟨hpath, hadmits⟩ := List.mem_filter.1 hpath
    obtain ⟨c, hc, hpath⟩ := List.mem_flatMap.1 hpath
    obtain ⟨k, hk, hpath⟩ := List.mem_flatMap.1 hpath
    obtain ⟨p, hp, hpath⟩ := List.mem_flatMap.1 hpath
    obtain ⟨n, hn, rfl⟩ := List.mem_map.1 hpath
    obtain ⟨hc, hsample⟩ := List.mem_filter.1 hc
    obtain ⟨hk, hlink⟩ := List.mem_filter.1 hk
    obtain ⟨hp, hpod⟩ := List.mem_filter.1 hp
    obtain ⟨hn, hspace⟩ := List.mem_filter.1 hn
    exact ⟨c, hc, hsample, k, hk, hlink, p, hp, hpod, hid, n, hn, hspace, hadmits⟩

variable {filter : MetricFilter} {now : Int} (unique : store.HasUniqueIds)
  (differ : store.SamplesDiffer) (links : store.LinksDiffer)
include unique differ links

/-- The snapshot of pods **sums up** the newest samples that lead to each pod. -/
theorem podSnapshot_sumsUp :
    SumsUp (store.podSnapshot scope filter now) (fun path => path.pod.id)
      (fun pod => store.podPath? (some pod)) (store.newestOfPod scope filter now) := by
  refine (rollup_joined_sumsUp unique differ (fun _ => rfl)
    (fun s => store.podPaths scope s.container) ?_ ?_).sortBy podOrder
  · intro s path hpath
    have hfound := podPath?_of_mem_podPaths unique hpath
    obtain ⟨pod, hid, -⟩ := joins_iff.1 (joins_of_podPath? unique hfound)
    exact ⟨pod, hid, hid ▸ hfound⟩
  · intro pod s
    -- links that differ lead from a container to a pod once
    rw [length_filter_holds (podPaths_idsDiffer unique links scope s.container)]
    congr 1
    rw [eq_iff_iff, any_holds_iff, decide_eq_true_eq, leadsToPod_iff]

end Pods

/-- **The snapshot of pods sums the newest samples.** A store whose catalog identifiers are unique,
whose samples differ, and that links no external identifier to one pod twice, answers every snapshot
of pods whose statement takes the values it is given. For each pod and metric that newest samples
lead to, the answer has one row, with the sum and the greatest time of these samples, each counted
once; it has no further rows, and they are in the order of namespace, pod and metric. -/
theorem pod_snapshot_sums_the_newest_samples {store : Store} (unique : store.HasUniqueIds)
    (differ : store.SamplesDiffer) (links : store.LinksDiffer) (scope : Scope)
    (filter : MetricFilter) (now : Int)
    (takes : Backend.Takes (SnapshotQuery.pods.bound scope filter now) (scope.others filter)) :
    ∃ sums : List (Rollup PodPath),
      SnapshotQuery.pods.run (.ofStore store) scope filter now = .ok (sums.map podSnapshotRow) ∧
        SumsUp sums (fun path => path.pod.id) (fun pod => store.podPath? (some pod))
          (store.newestOfPod scope filter now) ∧
        sums.Pairwise fun r r' => keyLe (podOrder r) (podOrder r') = true := by
  refine ⟨store.podSnapshot scope filter now, ?_, podSnapshot_sumsUp unique differ links,
    sortBy_pairwise podOrder _⟩
  rw [SnapshotQuery.run, Backend.query_ofStore store takes]
  rfl

/-- A pod of two containers has one row, of the newest sample of each. -/
theorem pod_snapshot_of_two_containers :
    onePod.HasUniqueIds ∧ onePod.SamplesDiffer ∧ onePod.LinksDiffer ∧
      Backend.Takes (SnapshotQuery.pods.bound allContainers [] 100) (allContainers.others []) ∧
      ∃ (sums : List (Rollup PodPath)) (path : PodPath),
        SnapshotQuery.pods.run (.ofStore onePod) allContainers [] 100
            = .ok (sums.map podSnapshotRow) ∧
          sums.filter (Rollup.isFor (fun path => path.pod.id) 5 (some "cpu"))
            = [Rollup.ofSamples path (some "cpu")
                (onePod.newestOfPod allContainers [] 100 5 (some "cpu"))] ∧
          (onePod.newestOfPod allContainers [] 100 5 (some "cpu")).map Sample.ts
            = [some 75, some 90] := by
  have hunique : onePod.HasUniqueIds := by constructor <;> decide
  have hdiffer : onePod.SamplesDiffer := by decide
  have hlinks : onePod.LinksDiffer := by decide
  have htakes : Backend.Takes (SnapshotQuery.pods.bound allContainers [] 100)
      (allContainers.others []) := by decide
  obtain ⟨sums, hrun, hsums, -⟩ :=
    pod_snapshot_sums_the_newest_samples hunique hdiffer hlinks allContainers [] 100 htakes
  have hts : (onePod.newestOfPod allContainers [] 100 5 (some "cpu")).map Sample.ts
      = [some 75, some 90] := by decide
  have hne : onePod.newestOfPod allContainers [] 100 5 (some "cpu") ≠ [] := by
    intro hnone
    rw [hnone] at hts
    cases hts
  obtain ⟨path, -, hsum⟩ := hsums.present 5 (some "cpu") hne
  exact ⟨hunique, hdiffer, hlinks, htakes, sums, path, hrun, hsum, hts⟩

/-- A pod of two containers whose samples have labels that the catalog does not know. -/
def unlabelledPod : Store := { onePod with metricLabels := [] }

/-- Snapshots of pods may **fail or leave out samples**: a cluster beyond 64 bits is refused, and so are
more metrics than the statement has room for; and newest samples that lead to a pod are not summed if the
catalog does not know their labels. -/
theorem pod_snapshots_beyond_their_values_or_without_labels :
    unlabelledPod.HasUniqueIds ∧ unlabelledPod.SamplesDiffer ∧ unlabelledPod.LinksDiffer ∧
      SnapshotQuery.pods.run (.ofStore unlabelledPod)
          ⟨some 9223372036854775808, none, .container none, none, none⟩ [] 100
        = .error .idOverflow ∧
      SnapshotQuery.pods.run (.ofStore unlabelledPod) allContainers
          (List.replicate 32767 (some 1)) 100 = .error Backend.tooManyVariables ∧
      SnapshotQuery.pods.run (.ofStore unlabelledPod) allContainers [] 100 = .ok [] ∧
      ∃ s ∈ unlabelledPod.latest allContainers [] 100,
        unlabelledPod.LeadsToPod allContainers 5 s ∧
          ∃ n ∈ unlabelledPod.metricNames, joins s.name n.id = true ∧ n.name = some "cpu" := by
  have hnone : unlabelledPod.joinPods allContainers
      (unlabelledPod.latestLabelled allContainers [] 100) = [] := rfl
  have hempty : SnapshotQuery.pods.run (.ofStore unlabelledPod) allContainers [] 100 = .ok [] := by
    rw [SnapshotQuery.run, Backend.query_ofStore unlabelledPod (by decide)]
    show Except.ok ((unlabelledPod.podSnapshot allContainers [] 100).map _) = _
    rw [Store.podSnapshot, hnone, rollup_nil, sortBy_nil]
    rfl
  refine ⟨by constructor <;> decide, by decide, by decide, rfl, ?_, hempty, by decide⟩
  refine SnapshotQuery.run_ofStore_of_many _ _ _ ?_
  rw [List.length_replicate]
  decide

end ClusterMetrics
