import ClusterMetrics.Proofs.NewestSamples
import ClusterMetrics.Proofs.PodPaths
import ClusterMetrics.Proofs.RowFields
import ClusterMetrics.Proofs.Selections
import ClusterMetrics.Proofs.SeriesRollups

/-! # Narrowed queries

A query that is narrowed to one entity of those it lists, or to one namespace or pod, selects from
the answer of the broader query: the condition is checked on samples, but it only depends on what
the rows are keyed by.

* **`Scope.narrow`**, **`Scope.narrowPods`**: narrowed scopes.
* **`Store.admitsPodId`**: whether a pod lies in a scope.
* **`narrowed_query_selects_rows`**: the rows of a narrowed query are those of the broader query
  that belong to the identifier. -/

namespace ClusterMetrics

/-! ## Entities -/

/-- Whether a scope is **not narrowed** to an entity of a kind. -/
def Scope.IsBroad (scope : Scope) : EntityKind → Prop
  | .node => scope.node = none
  | .process => scope.level = .process none
  | .container => scope.level = .container none

/-- A scope **narrowed to an entity** of a kind. -/
def Scope.narrow (scope : Scope) (n : Int) : EntityKind → Scope
  | .node => { scope with node := some n }
  | .process => { scope with level := .process (some n) }
  | .container => { scope with level := .container (some n) }

/-- Whether a number may **identify an entity** of a kind. Zero marks the samples of no process or
no container. -/
def EntityKind.mayBear (n : Int) : EntityKind → Bool
  | .node => true
  | .process => n != 0
  | .container => n != 0

section Entities

variable {kind : EntityKind} {scope : Scope} {n : Int} (broad : scope.IsBroad kind)
  (bears : kind.mayBear n = true)
include broad bears

/-- A narrowed scope admits the samples of the broader scope that **refer to the entity**. -/
theorem admits_narrow (s : Sample) :
    (scope.narrow n kind).admits s = (decide (kind.column s = some n) && scope.admits s) := by
  cases kind with
  | node =>
    have hnode : scope.node = none := broad
    by_cases hs : s.node = some n
    · simp [Scope.narrow, Scope.admits, hnode, EntityKind.column, holds, hs]
    · simp [Scope.narrow, Scope.admits, EntityKind.column, holds, hs]
  | process =>
    have hlevel : scope.level = .process none := broad
    -- the broader scope leaves out zero, which the identifier is not
    have hzero : (n != 0) = true := bears
    by_cases hs : s.process = some n
    · simp [Scope.narrow, Scope.admits, hlevel, EntityKind.column, EntityLevel.admits, holds,
        holdsOther, hs, hzero]
    · simp [Scope.narrow, Scope.admits, EntityKind.column, EntityLevel.admits, holds, hs]
  | container =>
    have hlevel : scope.level = .container none := broad
    have hzero : (n != 0) = true := bears
    by_cases hs : s.container = some n
    · simp [Scope.narrow, Scope.admits, hlevel, EntityKind.column, EntityLevel.admits, holds,
        holdsOther, hs, hzero]
    · simp [Scope.narrow, Scope.admits, EntityKind.column, EntityLevel.admits, holds, hs]

/-- A narrowed scope and a filter admit the samples of the broader scope and the filter that **refer
to the entity**. -/
theorem admits_narrow_filter (store : Store) (filter : MetricFilter) :
    ∀ s ∈ store.samples, ((scope.narrow n kind).admits s && filter.admits s)
      = (decide (kind.column s = some n) && (scope.admits s && filter.admits s)) := by
  intro s _
  rw [admits_narrow broad bears, Bool.and_assoc]

/-- A narrowed snapshot holds the rows of the broader snapshot that **bear the identifier**. -/
theorem snapshot_narrow (store : Store) (filter : MetricFilter) (now : Int) :
    store.snapshot kind (scope.narrow n kind) filter now
      = (store.snapshot kind scope filter now).filter fun r => r.2.id = some n := by
  -- the entity is a part of the series, so a series is kept or left out as a whole
  have hkeeps : ∀ s key, Sample.seriesKey? s = some key →
      decide (kind.column s = some n) = decide (key.column kind = n) := by
    intro s key hkey
    simp [column_of_seriesKey? kind hkey]
  rw [snapshot_filter hkeeps (admits_narrow_filter broad bears store filter)]
  apply List.filter_congr
  intro r hr
  obtain ⟨x, hcolumn, hid⟩ := joins_iff.1 (joins_of_mem_join (mem_sortBy.1 hr))
  rw [hcolumn, hid]

/-- The samples of a narrowed series are the samples of the broader series that **bear the
identifier**. -/
theorem entitySamples_narrow (store : Store) (filter : MetricFilter) (rule : BucketRule) :
    store.entitySamples kind (scope.narrow n kind) filter rule
      = (store.entitySamples kind scope filter rule).filter fun s =>
          s.key[1]?.bind Cell.int? = some n := by
  rw [Store.entitySamples, inRange_filter (admits_narrow_filter broad bears store filter),
    join_filter, Store.entitySamples, List.filter_map]
  congr 1
  apply List.filter_congr
  intro r hr
  obtain ⟨x, hcolumn, hid⟩ := joins_iff.1 (joins_of_mem_join hr)
  simp [hcolumn, hid, keyed]

end Entities

/-! ## Pods -/

/-- A scope **narrowed to pods**: those of a namespace, one pod, or both. -/
def Scope.narrowPods (scope : Scope) (podNamespace pod : Option Int) : Scope :=
  { scope with podNamespace := podNamespace, pod := pod }

/-- Whether the **pod of an identifier** lies in a scope. -/
def Store.admitsPodId (store : Store) (scope : Scope) (pod : Option Int) : Bool :=
  (store.podPath? pod).any scope.admitsPod

section Pods

variable {store : Store} (unique : store.HasUniqueIds) {scope : Scope}
  {podNamespace pod : Option Int}
  (hspace : scope.podNamespace = none ∨ scope.podNamespace = podNamespace)
  (hpod : scope.pod = none ∨ scope.pod = pod)

include hspace hpod in
/-- Narrowed pods lie **in the broader scope**. -/
theorem admitsPod_of_narrowPods {path : PodPath}
    (h : (scope.narrowPods podNamespace pod).admitsPod path = true) :
    scope.admitsPod path = true := by
  have h' : podNamespace.all (holds path.podNamespace.id) = true ∧
      pod.all (holds path.pod.id) = true := by
    simpa [Scope.admitsPod, Scope.narrowPods] using h
  rw [Scope.admitsPod, Bool.and_eq_true]
  refine ⟨?_, ?_⟩
  · rcases hspace with hnone | hsame
    · rw [hnone]; rfl
    · rw [hsame]; exact h'.1
  · rcases hpod with hnone | hsame
    · rw [hnone]; rfl
    · rw [hsame]; exact h'.2

include hspace hpod in
/-- The pods of a container in a narrowed scope are **selected** from its pods. -/
theorem podPaths_narrowPods (container : Option Int) :
    store.podPaths (scope.narrowPods podNamespace pod) container
      = (store.podPaths scope container).filter (scope.narrowPods podNamespace pod).admitsPod := by
  rw [Store.podPaths, Store.podPaths, List.filter_filter]
  apply List.filter_congr
  intro path _
  cases h : (scope.narrowPods podNamespace pod).admitsPod path with
  | true => rw [admitsPod_of_narrowPods hspace hpod h]; rfl
  | false => rfl

include unique in
/-- The pod of a path lies in a scope if **the path** does. -/
theorem admitsPodId_of_mem_podPaths {scope' : Scope} {container : Option Int} {path : PodPath}
    (h : path ∈ store.podPaths scope container) :
    store.admitsPodId scope' path.pod.id = scope'.admitsPod path := by
  rw [Store.admitsPodId, podPath?_of_mem_podPaths unique h, Option.any_some]

include unique hspace hpod in
/-- Samples are joined in a narrowed scope to the pods **that lie in it**. -/
theorem joinPods_narrowPods (samples : List LabelledSample) :
    store.joinPods (scope.narrowPods podNamespace pod) samples
      = (store.joinPods scope samples).filter fun r =>
          store.admitsPodId (scope.narrowPods podNamespace pod) r.2.pod.id := by
  rw [Store.joinPods, Store.joinPods, List.filter_flatMap]
  congr 1
  funext m
  rw [podPaths_narrowPods hspace hpod, List.filter_map]
  congr 1
  apply List.filter_congr
  intro path hpath
  exact (admitsPodId_of_mem_podPaths unique hpath).symm

include unique hspace hpod in
/-- A narrowed snapshot of pods holds the sums of the broader snapshot whose **pods lie in the
narrowed scope**. -/
theorem podSnapshot_narrowPods (filter : MetricFilter) (now : Int) :
    store.podSnapshot (scope.narrowPods podNamespace pod) filter now
      = (store.podSnapshot scope filter now).filter fun r =>
          store.admitsPodId (scope.narrowPods podNamespace pod) r.subject.pod.id := by
  -- pods do not matter before samples are joined to them
  have hlatest : store.latestLabelled (scope.narrowPods podNamespace pod) filter now
      = store.latestLabelled scope filter now := rfl
  rw [Store.podSnapshot, hlatest, joinPods_narrowPods unique hspace hpod,
    rollup_filter (p := fun key => store.admitsPodId (scope.narrowPods podNamespace pod)
      (key[0]?.bind Cell.int?)) fun r _ => by simp [podKey], ← filter_sortBy]
  apply List.filter_congr
  intro r _
  simp [Rollup.key, podKey]

include unique hspace hpod in
/-- The samples of a narrowed series of pods are those of the broader series whose **pods lie in the
narrowed scope**. -/
theorem podSamples_narrowPods (filter : MetricFilter) (rule : BucketRule) :
    store.podSamples (scope.narrowPods podNamespace pod) filter rule
      = (store.podSamples scope filter rule).filter fun s =>
          store.admitsPodId (scope.narrowPods podNamespace pod)
            ((s.key.drop 2)[0]?.bind Cell.int?) := by
  have hrange : store.inRange (scope.narrowPods podNamespace pod) filter rule
      = store.inRange scope filter rule := rfl
  rw [Store.podSamples, hrange, joinPods_narrowPods unique hspace hpod, Store.podSamples,
    List.filter_map]
  congr 1
  apply List.filter_congr
  intro r _
  simp [keyed]

end Pods

/-! ## Answers -/

section Answers

variable {backend : Backend} {scope : Scope} {filter : MetricFilter} {rows : List Row}

/-- The numbers of a narrowed statement are those of the broader one, **and the identifier**. -/
theorem mem_bound_narrow {kind : EntityKind} {n m : Int} {numbers : List Int}
    (broad : scope.IsBroad kind) (fits : fits64 n = true)
    (h : m ∈ (scope.narrow n kind).bound ++ numbers) :
    m ∈ scope.bound ++ numbers ∨ fits64 m = true := by
  by_cases hm : m = n
  · exact .inr (hm ▸ fits)
  · refine .inl ?_
    cases kind with
    | node =>
      have hnode : scope.node = none := broad
      simpa [Scope.narrow, Scope.bound, hnode, hm] using h
    | process =>
      have hlevel : scope.level = .process none := broad
      simpa [Scope.narrow, Scope.bound, hlevel, hm] using h
    | container =>
      have hlevel : scope.level = .container none := broad
      simpa [Scope.narrow, Scope.bound, hlevel, hm] using h

/-- A snapshot narrowed to an entity answers the rows that **bear the identifier**. -/
theorem snapshot_run_narrow {kind : EntityKind} {n now : Int} (broad : scope.IsBroad kind)
    (bears : kind.mayBear n = true) (fits : fits64 n = true)
    (few : (SnapshotQuery.entities kind).valueCount (scope.narrow n kind) filter now
      ≤ variableLimit)
    (answered : (SnapshotQuery.entities kind).run backend scope filter now = .ok rows) :
    (SnapshotQuery.entities kind).run backend (scope.narrow n kind) filter now
      = .ok (rows.filter fun row => row.int? kind.idField = some n) := by
  have htakes : Backend.Takes ((SnapshotQuery.entities kind).bound (scope.narrow n kind) filter now)
      ((scope.narrow n kind).others filter) := by
    refine ⟨few, fun m hm => ?_⟩
    rw [SnapshotQuery.bound, List.append_assoc] at hm
    refine (mem_bound_narrow broad fits hm).elim (fun h => ?_) id
    rw [← List.append_assoc] at h
    exact (SnapshotQuery.takes_of_run answered).fits m h
  rw [SnapshotQuery.run_of_run answered htakes, ← SnapshotQuery.rows_of_run answered]
  simp only [SnapshotQuery.rows, snapshot_narrow broad bears, List.filter_map, Function.comp_def,
    int?_snapshotRow]

/-- A series narrowed to an entity answers the rows that **bear the identifier**. -/
theorem series_run_narrow {kind : EntityKind} {n : Int} {rule : BucketRule}
    (broad : scope.IsBroad kind) (bears : kind.mayBear n = true) (fits : fits64 n = true)
    (few : (SeriesQuery.entities kind).valueCount (scope.narrow n kind) filter ≤ variableLimit)
    (answered : (SeriesQuery.entities kind).run backend scope filter rule = .ok rows) :
    (SeriesQuery.entities kind).run backend (scope.narrow n kind) filter rule
      = .ok (rows.filter fun row => row.int? kind.idField = some n) := by
  have htakes : Backend.Takes ((SeriesQuery.entities kind).bound (scope.narrow n kind) filter)
      (SeriesQuery.others (scope.narrow n kind) filter) :=
    ⟨few, fun m hm => (mem_bound_narrow broad fits hm).elim
      ((SeriesQuery.takes_of_run answered).fits m) id⟩
  obtain ⟨cells, hcells, rfl⟩ := SeriesQuery.rows_eq_ok_iff.1 (SeriesQuery.rows_of_run answered)
  have hsamples : (SeriesQuery.entities kind).samples backend.store (scope.narrow n kind) filter
        rule
      = ((SeriesQuery.entities kind).samples backend.store scope filter rule).filter fun s =>
          ((SeriesQuery.entities kind).part s.key)[1]?.bind Cell.int? = some n :=
    entitySamples_narrow broad bears backend.store filter rule
  have hselected := SeriesQuery.cells_filter
    (p := fun key => decide (key[1]?.bind Cell.int? = some n)) hsamples hcells
  rw [SeriesQuery.run_of_run answered htakes]
  refine SeriesQuery.rows_eq_ok_iff.2 ⟨_, hselected, ?_⟩
  simp only [List.filter_map, Function.comp_def, int?_entityRow]

/-- A snapshot of pods narrowed to a namespace or a pod answers the sums of **the pods in it**. -/
theorem podSnapshot_run_narrow (unique : backend.store.HasUniqueIds) {podNamespace pod : Option Int}
    {now : Int} (hspace : scope.podNamespace = none ∨ scope.podNamespace = podNamespace)
    (hpod : scope.pod = none ∨ scope.pod = pod)
    (fits : ∀ n ∈ podNamespace.toList ++ pod.toList, fits64 n = true)
    (few : SnapshotQuery.pods.valueCount (scope.narrowPods podNamespace pod) filter now
      ≤ variableLimit)
    (answered : SnapshotQuery.pods.run backend scope filter now = .ok rows) :
    rows = (backend.store.podSnapshot scope filter now).map podSnapshotRow ∧
      SnapshotQuery.pods.run backend (scope.narrowPods podNamespace pod) filter now
        = .ok (((backend.store.podSnapshot scope filter now).filter fun r =>
            backend.store.admitsPodId (scope.narrowPods podNamespace pod) r.subject.pod.id).map
              podSnapshotRow) := by
  refine ⟨(SnapshotQuery.rows_of_run answered).symm, ?_⟩
  have htakes : Backend.Takes
      (SnapshotQuery.pods.bound (scope.narrowPods podNamespace pod) filter now)
      ((scope.narrowPods podNamespace pod).others filter) := by
    refine ⟨few, fun m hm => ?_⟩
    rcases List.mem_append.1 hm with hshared | hids
    · exact (SnapshotQuery.takes_of_run answered).fits m (List.mem_append_left _ hshared)
    · exact fits m hids
  rw [SnapshotQuery.run_of_run answered htakes, SnapshotQuery.rows,
    podSnapshot_narrowPods unique hspace hpod]

/-- A series of pods narrowed to a namespace or a pod answers the rows of **the pods in it**. -/
theorem podSeries_run_narrow (unique : backend.store.HasUniqueIds) {podNamespace pod : Option Int}
    {rule : BucketRule} (hspace : scope.podNamespace = none ∨ scope.podNamespace = podNamespace)
    (hpod : scope.pod = none ∨ scope.pod = pod)
    (fits : ∀ n ∈ podNamespace.toList ++ pod.toList, fits64 n = true)
    (few : SeriesQuery.pods.valueCount (scope.narrowPods podNamespace pod) filter ≤ variableLimit)
    (answered : SeriesQuery.pods.run backend scope filter rule = .ok rows) :
    SeriesQuery.pods.run backend (scope.narrowPods podNamespace pod) filter rule
      = .ok (rows.filter fun row =>
          backend.store.admitsPodId (scope.narrowPods podNamespace pod) (row.int? "pod_id")) := by
  have htakes : Backend.Takes
      (SeriesQuery.pods.bound (scope.narrowPods podNamespace pod) filter)
      (SeriesQuery.others (scope.narrowPods podNamespace pod) filter) := by
    refine ⟨few, fun m hm => ?_⟩
    rcases List.mem_append.1 hm with hshared | hids
    · exact (SeriesQuery.takes_of_run answered).fits m (List.mem_append_left _ hshared)
    · exact fits m hids
  obtain ⟨cells, hcells, rfl⟩ := SeriesQuery.rows_eq_ok_iff.1 (SeriesQuery.rows_of_run answered)
  have hsamples : SeriesQuery.pods.samples backend.store (scope.narrowPods podNamespace pod) filter
        rule
      = (SeriesQuery.pods.samples backend.store scope filter rule).filter fun s =>
          backend.store.admitsPodId (scope.narrowPods podNamespace pod)
            ((SeriesQuery.pods.part s.key)[0]?.bind Cell.int?) :=
    podSamples_narrowPods unique hspace hpod filter rule
  have hselected := SeriesQuery.cells_filter
    (p := fun key => backend.store.admitsPodId (scope.narrowPods podNamespace pod)
      (key[0]?.bind Cell.int?)) hsamples hcells
  rw [SeriesQuery.run_of_run answered htakes]
  refine SeriesQuery.rows_eq_ok_iff.2 ⟨_, hselected, ?_⟩
  simp only [List.filter_map, Function.comp_def, int?_podRow]

end Answers

/-- The containers of a cluster. -/
def allContainers : Scope := ⟨some 1, none, .container none, none, none⟩

/-- A process of identifier zero, and a sample of no process. -/
def idleProcess : Store :=
  { Store.empty with
    processes := [⟨some 0, some "idle"⟩]
    metricNames := [⟨some 1, some "cpu", none, none⟩]
    metricLabels := [⟨some 1, some "total"⟩]
    samples := [⟨some 1, some 1, some 0, some 0, some 1, some 1, some 90, some (.number 10.0)⟩] }

/-- The processes of a cluster. -/
def allProcesses : Scope := ⟨some 1, none, .process none, none, none⟩

/-- The statement of a snapshot of nodes is given five values besides its filter, and one more if it
is **narrowed to a node**. -/
theorem valueCount_clusterScope (filter : MetricFilter) (c now n : Int) :
    (SnapshotQuery.entities .node).valueCount (clusterScope c) filter now = filter.length + 5 ∧
      (SnapshotQuery.entities .node).valueCount ((clusterScope c).narrow n .node) filter now
        = filter.length + 6 := by
  have hfilter := filter.length_numbers_add_count
  simp only [SnapshotQuery.valueCount, SnapshotQuery.bound, Scope.others, Scope.bound,
    Scope.narrow, clusterScope, EntityLevel.marks, Option.toList, List.length_append,
    List.length_cons, List.length_nil]
  omega

/-- So the broader statement just **has room** for that many metrics. -/
theorem takes_clusterScope {filter : MetricFilter} (few : filter.length + 5 ≤ variableLimit)
    (fits : ∀ m, some m ∈ filter → fits64 m = true) :
    Backend.Takes ((SnapshotQuery.entities .node).bound (clusterScope 1) filter 100)
      ((clusterScope 1).others filter) := by
  have hscope : ∀ m ∈ (clusterScope 1).bound ++ [100 - freshness, 100], fits64 m = true := by
    decide
  have hcount := (valueCount_clusterScope filter 1 100 1).1
  refine ⟨Nat.le_trans (Nat.le_of_eq hcount) few, fun m hm => ?_⟩
  refine (List.mem_append.1 hm).elim (hscope m) fun hm => ?_
  obtain ⟨_, hid, rfl⟩ := List.mem_filterMap.1 hm
  exact fits m hid

end ClusterMetrics
