import ClusterMetrics.Proofs.SortedRows
import ClusterMetrics.Proofs.Statements
import ClusterMetrics.Proofs.UniqueIds
import Mathlib.Data.List.Pairwise

/-! # The newest samples

A snapshot finds the greatest time of every series among the samples of its scope, and then looks
the samples up again by series and time. Where series and time tell samples apart, the second look
finds the samples of the first, and nothing else.

* **`Store.SamplesDiffer`**: no two samples agree on their series and their time.
* **`Store.Selects`**: what makes a sample one of a snapshot. **`clusterScope`**: the nodes of a
  cluster.
* **`snapshot_lists_the_newest_samples`**: a snapshot has one row for each sample it selects. -/

namespace ClusterMetrics

/-! ## Series and times -/

/-- A series holds **the five columns** of its samples. -/
theorem seriesKey?_eq_some_iff {s : Sample} {key : SeriesKey} :
    s.seriesKey? = some key ↔
      s.node = some key.node ∧ s.process = some key.process ∧ s.container = some key.container ∧
        s.name = some key.name ∧ s.label = some key.label := by
  obtain ⟨node, process, container, name, label⟩ := key
  simp only [Sample.seriesKey?, Option.bind_eq_bind, Option.bind_eq_some_iff, Option.pure_def,
    Option.some.injEq, SeriesKey.mk.injEq]
  constructor
  · rintro ⟨_, hnode, _, hprocess, _, hcontainer, _, hname, _, hlabel, rfl, rfl, rfl, rfl, rfl⟩
    exact ⟨hnode, hprocess, hcontainer, hname, hlabel⟩
  · rintro ⟨hnode, hprocess, hcontainer, hname, hlabel⟩
    exact ⟨_, hnode, _, hprocess, _, hcontainer, _, hname, _, hlabel, rfl, rfl, rfl, rfl, rfl⟩

/-- The entity of a kind that a **series** belongs to. -/
def SeriesKey.column (key : SeriesKey) : EntityKind → Int
  | .node => key.node
  | .process => key.process
  | .container => key.container

theorem column_of_seriesKey? (kind : EntityKind) {s : Sample} {key : SeriesKey}
    (h : s.seriesKey? = some key) : kind.column s = some (key.column kind) := by
  obtain ⟨hnode, hprocess, hcontainer, -, -⟩ := seriesKey?_eq_some_iff.1 h
  cases kind <;> assumption

/-- Whether two samples **agree** on their series and their time. -/
def Sample.agrees (s t : Sample) : Bool := joins s.seriesKey? t.seriesKey? && joins s.ts t.ts

/-- Samples that agree are **of one entity**. -/
theorem column_eq_of_agrees (kind : EntityKind) {s t : Sample} (h : s.agrees t = true) :
    kind.column s = kind.column t := by
  rw [Sample.agrees, Bool.and_eq_true] at h
  obtain ⟨key, hs, ht⟩ := joins_iff.1 h.1
  rw [column_of_seriesKey? kind hs, column_of_seriesKey? kind ht]

/-- Whether **no two samples** agree on their series and their time. -/
def Store.SamplesDiffer (store : Store) : Prop :=
  store.samples.Pairwise fun s t => s.agrees t = false

instance (store : Store) : Decidable store.SamplesDiffer :=
  inferInstanceAs (Decidable (store.samples.Pairwise fun s t => s.agrees t = false))

/-- Samples that agree are **the same**. -/
theorem Store.SamplesDiffer.eq_of_agrees {store : Store} (differ : store.SamplesDiffer)
    {s t : Sample} (hs : s ∈ store.samples) (ht : t ∈ store.samples) (h : s.agrees t = true) :
    s = t := by
  have hsymm : Std.Symm fun a b : Sample => a.agrees b = false := by
    refine ⟨fun a b hab => ?_⟩
    rwa [Sample.agrees, joins_comm, joins_comm b.ts]
  by_contra hne
  have hfalse : s.agrees t = false := List.Pairwise.forall differ hs ht hne
  simp [h] at hfalse

/-! ## Candidates -/

/-- Whether a sample meets the **conditions** of a snapshot: its scope, its window and its
filter. -/
def Sample.isCandidate (scope : Scope) (filter : MetricFilter) (now : Int) (s : Sample) : Bool :=
  scope.admits s && isFresh now s && filter.admits s

theorem mem_candidates {store : Store} {scope : Scope} {filter : MetricFilter} {now : Int}
    {s : Sample} :
    s ∈ store.candidates scope filter now ↔
      s ∈ store.samples ∧ s.isCandidate scope filter now = true := List.mem_filter

/-- A candidate has a **time**. -/
theorem exists_ts_of_isCandidate {scope : Scope} {filter : MetricFilter} {now : Int} {s : Sample}
    (h : s.isCandidate scope filter now = true) : ∃ t, s.ts = some t := by
  cases hts : s.ts with
  | none => simp [Sample.isCandidate, isFresh, hts] at h
  | some t => exact ⟨t, rfl⟩

/-- The newest time of a series is the **greatest** time of its candidates. -/
theorem newestTime_eq_some_iff {candidates : List Sample} {key : SeriesKey} {t : Int} :
    newestTime candidates key = some t ↔
      (∃ s ∈ candidates, s.seriesKey? = some key ∧ s.ts = some t) ∧
        ∀ s ∈ candidates, s.seriesKey? = some key → ∀ u ∈ s.ts, u ≤ t := by
  rw [newestTime, List.max?_eq_some_iff]
  simp only [List.mem_filterMap, List.mem_filter, decide_eq_true_eq, Option.mem_def]
  constructor
  · rintro ⟨⟨s, ⟨hs, hkey⟩, hts⟩, hmax⟩
    exact ⟨⟨s, hs, hkey, hts⟩, fun s hs hkey u hu => hmax u ⟨s, ⟨hs, hkey⟩, hu⟩⟩
  · rintro ⟨⟨s, hs, hkey, hts⟩, hmax⟩
    refine ⟨⟨s, ⟨hs, hkey⟩, hts⟩, ?_⟩
    rintro u ⟨s, ⟨hs, hkey⟩, hu⟩
    exact hmax s hs hkey u hu

/-- A newest sample has the **newest time** of its series. -/
theorem isNewest_iff {candidates : List Sample} {m : Sample} :
    isNewest candidates m = true ↔
      ∃ key t, m.seriesKey? = some key ∧ m.ts = some t ∧ newestTime candidates key = some t := by
  rw [isNewest]
  cases m.seriesKey? with
  | none => simp
  | some key => simp [joins_iff]

/-! ## Selection -/

/-- What makes a sample **one of a snapshot**: it meets the conditions, no sample of its series that
meets them is newer, and the catalog knows its name, its label and its entity. -/
structure Store.Selects (store : Store) (kind : EntityKind) (scope : Scope) (filter : MetricFilter)
    (now : Int) (m : Sample) : Prop where
  hasKey : m.seriesKey?.isSome = true
  candidate : m.isCandidate scope filter now = true
  greatest : ∀ s ∈ store.samples, s.seriesKey? = m.seriesKey? →
    s.isCandidate scope filter now = true → ∀ t ∈ s.ts, ∀ u ∈ m.ts, t ≤ u
  named : ∃ n ∈ store.metricNames, joins m.name n.id = true
  labelled : ∃ l ∈ store.metricLabels, joins m.label l.id = true
  placed : ∃ e ∈ kind.entities store, joins (kind.column m) e.id = true

/-- A snapshot selects the samples that are **newest among candidates** and known to the catalog. -/
theorem selects_iff_and {store : Store} {kind : EntityKind} {scope : Scope} {filter : MetricFilter}
    {now : Int} {m : Sample} :
    store.Selects kind scope filter now m ↔
      (m.seriesKey?.isSome = true ∧ m.isCandidate scope filter now = true ∧
        ∀ s ∈ store.samples, s.seriesKey? = m.seriesKey? → s.isCandidate scope filter now = true →
          ∀ t ∈ s.ts, ∀ u ∈ m.ts, t ≤ u) ∧
        (store.entityRow? kind m).isSome = true := by
  rw [entityRow?_isSome_iff]
  constructor
  · intro h
    exact ⟨⟨h.hasKey, h.candidate, h.greatest⟩, h.named, h.labelled, h.placed⟩
  · rintro ⟨⟨hkey, hcandidate, hgreatest⟩, hname, hlabel, hentity⟩
    exact ⟨hkey, hcandidate, hgreatest, hname, hlabel, hentity⟩

instance (store : Store) (kind : EntityKind) (scope : Scope) (filter : MetricFilter) (now : Int)
    (m : Sample) : Decidable (store.Selects kind scope filter now m) :=
  decidable_of_iff _ selects_iff_and.symm

section Selection

variable {store : Store} {kind : EntityKind} {scope : Scope} {filter : MetricFilter} {now : Int}

/-- Where samples differ, a newest sample is **a candidate**, and no candidate of its series is
newer. -/
theorem isNewest_candidates_iff (differ : store.SamplesDiffer) {m : Sample}
    (hm : m ∈ store.samples) :
    isNewest (store.candidates scope filter now) m = true ↔
      m.seriesKey?.isSome = true ∧ m.isCandidate scope filter now = true ∧
        ∀ s ∈ store.samples, s.seriesKey? = m.seriesKey? → s.isCandidate scope filter now = true →
          ∀ t ∈ s.ts, ∀ u ∈ m.ts, t ≤ u := by
  rw [isNewest_iff]
  constructor
  · rintro ⟨key, t, hkey, hts, hnewest⟩
    obtain ⟨⟨c, hc, hckey, hcts⟩, hmax⟩ := newestTime_eq_some_iff.1 hnewest
    obtain ⟨hcmem, hcandidate⟩ := mem_candidates.1 hc
    -- the candidate that has the newest time agrees with `m`, so it is `m`
    have hagrees : c.agrees m = true := by
      simp [Sample.agrees, joins_iff, hckey, hkey, hcts, hts]
    have hcm : c = m := differ.eq_of_agrees hcmem hm hagrees
    subst hcm
    refine ⟨by simp [hkey], hcandidate, ?_⟩
    intro s hs hskey hscandidate u hu v hv
    have hvt : v = t := Option.some.inj ((Option.mem_def.1 hv).symm.trans hts)
    rw [hvt]
    exact hmax s (mem_candidates.2 ⟨hs, hscandidate⟩) (hskey.trans hkey) u hu
  · rintro ⟨hsome, hcandidate, hmax⟩
    -- `m` is the candidate that attains the greatest time
    obtain ⟨key, hkey⟩ := Option.isSome_iff_exists.1 hsome
    obtain ⟨t, hts⟩ := exists_ts_of_isCandidate hcandidate
    refine ⟨key, t, hkey, hts, newestTime_eq_some_iff.2 ⟨?_, ?_⟩⟩
    · exact ⟨m, mem_candidates.2 ⟨hm, hcandidate⟩, hkey, hts⟩
    · intro s hs hskey u hu
      obtain ⟨hsmem, hscandidate⟩ := mem_candidates.1 hs
      exact hmax s hsmem (hskey.trans hkey.symm) hscandidate u hu t (Option.mem_def.2 hts)

/-- The rows of a snapshot hold the samples **it selects**, each as often as the store does. -/
theorem snapshot_samples_perm (unique : store.HasUniqueIds) (differ : store.SamplesDiffer) :
    ((store.snapshot kind scope filter now).map fun r => r.1.sample).Perm
      (store.samples.filter fun m => store.Selects kind scope filter now m) := by
  have hrows : kind.join store (store.latestLabelled scope filter now)
      = (store.latest scope filter now).filterMap (store.entityRow? kind) :=
    join_labelled_eq_filterMap unique kind _
  -- joining drops the samples that the catalog does not know, and keeps each other one once
  have hsamples : ((store.latest scope filter now).filterMap (store.entityRow? kind)).map
        (fun r => r.1.sample)
      = (store.latest scope filter now).filter fun m => (store.entityRow? kind m).isSome := by
    have h := map_filter_filterMap (f := store.entityRow? kind) (g := fun r => r.1.sample) (h := id)
      (fun _ _ hr => (joins_of_entityRow? unique hr).1) (fun _ => true)
      (store.latest scope filter now)
    simpa using h
  have hselected : (store.latest scope filter now).filter
        (fun m => (store.entityRow? kind m).isSome)
      = store.samples.filter fun m => store.Selects kind scope filter now m := by
    rw [Store.latest, List.filter_filter]
    apply List.filter_congr
    intro m hm
    rw [Bool.eq_iff_iff, Bool.and_eq_true, decide_eq_true_eq, selects_iff_and,
      isNewest_candidates_iff differ hm, and_comm]
  rw [← hselected, ← hsamples, ← hrows]
  exact (sortBy_perm entityOrder _).map _

/-- Every row of a snapshot **joins its sample**. -/
theorem joins_of_mem_snapshot (unique : store.HasUniqueIds) {r : LabelledSample × Entity}
    (h : r ∈ store.snapshot kind scope filter now) : store.Joins kind r := by
  rw [Store.snapshot, mem_sortBy, Store.latestLabelled, join_labelled_eq_filterMap unique,
    List.mem_filterMap] at h
  obtain ⟨s, -, hs⟩ := h
  exact (joins_of_entityRow? unique hs).2

end Selection

/-! ## Snapshots -/

/-- The scope of the **nodes of a cluster**. -/
def clusterScope (c : Int) : Scope := ⟨some c, none, .node, none, none⟩

/-- **A snapshot lists the newest samples.** A store whose catalog identifiers are unique and whose
samples differ answers every snapshot whose statement takes the values it is given: with one row for
each sample that the snapshot selects, joined to its name, label and entity, in the order of entity,
metric and label. -/
theorem snapshot_lists_the_newest_samples {store : Store} (unique : store.HasUniqueIds)
    (differ : store.SamplesDiffer) (kind : EntityKind) (scope : Scope) (filter : MetricFilter)
    (now : Int)
    (takes : Backend.Takes ((SnapshotQuery.entities kind).bound scope filter now)
      (scope.others filter)) :
    ∃ records : List (LabelledSample × Entity),
      (SnapshotQuery.entities kind).run (.ofStore store) scope filter now
          = .ok (records.map (snapshotRow kind)) ∧
        (records.map fun r => r.1.sample).Perm
          (store.samples.filter fun m => store.Selects kind scope filter now m) ∧
        (∀ r ∈ records, store.Joins kind r) ∧
        records.Pairwise fun r r' => keyLe (entityOrder r) (entityOrder r') = true := by
  refine ⟨store.snapshot kind scope filter now, ?_, snapshot_samples_perm unique differ,
    fun r hr => joins_of_mem_snapshot unique hr, sortBy_pairwise entityOrder _⟩
  rw [SnapshotQuery.run, Backend.query_ofStore store takes]
  rfl

/-- Two nodes of one cluster. The first has an older, a newest and a future sample of one series,
and the second has a sample of its own. -/
def twoNodes : Store :=
  { Store.empty with
    nodes := [⟨some 1, some 1, some "beta", none, none, none, none, none, none⟩,
      ⟨some 2, some 1, some "alpha", none, none, none, none, none, none⟩]
    metricNames := [⟨some 1, some "cpu", none, none⟩]
    metricLabels := [⟨some 1, some "total"⟩]
    samples := [⟨some 1, some 1, some 0, some 0, some 1, some 1, some 60, some (.number 1.0)⟩,
      ⟨some 1, some 1, some 0, some 0, some 1, some 1, some 95, some (.number 2.0)⟩,
      ⟨some 1, some 1, some 0, some 0, some 1, some 1, some 101, some (.number 3.0)⟩,
      ⟨some 1, some 2, some 0, some 0, some 1, some 1, some 90, none⟩] }

/-- The snapshot of two nodes has the newest sample of each. -/
theorem newest_samples_of_two_nodes :
    twoNodes.HasUniqueIds ∧ twoNodes.SamplesDiffer ∧
      ∃ records : List (LabelledSample × Entity),
        (SnapshotQuery.entities .node).run (.ofStore twoNodes) ⟨some 1, none, .node, none, none⟩ []
            100 = .ok (records.map (snapshotRow .node)) ∧
          (records.map fun r => r.1.sample.ts).Perm [some 95, some 90] := by
  have hunique : twoNodes.HasUniqueIds := by constructor <;> decide
  have hdiffer : twoNodes.SamplesDiffer := by decide
  obtain ⟨records, hrun, hperm, -, -⟩ := snapshot_lists_the_newest_samples hunique hdiffer .node
    ⟨some 1, none, .node, none, none⟩ [] 100 (by decide)
  refine ⟨hunique, hdiffer, records, hrun, ?_⟩
  have hts := hperm.map Sample.ts
  rw [List.map_map] at hts
  have hselected : (twoNodes.samples.filter fun m =>
      twoNodes.Selects .node ⟨some 1, none, .node, none, none⟩ [] 100 m).map Sample.ts
        = [some 95, some 90] := by decide
  rwa [hselected] at hts

/-- A cluster that does not fit 64 bits has **no snapshot**, not even an empty one, and neither has a
cluster for more metrics than its statement has room for. -/
theorem snapshots_beyond_the_values_of_a_statement :
    Store.empty.HasUniqueIds ∧ Store.empty.SamplesDiffer ∧
      (SnapshotQuery.entities .node).run (.ofStore .empty) (clusterScope 9223372036854775808) []
          100 = .error .idOverflow ∧
      (SnapshotQuery.entities .node).run (.ofStore .empty) (clusterScope 1)
          (List.replicate 32767 (some 1)) 100 = .error Backend.tooManyVariables := by
  refine ⟨by constructor <;> exact List.Pairwise.nil, List.Pairwise.nil, rfl, ?_⟩
  refine SnapshotQuery.run_ofStore_of_many _ _ _ ?_
  rw [List.length_replicate]
  decide

end ClusterMetrics
