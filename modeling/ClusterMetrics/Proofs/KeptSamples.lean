import ClusterMetrics.Proofs.NewestSamples
import ClusterMetrics.Proofs.Selections

/-! # Stores of fewer samples

A query that only admits samples of some kind does not find its candidates elsewhere, so the other
samples of the store may be left out. A snapshot looks its candidates up again by series and time,
and may meet other samples then; a series does not.

* **`Store.keeping`**, **`Backend.keeping`**: a store with only the samples that satisfy a
  condition.
* **`latest_keeping`**, **`inRange_keeping`**: the newest samples and the samples of a range there.
* **`SnapshotQuery.run_keeping`**, **`SummaryQuery.run_keeping`**, **`SeriesQuery.run_keeping`**:
  queries that do not need the samples left out answer the same. -/

namespace ClusterMetrics

/-- The store with only the samples that **satisfy a condition**. -/
def Store.keeping (store : Store) (p : Sample → Bool) : Store :=
  { store with samples := store.samples.filter p }

/-- A store as a server finds it, with only the samples that **satisfy a condition**. -/
def Backend.keeping (backend : Backend) (p : Sample → Bool) : Backend :=
  { backend with store := backend.store.keeping p }

section Samples

variable {store : Store} {scope : Scope} {filter : MetricFilter} {p : Sample → Bool}
  (hadmits : ∀ s, scope.admits s = true → p s = true)
include hadmits

/-- Samples that are admitted are **found among those kept**. -/
theorem filter_keeping {q : Sample → Bool} (hq : ∀ s, q s = true → scope.admits s = true) :
    (store.keeping p).samples.filter q = store.samples.filter q := by
  rw [Store.keeping, List.filter_filter]
  apply List.filter_congr
  intro s _
  cases h : q s with
  | true => rw [hadmits s (hq s h)]; rfl
  | false => rfl

/-- The candidates are **found among those kept**. -/
theorem candidates_keeping (now : Int) :
    (store.keeping p).candidates scope filter now = store.candidates scope filter now := by
  refine filter_keeping hadmits fun s hs => ?_
  rw [Bool.and_eq_true, Bool.and_eq_true] at hs
  exact hs.1.1

/-- The newest samples of those kept are **the newest samples that are kept**. -/
theorem latest_keeping (now : Int) :
    (store.keeping p).latest scope filter now = (store.latest scope filter now).filter p := by
  rw [Store.latest, candidates_keeping hadmits, Store.latest, Store.keeping, List.filter_filter,
    List.filter_filter]
  simp only [Bool.and_comm]

/-- The samples of a range are **found among those kept**. -/
theorem inRange_keeping (rule : BucketRule) :
    (store.keeping p).inRange scope filter rule = store.inRange scope filter rule := by
  have hsamples : (store.keeping p).samples.filter
        (fun s => scope.admits s && rule.covers s && filter.admits s)
      = store.samples.filter fun s => scope.admits s && rule.covers s && filter.admits s := by
    refine filter_keeping hadmits fun s hs => ?_
    rw [Bool.and_eq_true, Bool.and_eq_true] at hs
    exact hs.1.1
  rw [Store.inRange, hsamples]
  rfl

/-- The newest samples of a store are those that **agree** with a newest one that is kept. -/
theorem mem_latest_iff_agrees (now : Int) {m : Sample} :
    m ∈ store.latest scope filter now ↔
      m ∈ store.samples ∧ ∃ n ∈ (store.keeping p).latest scope filter now,
        m.agrees n = true := by
  rw [Store.latest, List.mem_filter, and_congr_right_iff]
  intro hm
  rw [latest_keeping hadmits]
  constructor
  · intro hnewest
    obtain ⟨key, t, hkey, hts, htime⟩ := isNewest_iff.1 hnewest
    obtain ⟨⟨n, hn, hnkey, hnts⟩, -⟩ := newestTime_eq_some_iff.1 htime
    -- the candidate that has the newest time is one of the newest, and is kept
    obtain ⟨hnmem, hcandidate⟩ := mem_candidates.1 hn
    rw [Sample.isCandidate, Bool.and_eq_true, Bool.and_eq_true] at hcandidate
    refine ⟨n, List.mem_filter.2 ⟨List.mem_filter.2 ⟨hnmem, ?_⟩, hadmits n hcandidate.1.1⟩, ?_⟩
    · exact isNewest_iff.2 ⟨key, t, hnkey, hnts, htime⟩
    · simp [Sample.agrees, joins_iff, hkey, hnkey, hts, hnts]
  · rintro ⟨n, hn, hagrees⟩
    obtain ⟨-, hnewest⟩ := List.mem_filter.1 (List.mem_filter.1 hn).1
    obtain ⟨key, t, hkey, hts, htime⟩ := isNewest_iff.1 hnewest
    rw [Sample.agrees, Bool.and_eq_true, hkey, hts, joins_comm, joins_some_left, joins_comm,
      joins_some_left] at hagrees
    exact isNewest_iff.2 ⟨key, t, hagrees.1, hagrees.2, htime⟩

end Samples

section Answers

variable {backend : Backend} {scope : Scope} {filter : MetricFilter} {p : Sample → Bool}

/-- The rows of a store do not decide **whether a statement runs**, so what is made of the store
decides alone. -/
theorem query_bind_of_store {α : Type} {store' : Store} (tables : List TableName)
    (numbers : List Int) (others : Nat) {f g : Store → Except Failure α}
    (h : f store' = g backend.store) :
    (({ backend with store := store' } : Backend).query tables numbers others).bind f
      = (backend.query tables numbers others).bind g := by
  have haccess : ({ backend with store := store' } : Backend).access tables numbers others
      = backend.access tables numbers others := rfl
  rw [Backend.query, Backend.query, haccess]
  cases backend.access tables numbers others with
  | error failure => rfl
  | ok _ => exact h

/-- A snapshot answers the same if **its newest samples** are kept. -/
theorem SnapshotQuery.run_keeping (query : SnapshotQuery) {now : Int}
    (hlatest : (backend.store.keeping p).latest scope filter now
      = backend.store.latest scope filter now) :
    query.run (backend.keeping p) scope filter now = query.run backend scope filter now := by
  have hlabelled : (backend.store.keeping p).latestLabelled scope filter now
      = backend.store.latestLabelled scope filter now := by
    rw [Store.latestLabelled, hlatest]
    rfl
  exact query_bind_of_store query.tables (query.bound scope filter now) (scope.others filter)
    (congrArg Except.ok (query.rows_eq_of_latestLabelled hlabelled))

/-- A summary answers the same if **its newest samples** are kept. -/
theorem SummaryQuery.run_keeping (query : SummaryQuery) {now : Int}
    (hlatest : (backend.store.keeping p).latest scope [] now = backend.store.latest scope [] now) :
    query.run (backend.keeping p) scope now = query.run backend scope now := by
  have hlabelled : (backend.store.keeping p).latestLabelled scope [] now
      = backend.store.latestLabelled scope [] now := by
    rw [Store.latestLabelled, hlatest]
    rfl
  have hrows : query.rows (backend.store.keeping p) scope now
      = query.rows backend.store scope now := by
    cases query with
    | clusters => rw [rows, Store.clusterSummary, hlabelled]; rfl
    | nodes => rw [rows, Store.nodeSummary, hlabelled]; rfl
  exact query_bind_of_store query.tables (bound scope now) (scope.others [])
    (congrArg Except.ok hrows)

/-- A series answers the same if **the samples of its range** are kept. -/
theorem SeriesQuery.run_keeping (query : SeriesQuery) {rule : BucketRule}
    (hrange : (backend.store.keeping p).inRange scope filter rule
      = backend.store.inRange scope filter rule) :
    query.run (backend.keeping p) scope filter rule = query.run backend scope filter rule :=
  query_bind_of_store query.tables (query.bound scope filter) (others scope filter)
    (query.rows_eq_of_inRange hrange)

end Answers

end ClusterMetrics
