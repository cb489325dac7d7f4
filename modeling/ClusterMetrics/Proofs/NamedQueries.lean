import ClusterMetrics.Api.StoreRequest
import ClusterMetrics.Proofs.MetricNames
import ClusterMetrics.Proofs.NewestSamples
import ClusterMetrics.Proofs.SeriesSelections

/-! # Queries of named metrics

A request that names metrics is answered the rows of these metrics. The names are resolved to
identifiers, the identifiers select samples before the newest are found or means are taken, and the
rows are grouped by names again; since a metric is a part of every group, this selects rows.

* **`Row.namesMetric`**: whether a row is of one of some metrics.
* **`SnapshotQuery.rows_resolved`**, **`selectsSeries_resolved`**: what resolved names select.
* **`NamesSelectRows`**: what a request of named metrics answers.
* **`named_queries_select_rows`**: naming metrics selects rows. -/

namespace ClusterMetrics

/-- Whether a row is of **one of some metrics**. -/
def Row.namesMetric (names : List String) (row : Row) : Bool :=
  (row.text? "metric_name").any names.contains

/-! ## Permuted filters -/

section Permuted

variable {filter filter' : MetricFilter} (perm : filter'.Perm filter)
include perm

/-- A permuted filter **admits the same**. -/
theorem admits_of_perm : filter'.admits = filter.admits := by
  funext s
  rw [MetricFilter.admits, MetricFilter.admits, perm.isEmpty_eq, perm.contains_eq]

/-- A permuted filter holds **as many absent identifiers**. -/
theorem others_of_perm (scope : Scope) : scope.others filter' = scope.others filter := by
  rw [Scope.others, Scope.others, perm.count_eq]

/-- A snapshot answers alike with **a permuted filter**. -/
theorem SnapshotQuery.run_of_perm (query : SnapshotQuery) (backend : Backend) (scope : Scope)
    (now : Int) : query.run backend scope filter' now = query.run backend scope filter now := by
  have hbound : (query.bound scope filter' now).Perm (query.bound scope filter now) := by
    have hnumbers := (perm.filterMap id).append_left (scope.bound ++ [now - freshness, now])
    cases query with
    | entities kind => exact hnumbers
    | pods => exact hnumbers.append_right scope.boundPod
  have hlatest : ∀ store : Store,
      store.latestLabelled scope filter' now = store.latestLabelled scope filter now := by
    intro store
    rw [Store.latestLabelled, Store.latest, Store.candidates, admits_of_perm perm]
    rfl
  have hrows : ∀ store : Store,
      query.rows store scope filter' now = query.rows store scope filter now :=
    fun store => query.rows_eq_of_latestLabelled (hlatest store)
  rw [run, run, Backend.query_of_perm hbound, others_of_perm perm]
  simp only [hrows]

/-- A series answers alike with **a permuted filter**. -/
theorem SeriesQuery.run_of_perm (query : SeriesQuery) (backend : Backend) (scope : Scope)
    (rule : BucketRule) :
    query.run backend scope filter' rule = query.run backend scope filter rule := by
  have hbound : (query.bound scope filter').Perm (query.bound scope filter) := by
    have hnumbers := (perm.filterMap id).append_left scope.bound
    cases query with
    | pods => exact hnumbers.append_right scope.boundPod
    | entities kind => exact hnumbers
    | clusterSummary => exact hnumbers
  have hrange : ∀ store : Store,
      store.inRange scope filter' rule = store.inRange scope filter rule := by
    intro store
    rw [Store.inRange, Store.inRange, admits_of_perm perm]
  have hrows : ∀ store : Store,
      query.rows store scope filter' rule = query.rows store scope filter rule :=
    fun store => query.rows_eq_of_inRange (hrange store)
  rw [run, run, Backend.query_of_perm hbound, others, others, others_of_perm perm]
  simp only [hrows]

end Permuted

/-! ## Resolved names -/

/-- A filter is a **further condition** on the samples of a scope. -/
theorem admits_and_filter (scope : Scope) (filter : MetricFilter) (s : Sample) :
    (scope.admits s && filter.admits s)
      = (filter.admits s && (scope.admits s && MetricFilter.admits [] s)) := by
  have hall : MetricFilter.admits [] s = true := rfl
  rw [hall, Bool.and_true, Bool.and_comm]

section Resolved

variable {backend : Backend} {names : List String} {filter : MetricFilter} (hne : names ≠ [])
  (resolved : backend.resolveNames names = .ok filter) (differ : backend.store.NamesDiffer)
  (unique : backend.store.HasUniqueIds)
include hne resolved differ unique

/-- The newest samples of named metrics are the newest samples **of these metrics**. -/
theorem latestLabelled_resolved (scope : Scope) (now : Int) :
    backend.store.latestLabelled scope filter now
      = (backend.store.latestLabelled scope [] now).filter fun m =>
          m.name.name.any names.contains := by
  have hempty : filter.isEmpty = false := by simpa using resolved_ne_nil hne resolved
  -- the metric is a part of the series, so the samples of a series pass together
  have hkeeps : ∀ s key, s.seriesKey? = some key →
      filter.admits s = filter.contains (some key.name) := by
    intro s key hkey
    obtain ⟨-, -, -, hname, -⟩ := seriesKey?_eq_some_iff.1 hkey
    rw [MetricFilter.admits, hempty, hname]
    rfl
  rw [Store.latestLabelled, latest_filter hkeeps fun s _ => admits_and_filter scope filter s,
    labelled_filter]
  exact List.filter_congr fun m hm => admits_resolved hne resolved differ unique hm

/-- The snapshot of named metrics has the rows **of these metrics**. -/
theorem SnapshotQuery.rows_resolved (query : SnapshotQuery) (scope : Scope) (now : Int) :
    query.rows backend.store scope filter now
      = (query.rows backend.store scope [] now).filter (Row.namesMetric names) := by
  have hlatest := latestLabelled_resolved hne resolved differ unique scope now
  cases query with
  | entities kind =>
    rw [rows, rows, Store.snapshot, Store.snapshot, hlatest, join_filter, ← filter_sortBy,
      List.filter_map]
    simp only [Function.comp_def, Row.namesMetric, text?_snapshotRow]
  | pods =>
    rw [rows, rows, Store.podSnapshot, Store.podSnapshot, hlatest, joinPods_filter,
      rollup_filter (p := fun key => (key[3]?.bind Cell.text?).any names.contains)
        fun r _ => by simp [podKey], ← filter_sortBy, List.filter_map]
    simp [Function.comp_def, Row.namesMetric, text?_podSnapshotRow, Rollup.key, podKey]

/-- The samples of a series of named metrics are those of the series whose **metric has one of the
names**. -/
theorem inRange_resolved (scope : Scope) (rule : BucketRule) :
    backend.store.inRange scope filter rule
      = (backend.store.inRange scope [] rule).filter fun m => m.name.name.any names.contains := by
  rw [inRange_filter fun s _ => admits_and_filter scope filter s]
  exact List.filter_congr fun m hm => admits_resolved hne resolved differ unique hm

/-- Naming metrics **narrows a series** by metric. -/
theorem selectsSeries_resolved (scope : Scope) (rule : BucketRule) :
    SelectsSeries backend.store scope [] rule filter rule
      fun metric _ => metric.any names.contains where
  bucketing := rfl
  subset := by
    rw [inRange_resolved hne resolved differ unique]
    exact List.filter_sublist.subset
  inRange _ _ := inRange_resolved hne resolved differ unique scope rule

/-- A series of named metrics is narrowed by them **to itself**. -/
theorem selectsSeries_resolved_self (scope : Scope) (rule : BucketRule) :
    SelectsSeries backend.store scope filter rule filter rule
      fun metric _ => metric.any names.contains where
  bucketing := rfl
  subset := List.Subset.refl _
  inRange _ _ := by
    rw [inRange_resolved hne resolved differ unique, List.filter_filter]
    simp only [Bool.and_self]

end Resolved

/-! ## Runs -/

/-- The numbers of a snapshot of some metrics are those of all metrics, **and the metrics**. -/
theorem SnapshotQuery.mem_bound_or {query : SnapshotQuery} {scope : Scope} {filter : MetricFilter}
    {now n : Int} (h : n ∈ query.bound scope filter now) :
    n ∈ query.bound scope [] now ∨ n ∈ filter.filterMap id := by
  cases query <;> simp only [bound, List.mem_append] at h ⊢ <;> tauto

/-- The numbers of a series of some metrics are those of all metrics, **and the metrics**. -/
theorem SeriesQuery.mem_bound_or {query : SeriesQuery} {scope : Scope} {filter : MetricFilter}
    {n : Int} (h : n ∈ query.bound scope filter) :
    n ∈ query.bound scope [] ∨ n ∈ filter.filterMap id := by
  cases query <;> simp only [bound, List.mem_append] at h ⊢ <;> tauto

/-- The row of a cell names the metric **of its key**. -/
theorem namesMetric_seriesRow (names : List String) (query : SeriesQuery) (c : SeriesCell) :
    (seriesRow query.keyNames c).namesMetric names = (query.metric? c.key).any names.contains := by
  rw [Row.namesMetric, SeriesQuery.text?_metric]

section Runs

variable {backend : Backend} {names : List String} {filter : MetricFilter} (hne : names ≠ [])
  (resolved : backend.resolveNames names = .ok filter) (differ : backend.store.NamesDiffer)
  (unique : backend.store.HasUniqueIds) {scope : Scope} {rows : List Row}
include hne resolved differ unique

/-- A snapshot of named metrics that there is room for answers the rows **of these metrics**. -/
theorem SnapshotQuery.run_resolved (fit : backend.store.NameIdsFit) {query : SnapshotQuery}
    {now : Int} (answered : query.run backend scope [] now = .ok rows)
    (few : query.valueCount scope filter now ≤ variableLimit) :
    query.run backend scope filter now = .ok (rows.filter (Row.namesMetric names)) := by
  have htakes : Backend.Takes (query.bound scope filter now) (scope.others filter) :=
    ⟨few, fun n hn => (mem_bound_or hn).elim ((takes_of_run answered).fits n)
      (fits64_of_mem_resolved hne resolved differ fit)⟩
  rw [run_of_run answered htakes, rows_resolved hne resolved differ unique, rows_of_run answered]

/-- A series of named metrics that there is room for answers rows in the places **of these metrics**, and
with the values of the series unless it is one of a cluster that tells nodes apart in another way. -/
theorem SeriesQuery.run_resolved (fit : backend.store.NameIdsFit) {query : SeriesQuery}
    {rule : BucketRule} (answered : query.run backend scope [] rule = .ok rows)
    (few : query.valueCount scope filter ≤ variableLimit) :
    ∃ rows', query.run backend scope filter rule = .ok rows' ∧
      rows'.map Row.withoutValue = (rows.filter (Row.namesMetric names)).map Row.withoutValue ∧
      ((query = .clusterSummary → backend.store.TellsNodesAlike scope [] rule filter rule) →
        rows' = rows.filter (Row.namesMetric names)) := by
  have htakes : Backend.Takes (query.bound scope filter) (others scope filter) :=
    ⟨few, fun n hn => (mem_bound_or hn).elim ((takes_of_run answered).fits n)
      (fits64_of_mem_resolved hne resolved differ fit)⟩
  obtain ⟨cells, hcells, rfl⟩ := rows_eq_ok_iff.1 (rows_of_run answered)
  obtain ⟨cells', hcells', hplaces, hselected⟩ :=
    (selectsSeries_resolved hne resolved differ unique scope rule).cells_select hcells
  have hrows : (cells.map (seriesRow query.keyNames)).filter (Row.namesMetric names)
      = (cells.filter fun c => (query.metric? c.key).any names.contains).map
          (seriesRow query.keyNames) := by
    rw [List.filter_map]
    simp only [Function.comp_def, namesMetric_seriesRow]
  refine ⟨cells'.map (seriesRow query.keyNames), ?_, ?_, fun alike => ?_⟩
  · rw [run_of_run answered htakes]
    exact rows_eq_ok_iff.2 ⟨cells', hcells', rfl⟩
  · rw [hrows, map_withoutValue_seriesRow query.keyNames hplaces]
  · rw [hrows, hselected alike]

/-- A snapshot of named metrics has **no row of another metric**. -/
theorem SnapshotQuery.namesMetric_of_run {query : SnapshotQuery} {now : Int}
    (answered : query.run backend scope filter now = .ok rows) :
    ∀ row ∈ rows, row.namesMetric names = true := by
  intro row hrow
  rw [← rows_of_run answered, rows_resolved hne resolved differ unique] at hrow
  exact (List.mem_filter.1 hrow).2

/-- A series of named metrics has **no row of another metric**, also where the series of all metrics
is not answered. -/
theorem SeriesQuery.namesMetric_of_run {query : SeriesQuery} {rule : BucketRule}
    (answered : query.run backend scope filter rule = .ok rows) :
    ∀ row ∈ rows, row.namesMetric names = true := by
  obtain ⟨cells, hcells, rfl⟩ := rows_eq_ok_iff.1 (rows_of_run answered)
  obtain ⟨cells', hcells', -, hselected⟩ :=
    (selectsSeries_resolved_self hne resolved differ unique scope rule).cells_select hcells
  obtain rfl : cells = cells' := Except.ok.inj (hcells.symm.trans hcells')
  intro row hrow
  obtain ⟨c, hc, rfl⟩ := List.mem_map.1 hrow
  rw [hselected fun _ => tellsNodesAlike_of_eq rfl] at hc
  rw [namesMetric_seriesRow]
  exact (List.mem_filter.1 hc).2

end Runs

/-! ## Requests -/

section Requests

variable {backend : Backend} {names : List String} {filter : MetricFilter}

/-- A snapshot request runs the query **with the identifiers of its names**. -/
theorem StoreRequest.run_snapshot (h : backend.resolveNames names = .ok filter)
    (query : SnapshotQuery) (scope : Scope) (now : Int) :
    (snapshot query scope names).run backend now = query.run backend scope filter now := by
  rw [run, h]
  rfl

/-- A series request runs the query **with the identifiers of its names**. -/
theorem StoreRequest.run_series (h : backend.resolveNames names = .ok filter)
    (query : SeriesQuery) (scope : Scope) (rule : BucketRule) (now : Int) :
    (series query scope names rule).run backend now = query.run backend scope filter rule := by
  rw [run, h]
  rfl

end Requests

/-- What a request of **named metrics** answers: the rows of these metrics among those of the request
of all metrics, and no others. For the summary of a cluster this leaves out the values, unless its
nodes are told apart alike. A request whose statement has no room for its metrics is refused. -/
structure NamesSelectRows (backend : Backend) (scope : Scope) (names : List String)
    (filter : MetricFilter) : Prop where
  snapshots : ∀ (query : SnapshotQuery) (now : Int) (rows : List Row),
    (StoreRequest.snapshot query scope []).run backend now = .ok rows →
      query.valueCount scope filter now ≤ variableLimit →
      (StoreRequest.snapshot query scope names).run backend now
        = .ok (rows.filter (Row.namesMetric names))
  series : ∀ (query : SeriesQuery) (rule : BucketRule) (now : Int) (rows : List Row),
    (StoreRequest.series query scope [] rule).run backend now = .ok rows →
      query.valueCount scope filter ≤ variableLimit →
      ∃ rows', (StoreRequest.series query scope names rule).run backend now = .ok rows' ∧
        rows'.map Row.withoutValue
          = (rows.filter (Row.namesMetric names)).map Row.withoutValue ∧
        ((query = .clusterSummary →
            backend.store.TellsNodesAlike scope [] rule filter rule) →
          rows' = rows.filter (Row.namesMetric names))
  snapshots_refused : ∀ (query : SnapshotQuery) (now : Int) (rows : List Row),
    (StoreRequest.snapshot query scope []).run backend now = .ok rows →
      variableLimit < query.valueCount scope filter now →
      (StoreRequest.snapshot query scope names).run backend now = .error Backend.tooManyVariables
  series_refused : ∀ (query : SeriesQuery) (rule : BucketRule) (now : Int) (rows : List Row),
    (StoreRequest.series query scope [] rule).run backend now = .ok rows →
      variableLimit < query.valueCount scope filter →
      (StoreRequest.series query scope names rule).run backend now
        = .error Backend.tooManyVariables
  alike : ∀ rule, backend.store.KeepsNodesApart scope [] rule →
    backend.store.TellsNodesAlike scope [] rule filter rule
  snapshots_named : ∀ (query : SnapshotQuery) (now : Int) (rows : List Row),
    (StoreRequest.snapshot query scope names).run backend now = .ok rows →
      ∀ row ∈ rows, row.namesMetric names = true
  series_named : ∀ (query : SeriesQuery) (rule : BucketRule) (now : Int) (rows : List Row),
    (StoreRequest.series query scope names rule).run backend now = .ok rows →
      ∀ row ∈ rows, row.namesMetric names = true
  snapshots_permuted : ∀ (query : SnapshotQuery) (now : Int) (names' : List String),
    names'.Perm names → (StoreRequest.snapshot query scope names').run backend now
      = (StoreRequest.snapshot query scope names).run backend now
  series_permuted : ∀ (query : SeriesQuery) (rule : BucketRule) (now : Int)
    (names' : List String), names'.Perm names →
      (StoreRequest.series query scope names' rule).run backend now
        = (StoreRequest.series query scope names rule).run backend now

/-- **Naming metrics selects rows.** Where neither the names nor the identifiers of the catalog
repeat, a request of names that are resolved answers the rows of these metrics among those of the
request of all metrics, in order and with their values; it answers no row of another metric, and the
order of the names does not matter. The summary of a cluster has the same values if it tells its
nodes apart alike, and has cells in the same places anyway. Only for more metrics than its statement
has room for is a request refused that all metrics are answered to. -/
theorem named_queries_select_rows {backend : Backend} (unique : backend.store.HasUniqueIds)
    (differ : backend.store.NamesDiffer) (fit : backend.store.NameIdsFit) {names : List String}
    (hne : names ≠ []) {filter : MetricFilter}
    (resolved : backend.resolveNames names = .ok filter) (scope : Scope) :
    NamesSelectRows backend scope names filter where
  snapshots query now rows answered few := by
    rw [StoreRequest.run_snapshot resolved]
    exact SnapshotQuery.run_resolved hne resolved differ unique fit answered few
  series query rule now rows answered few := by
    rw [StoreRequest.run_series resolved]
    exact SeriesQuery.run_resolved hne resolved differ unique fit answered few
  snapshots_refused query now rows answered many := by
    rw [StoreRequest.run_snapshot resolved]
    exact SnapshotQuery.run_of_many answered many
  series_refused query rule now rows answered many := by
    rw [StoreRequest.run_series resolved]
    exact SeriesQuery.run_of_many answered many
  alike rule := by
    have hselects := selectsSeries_resolved hne resolved differ unique scope rule
    exact hselects.tellsNodesAlike_of_keepsNodesApart
  snapshots_named query now rows answered := by
    rw [StoreRequest.run_snapshot resolved] at answered
    exact SnapshotQuery.namesMetric_of_run hne resolved differ unique answered
  series_named query rule now rows answered := by
    rw [StoreRequest.run_series resolved] at answered
    exact SeriesQuery.namesMetric_of_run hne resolved differ unique answered
  snapshots_permuted query now names' perm := by
    obtain ⟨filter', resolved', hperm⟩ := resolveNames_perm hne resolved perm
    rw [StoreRequest.run_snapshot resolved', StoreRequest.run_snapshot resolved]
    exact query.run_of_perm hperm backend scope now
  series_permuted query rule now names' perm := by
    obtain ⟨filter', resolved', hperm⟩ := resolveNames_perm hne resolved perm
    rw [StoreRequest.run_series resolved', StoreRequest.run_series resolved]
    exact query.run_of_perm hperm backend scope rule

/-- Two nodes whose identifiers have one nearest double, with a sample each, and a sample of another
metric that is of no node. -/
def nodelessMetric : Store :=
  { Store.empty with
    nodes := [⟨some 9007199254740992, some 1, some "alpha", none, none, none, none, none, none⟩]
    metricNames := [⟨some 1, some "cpu", none, none⟩, ⟨some 2, some "mem", none, none⟩]
    metricLabels := [⟨some 1, some "total"⟩]
    samples := [
      ⟨some 1, some 9007199254740992, some 0, some 0, some 1, some 1, some 60, some (.number 10.0)⟩,
      ⟨some 1, some 9007199254740993, some 0, some 0, some 1, some 1, some 60, some (.number 30.0)⟩,
      ⟨some 1, none, some 0, some 0, some 2, some 1, some 60, some (.number 5.0)⟩] }

/-- The name of the first of two metrics is resolved. -/
theorem resolveNames_nodelessMetric :
    (Backend.ofStore nodelessMetric).resolveNames ["cpu"] = .ok [some 1] :=
  resolveNames_singleton rfl

/-- Naming one of two metrics selects its rows from the snapshot of a node. -/
theorem snapshot_of_a_named_metric :
    nodelessMetric.HasUniqueIds ∧ nodelessMetric.NamesDiffer ∧ nodelessMetric.NameIdsFit ∧
      ["cpu"] ≠ [] ∧ (Backend.ofStore nodelessMetric).resolveNames ["cpu"] = .ok [some 1] ∧
      ∃ rows : List Row,
        (StoreRequest.snapshot (.entities .node) ⟨some 1, none, .node, none, none⟩ []).run
            (.ofStore nodelessMetric) 100 = .ok rows ∧
          (StoreRequest.snapshot (.entities .node) ⟨some 1, none, .node, none, none⟩ ["cpu"]).run
            (.ofStore nodelessMetric) 100 = .ok (rows.filter (Row.namesMetric ["cpu"])) := by
  have hunique : nodelessMetric.HasUniqueIds := by constructor <;> decide
  have hdiffer : nodelessMetric.NamesDiffer := by decide
  have hfit : nodelessMetric.NameIdsFit := by decide
  have hne : ["cpu"] ≠ [] := List.cons_ne_nil _ _
  obtain ⟨rows, hrun⟩ : ∃ rows, (StoreRequest.snapshot (.entities .node)
      ⟨some 1, none, .node, none, none⟩ []).run (.ofStore nodelessMetric) 100 = .ok rows := ⟨_, rfl⟩
  have hselects := @named_queries_select_rows (.ofStore nodelessMetric) hunique hdiffer hfit
    ["cpu"] hne [some 1] resolveNames_nodelessMetric ⟨some 1, none, .node, none, none⟩
  exact ⟨hunique, hdiffer, hfit, hne, resolveNames_nodelessMetric, rows, hrun,
    hselects.snapshots _ _ _ hrun (by decide)⟩

/-- Naming a metric selects its row from the summary of a cluster, but **not with its value**: two
nodes are one child beside a sample of no node, and two children without it. -/
theorem summary_of_a_named_metric_differs :
    nodelessMetric.HasUniqueIds ∧ nodelessMetric.NamesDiffer ∧ nodelessMetric.NameIdsFit ∧
      (Backend.ofStore nodelessMetric).resolveNames ["cpu"] = .ok [some 1] ∧
      ∃ rows rows' : List Row,
        (StoreRequest.series .clusterSummary ⟨some 1, none, .node, none, none⟩ [] firstMinutes).run
            (.ofStore nodelessMetric) 100 = .ok rows ∧
          (StoreRequest.series .clusterSummary ⟨some 1, none, .node, none, none⟩ ["cpu"]
              firstMinutes).run (.ofStore nodelessMetric) 100 = .ok rows' ∧
            rows' ≠ rows.filter (Row.namesMetric ["cpu"]) := by
  have hunique : nodelessMetric.HasUniqueIds := by constructor <;> decide
  -- the two values of the one cell
  obtain ⟨c, hrun, hvalue⟩ : ∃ c : SeriesCell,
      SeriesQuery.clusterSummary.run (.ofStore nodelessMetric) ⟨some 1, none, .node, none, none⟩ []
          firstMinutes = .ok ((inOrder id [c]).map (seriesRow SeriesQuery.clusterSummary.keyNames)) ∧
        c.value = compensatedSum [mean [10.0, 30.0]] := ⟨_, rfl, by decide⟩
  obtain ⟨d, hrun', hvalue'⟩ : ∃ d : SeriesCell,
      SeriesQuery.clusterSummary.run (.ofStore nodelessMetric) ⟨some 1, none, .node, none, none⟩
          [some 1] firstMinutes
          = .ok ((inOrder id [d]).map (seriesRow SeriesQuery.clusterSummary.keyNames)) ∧
        d.value = compensatedSum [mean [10.0], mean [30.0]] := ⟨_, rfl, by decide⟩
  rw [inOrder_singleton] at hrun hrun'
  refine ⟨hunique, by decide, by decide, resolveNames_nodelessMetric, _, _, hrun,
    (StoreRequest.run_series resolveNames_nodelessMetric _ _ _ _).trans hrun', fun heq => ?_⟩
  have hmem : seriesRow SeriesQuery.clusterSummary.keyNames d
      ∈ ([c].map (seriesRow SeriesQuery.clusterSummary.keyNames)).filter
          (Row.namesMetric ["cpu"]) := by
    rw [← heq]
    exact List.mem_singleton_self _
  have hvalues := value_eq_of_seriesRow_eq (List.mem_singleton.1 (List.mem_filter.1 hmem).1)
  rw [hvalue, hvalue'] at hvalues
  revert hvalues
  decide

end ClusterMetrics
