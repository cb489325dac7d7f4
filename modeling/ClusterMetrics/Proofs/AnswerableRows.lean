import ClusterMetrics.Proofs.AnswerAccounts
import ClusterMetrics.Proofs.NewestSamples

/-! # Rows that can be answered

A layout fails only on a key that is a list or an object, which no row of the store holds, and on a
time outside the years that have a date, which only the row of a snapshot may tell. So a route whose
rows are returned is answered, unless it is a snapshot and its minute has no date.

* **`exists_shapeList`**, **`exists_shapeGroups`**, **`exists_shapeNested`**: rows that are laid
  out.
* **`SeriesQuery.exists_shape`**, **`SummaryQuery.exists_shape`**, **`SnapshotQuery.exists_shape`**:
  the rows of queries are.
* **`DataRoute.IsDated`**: whether a route can tell its times. **`code_answer_of_isDated`**: it is
  answered if its rows are returned. -/

namespace ClusterMetrics

/-! ## Layouts -/

section Layouts

variable {kind : RecordKind} {rows : List Row}

/-- Whether every record of some rows **is dated**. -/
def RecordKind.DatesAll (kind : RecordKind) (rows : List Row) : Prop :=
  ∀ row ∈ rows, ∀ record, kind.decode row = .ok record → record.IsDated

/-- A list of dated records **is laid out**. -/
theorem exists_shapeList (dated : kind.DatesAll rows) :
    ∃ shaped, shapeList kind (rows.map .dict) = .ok shaped := by
  have hdump : ∀ e ∈ (decodeRows kind (rows.map .dict)).entries, ∃ item, e.2.dump = .ok item := by
    intro e he
    obtain ⟨hmem, hdecode⟩ := mem_decodeRows_entries.1 he
    exact exists_dump (dated e.1 hmem e.2 hdecode)
  obtain ⟨items, hitems⟩ := exists_mapM_eq_ok hdump
  exact ⟨_, by rw [shapeList_eq, hitems]; rfl⟩

/-- Dated records are **grouped** by a text. -/
theorem exists_shapeGroups {keyOf : Row → Record → Except Failure Value}
    (hkeyOf : ∀ row ∈ rows, ∀ record, kind.decode row = .ok record →
      ∃ s, keyOf row record = .ok (.text s)) (dated : kind.DatesAll rows) :
    ∃ shaped, shapeGroups kind (rows.map .dict) keyOf = .ok shaped := by
  have hplace : ∀ e ∈ (decodeRows kind (rows.map .dict)).entries,
      ∃ p, placeRecord keyOf e = .ok p := by
    intro e he
    obtain ⟨hmem, hdecode⟩ := mem_decodeRows_entries.1 he
    obtain ⟨s, hs⟩ := hkeyOf e.1 hmem e.2 hdecode
    obtain ⟨item, hitem⟩ := exists_dump (dated e.1 hmem e.2 hdecode)
    exact ⟨⟨.text s, .text s, item⟩, placeRecord_eq_ok_iff.2 ⟨hs, rfl, hitem⟩⟩
  obtain ⟨placed, hplaced⟩ := exists_mapM_eq_ok hplace
  exact ⟨_, by rw [shapeGroups_eq, hplaced]; rfl⟩

/-- Dated records are **grouped** by a text field. -/
theorem exists_shapeGrouped {field : String} (hfield : (field, .text) ∈ kind.fields)
    (dated : kind.DatesAll rows) :
    ∃ shaped, shapeGrouped kind (rows.map .dict) field = .ok shaped :=
  exists_shapeGroups (fun _ _ _ hdecode => exists_fieldKey_of_decode hdecode hfield) dated

/-- The values of records are set in **cells** by a text or a whole field and their metrics. -/
theorem exists_shapeNested {field : String}
    (hfield : (field, .text) ∈ kind.fields ∨ (field, .whole) ∈ kind.fields)
    (hmetric : ("metric_name", .text) ∈ kind.fields) {value : FieldKind}
    (hvalue : ("value", value) ∈ kind.fields) :
    ∃ shaped, shapeNested kind (rows.map .dict) field = .ok shaped := by
  have hplace : ∀ e ∈ (decodeRows kind (rows.map .dict)).entries,
      ∃ p, placeCell field e = .ok p := by
    intro e he
    obtain ⟨-, hdecode⟩ := mem_decodeRows_entries.1 he
    obtain ⟨key, shown, hget, hkey⟩ :
        ∃ key shown, e.2.get? field = some shown ∧ shown.groupKey = .ok key := by
      rcases hfield with htext | hwhole
      · obtain ⟨s, hs, -⟩ := exists_text_of_decode hdecode htext
        exact ⟨_, _, hs, rfl⟩
      · obtain ⟨n, hn⟩ := exists_int_of_decode hdecode hwhole
        exact ⟨_, _, hn, rfl⟩
    obtain ⟨metric, hmetric, -⟩ := exists_text_of_decode hdecode hmetric
    obtain ⟨v, hv, -⟩ := get?_of_decode hdecode hvalue
    exact ⟨⟨key, shown, (metric, v)⟩, placeCell_eq_ok_iff.2 ⟨hget, hkey, hmetric, hv⟩⟩
  obtain ⟨placed, hplaced⟩ := exists_mapM_eq_ok hplace
  exact ⟨_, by rw [shapeNested_eq, hplaced]; rfl⟩

end Layouts

/-! ## Series and summaries -/

/-- The rows of a series are **always laid out**: its records have no times but buckets. -/
theorem SeriesQuery.exists_shape (query : SeriesQuery) (rows : List Row) :
    ∃ shaped, query.shape (rows.map .dict) = .ok shaped := by
  have hdated : query.record.DatesAll rows := by
    refine fun row _ record hdecode => isDated_of_decode hdecode ?_
    cases query with
    | entities kind => cases kind <;> decide
    | pods => decide
    | clusterSummary => decide
  cases query with
  | entities kind => exact exists_shapeGrouped (by cases kind <;> decide) hdated
  | pods => exact exists_shapeGrouped (by decide) hdated
  | clusterSummary => exact exists_shapeList hdated

/-- The rows of a summary are **always laid out**. -/
theorem SummaryQuery.exists_shape (query : SummaryQuery) (rows : List Row) :
    ∃ shaped, query.shape (rows.map .dict) = .ok shaped := by
  cases query with
  | clusters =>
    exact exists_shapeNested (.inr (by decide)) (by decide)
      (show ("value", .wholeSample) ∈ RecordKind.clusterSummaryRow.fields by decide)
  | nodes =>
    exact exists_shapeNested (.inl (by decide)) (by decide)
      (show ("value", .sample) ∈ RecordKind.nodeSummaryRow.fields by decide)

/-! ## Snapshots -/

section Snapshots

variable {store : Store} {scope : Scope} {filter : MetricFilter} {now : Int}

/-- A newest sample was taken **in the last minute**. -/
theorem ts_of_mem_latest {s : Sample} (h : s ∈ store.latest scope filter now) :
    ∃ t, s.ts = some t ∧ now - freshness ≤ t ∧ t ≤ now := by
  obtain ⟨key, t, -, hts, hnewest⟩ := isNewest_iff.1 (List.mem_filter.1 h).2
  obtain ⟨⟨c, hc, -, hct⟩, -⟩ := newestTime_eq_some_iff.1 hnewest
  have hfresh : isFresh now c = true := by
    have hcandidate := (mem_candidates.1 hc).2
    simp only [Sample.isCandidate, Bool.and_eq_true] at hcandidate
    exact hcandidate.1.2
  rw [isFresh, hct] at hfresh
  exact ⟨t, hts, by simpa using hfresh⟩

/-- A labelled sample is **of the samples** that were labelled. -/
theorem sample_of_mem_labelled {samples : List Sample} {m : LabelledSample}
    (h : m ∈ store.labelled samples) : m.sample ∈ samples := by
  obtain ⟨s, hs, hm⟩ := List.mem_flatMap.1 h
  obtain ⟨n, -, hm⟩ := List.mem_flatMap.1 hm
  obtain ⟨l, -, rfl⟩ := List.mem_map.1 hm
  exact hs

/-- Whether a row tells a time **of the last minute**. -/
def Row.IsFresh (now : Int) (row : Row) : Prop :=
  ∃ t, row.get? "ts" = some (.int t) ∧ now - freshness ≤ t ∧ t ≤ now

/-- The time of a sum is **one of the times** of its samples. -/
theorem ts_of_mem_rollup {α : Type} {subjectKey : α → List Cell} {rows : List (LabelledSample × α)}
    {P : Int → Prop} (h : ∀ m ∈ rows, ∃ t, m.1.sample.ts = some t ∧ P t) {r : Rollup α}
    (hr : r ∈ rollup subjectKey rows) : ∃ t, r.ts = some t ∧ P t := by
  obtain ⟨g, hg, hrollup⟩ := List.mem_filterMap.1 hr
  obtain ⟨first, hfirst, rfl⟩ := Option.map_eq_some_iff.1 hrollup
  have hrows : ∀ m ∈ g.2, m ∈ rows := by
    intro m hm
    rw [(mem_groupBy.1 (mem_sortBy.1 hg)).2] at hm
    exact (List.mem_filter.1 hm).1
  obtain ⟨u, hu, -⟩ := h first (hrows first (List.mem_of_head? hfirst))
  have hmem : u ∈ g.2.filterMap (·.1.sample.ts) :=
    List.mem_filterMap.2 ⟨first, List.mem_of_head? hfirst, hu⟩
  obtain ⟨t, ht⟩ := Option.isSome_iff_exists.1
    (List.isSome_max?_of_mem hmem)
  obtain ⟨m, hm, hts⟩ := List.mem_filterMap.1 (List.max?_mem ht)
  obtain ⟨t', ht', hP⟩ := h m (hrows m hm)
  obtain rfl := Option.some.inj (hts.symm.trans ht')
  exact ⟨t, ht, hP⟩

/-- The rows of a snapshot tell **times of the last minute**. -/
theorem SnapshotQuery.isFresh_of_mem_rows {query : SnapshotQuery} {row : Row}
    (h : row ∈ query.rows store scope filter now) : row.IsFresh now := by
  cases query with
  | entities kind =>
    obtain ⟨r, hr, rfl⟩ := List.mem_map.1 h
    obtain ⟨m, hm, hjoined⟩ := List.mem_flatMap.1 (mem_sortBy.1 hr)
    obtain ⟨e, -, rfl⟩ := List.mem_map.1 hjoined
    obtain ⟨t, hts, hfresh⟩ := ts_of_mem_latest (sample_of_mem_labelled hm)
    refine ⟨t, ?_, hfresh⟩
    have hget : (snapshotRow kind (m, e)).get? "ts" = some (intValue m.sample.ts) := by
      cases kind <;> rfl
    rw [hget, hts]
    rfl
  | pods =>
    obtain ⟨r, hr, rfl⟩ := List.mem_map.1 h
    have hjoined : ∀ m ∈ store.joinPods scope (store.latestLabelled scope filter now),
        ∃ t, m.1.sample.ts = some t ∧ now - freshness ≤ t ∧ t ≤ now := by
      intro m hm
      obtain ⟨l, hl, hm⟩ := List.mem_flatMap.1 hm
      obtain ⟨path, -, rfl⟩ := List.mem_map.1 hm
      exact ts_of_mem_latest (sample_of_mem_labelled hl)
    obtain ⟨t, hts, hfresh⟩ := ts_of_mem_rollup hjoined (mem_sortBy.1 hr)
    refine ⟨t, ?_, hfresh⟩
    have hget : (podSnapshotRow r).get? "ts" = some (intValue r.ts) := rfl
    rw [hget, hts]
    rfl

/-- The records of a snapshot are **dated** in a minute that is. -/
theorem SnapshotQuery.datesAll {query : SnapshotQuery} {rows : List Row}
    (hrows : ∀ row ∈ rows, row.IsFresh now) (hfirst : Record.hasDate (now - freshness) = true)
    (hlast : Record.hasDate now = true) : query.record.DatesAll rows := by
  intro row hrow record hdecode f hf n hn
  obtain ⟨hfield, hvalue⟩ := mem_fields_of_decode hdecode hf
  obtain ⟨name, kind, v⟩ := f
  obtain ⟨rfl, rfl⟩ := Prod.mk.inj hn
  -- the only time of a snapshot is that of its row
  obtain rfl : name = "ts" := by
    have honly : ∀ g ∈ query.record.fields, g.2 = .second → g.1 = "ts" := by
      cases query with
      | entities kind => cases kind <;> decide
      | pods => decide
    exact honly _ hfield rfl
  obtain ⟨t, hget, hge, hle⟩ := hrows row hrow
  obtain rfl : t = n := by
    simpa [FieldKind.decode, hget, FieldKind.coerce, coerceInt, Except.map] using hvalue
  simp only [Record.hasDate, Bool.and_eq_true, decide_eq_true_eq] at hfirst hlast ⊢
  omega

/-- The rows of a snapshot are **laid out** if the minute of the snapshot is dated. -/
theorem SnapshotQuery.exists_shape (query : SnapshotQuery) {rows : List Row}
    (hrows : ∀ row ∈ rows, row.IsFresh now) (hfirst : Record.hasDate (now - freshness) = true)
    (hlast : Record.hasDate now = true) : ∃ shaped, query.shape (rows.map .dict) = .ok shaped := by
  have hdated : query.record.DatesAll rows := datesAll hrows hfirst hlast
  cases query with
  | entities kind => exact exists_shapeGrouped (by cases kind <;> decide) hdated
  | pods => exact exists_shapeGrouped (by decide) hdated

end Snapshots

/-! ## Routes -/

/-- The rows of a catalog route are **always laid out**. -/
theorem exists_shapeByCluster {kind : RecordKind} {rows : List Row}
    (hkind : ∀ f ∈ kind.fields, f.2 ≠ .second) (hrows : ∀ row ∈ rows, Row.TellsCluster row) :
    ∃ shaped, shapeByCluster kind (rows.map .dict) = .ok shaped :=
  exists_shapeGroups (fun row hrow record _ => exists_clusterKey (hrows row hrow) record)
    fun _ _ _ hdecode => isDated_of_decode hdecode hkind

/-- Whether a route **can tell its times**: a snapshot can if its minute has a date. -/
def DataRoute.IsDated (route : DataRoute) (now : Int) : Prop :=
  ∀ query, route = .snapshot query →
    Record.hasDate (now - freshness) = true ∧ Record.hasDate now = true

section Routes

variable {route : DataRoute} {backend : Backend} {now : Int} {ids : PathIds} {queryString : String}

/-- The rows of a snapshot route tell **times of the last minute**. -/
theorem isFresh_of_mem_route_rows {query : SnapshotQuery} {rows : List Row}
    (hrows : (DataRoute.snapshot query).rows backend now ids queryString = .ok rows) :
    ∀ row ∈ rows, row.IsFresh now := by
  obtain ⟨request, hcheck, hrun⟩ := bind_eq_ok_iff.1 hrows
  obtain ⟨selection, -, hcheck⟩ := bind_eq_ok_iff.1 hcheck
  obtain ⟨scope, -, hcheck⟩ := bind_eq_ok_iff.1 hcheck
  obtain rfl := Except.ok.inj hcheck
  obtain ⟨filter, -, hrun⟩ := bind_eq_ok_iff.1 hrun
  obtain ⟨store, -, rfl⟩ := map_eq_ok_iff.1 hrun
  exact fun row => SnapshotQuery.isFresh_of_mem_rows

/-- The rows of a route are **laid out** if it can tell its times. -/
theorem DataRoute.exists_shape {rows : List Row}
    (hrows : route.rows backend now ids queryString = .ok rows) (dated : route.IsDated now) :
    ∃ shaped, route.shape (rows.map .dict) = .ok shaped := by
  have hlist : ∀ {kind : RecordKind}, (∀ f ∈ kind.fields, f.2 ≠ .second) →
      ∃ shaped, shapeList kind (rows.map .dict) = .ok shaped := fun hkind =>
    exists_shapeList fun _ _ _ hdecode => isDated_of_decode hdecode hkind
  cases route with
  | clusters => exact hlist (by decide)
  | agents =>
    obtain ⟨store, -, rfl⟩ := map_eq_ok_iff.1 hrows
    exact exists_shapeByCluster (by decide) (tellsCluster_of_mem_rows (.inl rfl))
  | nodes =>
    obtain ⟨store, -, rfl⟩ := map_eq_ok_iff.1 hrows
    exact exists_shapeByCluster (by decide) (tellsCluster_of_mem_rows (.inr rfl))
  | metricNames => exact hlist (by decide)
  | clusterAgents => exact hlist (by decide)
  | clusterNodes => exact hlist (by decide)
  | snapshot query =>
    obtain ⟨hfirst, hlast⟩ := dated query rfl
    exact query.exists_shape (isFresh_of_mem_route_rows hrows) hfirst hlast
  | series query => exact query.exists_shape rows
  | summary query => exact query.exists_shape rows

/-- A request that can tell its times is answered with 200 if **its rows** are returned. -/
theorem code_answer_of_isDated {server : Server} {request : Request}
    (found : findRoute server.config.basePath request.path = some (.data route, ids))
    (get : request.method = "GET") (dated : route.IsDated server.second) :
    (server.answer request).1.code = 200 ↔
      ∃ rows, route.rows server.backend server.second ids request.queryString = .ok rows := by
  rw [code_answer_eq_ok_iff found get]
  constructor
  · rintro ⟨rows, hrows, -⟩
    exact ⟨rows, hrows⟩
  · rintro ⟨rows, hrows⟩
    exact ⟨rows, hrows, route.exists_shape hrows dated⟩

end Routes

end ClusterMetrics
