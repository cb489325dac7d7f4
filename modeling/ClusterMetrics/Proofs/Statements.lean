import ClusterMetrics.Query.Names
import ClusterMetrics.Query.Series

/-! # Statements that can be run

A statement runs if the store responds, no table of it is gone, and it takes the values it is given:
there is room for all of them, and every number fits. Only its values tell statements on the same tables
apart.

* **`Backend.Takes`**: values that a statement takes. **`Backend.access_eq_ok_iff`**: when a statement
  can be run.
* **`Backend.query_of_takes`**: a statement of other values that it takes runs too.
* **`SnapshotQuery.run_eq_ok_iff`**, **`SeriesQuery.run_eq_ok_iff`**: when a query is answered, and
  with which rows.
* **`SnapshotQuery.run_of_run`**, **`SeriesQuery.run_of_run`**: what a run of other values answers.
  **`SnapshotQuery.run_of_many`**, **`SeriesQuery.run_of_many`**: it is refused if there are too many.
* **`SnapshotQuery.valueCount_le`**, **`SeriesQuery.valueCount_le`**: all but a few of the values that a
  statement is given are those of its filter.
* **`SnapshotQuery.rows_eq_of_latestLabelled`**, **`SeriesQuery.rows_eq_of_inRange`**: rows depend
  on the samples of a store by those they are made of. -/

namespace ClusterMetrics

namespace Backend

/-- Whether a statement **takes** numbers and so many other values: it has room for all of them, and the
numbers fit. -/
structure Takes (numbers : List Int) (others : Nat) : Prop where
  few : numbers.length + others ≤ variableLimit
  fits : ∀ n ∈ numbers, fits64 n = true

instance (numbers : List Int) (others : Nat) : Decidable (Takes numbers others) :=
  decidable_of_iff (numbers.length + others ≤ variableLimit ∧ ∀ n ∈ numbers, fits64 n = true)
    ⟨fun h => ⟨h.1, h.2⟩, fun h => ⟨h.few, h.fits⟩⟩

variable {backend : Backend} {tables : List TableName} {numbers numbers' : List Int}
  {others others' : Nat}

/-- A statement that there is **no room** for is refused before its tables are looked up. -/
theorem access_of_many (responds : backend.respond = .ok ())
    (many : variableLimit < numbers.length + others) :
    backend.access tables numbers others = .error tooManyVariables := by
  rw [access, responds, if_pos many]
  rfl

/-- A statement that there is room for needs **its tables and numbers that fit**. -/
theorem access_of_few (few : numbers.length + others ≤ variableLimit) :
    backend.access tables numbers others = backend.respond.bind fun _ =>
      match tables.find? backend.dropped.contains with
      | some table => .error (noSuchTable table)
      | none => if numbers.all fits64 then .ok () else .error .idOverflow := by
  rw [access, if_neg (Nat.not_lt.2 few)]
  rfl

/-- A statement **can be run** if the store responds, its tables are there and it takes its values. -/
theorem access_eq_ok_iff :
    backend.access tables numbers others = .ok () ↔
      backend.respond = .ok () ∧ (∀ t ∈ tables, t ∉ backend.dropped) ∧ Takes numbers others := by
  cases hrespond : backend.respond with
  | error f => simp [access, hrespond, bind, Except.bind]
  | ok u =>
    by_cases few : numbers.length + others ≤ variableLimit
    · rw [access_of_few few, hrespond, Except.bind]
      have htakes : Takes numbers others ↔ numbers.all fits64 = true := by
        rw [List.all_eq_true]
        exact ⟨Takes.fits, fun fits => ⟨few, fits⟩⟩
      cases hgone : tables.find? backend.dropped.contains with
      | some t =>
        have ht : t ∈ tables := List.mem_of_find?_eq_some hgone
        have hdropped : backend.dropped.contains t = true := List.find?_some hgone
        simp only [reduceCtorEq, true_and, false_iff, not_and]
        intro h
        exact absurd (List.contains_iff_mem.1 hdropped) (h t ht)
      | none =>
        have hthere : ∀ t ∈ tables, t ∉ backend.dropped := by
          simpa using List.find?_eq_none.1 hgone
        by_cases hfit : numbers.all fits64 = true
        · simpa [htakes, hfit] using hthere
        · simp [htakes, hfit]
    · rw [access_of_many hrespond (Nat.lt_of_not_le few)]
      simp only [reduceCtorEq, true_and, false_iff, not_and]
      exact fun _ takes => few takes.few

/-- A statement that runs is run on **the store**. -/
theorem query_eq_ok_iff {store : Store} :
    backend.query tables numbers others = .ok store ↔
      backend.access tables numbers others = .ok () ∧ backend.store = store := by
  rw [query]
  cases backend.access tables numbers others <;> simp [Except.map]

/-- A store in order runs every statement that **takes its values**. -/
theorem query_ofStore (store : Store) (takes : Takes numbers others) :
    (ofStore store).query tables numbers others = .ok store := by
  refine query_eq_ok_iff.2 ⟨access_eq_ok_iff.2 ⟨rfl, ?_, takes⟩, rfl⟩
  intro t _
  simp [ofStore]

/-- A store in order refuses every statement with a number **that does not fit**, if there is room for
its values. -/
theorem query_ofStore_of_not_fits (store : Store) (few : numbers.length + others ≤ variableLimit)
    (beyond : ¬∀ n ∈ numbers, fits64 n = true) :
    (ofStore store).query tables numbers others = .error .idOverflow := by
  have hthere : tables.find? (ofStore store).dropped.contains = none := by
    simp [ofStore]
  have hfit : ¬numbers.all fits64 = true := by simpa using beyond
  rw [query, access_of_few few, hthere]
  simp [respond, ofStore, hfit, Except.bind, Except.map]

/-- A store in order refuses every statement that there is **no room** for. -/
theorem query_ofStore_of_many (store : Store) (many : variableLimit < numbers.length + others) :
    (ofStore store).query tables numbers others = .error tooManyVariables := by
  rw [query, access_of_many rfl many]
  rfl

/-- A further number that fits and that there is room for does not decide **whether a statement runs**.
-/
theorem query_cons {n : Int} (fits : fits64 n = true)
    (few : (n :: numbers).length + others ≤ variableLimit) :
    backend.query tables (n :: numbers) others = backend.query tables numbers others := by
  have few' : numbers.length + others ≤ variableLimit := by
    rw [List.length_cons] at few
    omega
  rw [query, query, access_of_few few, access_of_few few', List.all_cons, fits, Bool.true_and]

/-- A statement on the same tables runs if it **takes its values**. -/
theorem query_of_takes {store : Store} (h : backend.query tables numbers others = .ok store)
    (takes : Takes numbers' others') :
    backend.query tables numbers' others' = .ok store := by
  obtain ⟨haccess, hstore⟩ := query_eq_ok_iff.1 h
  obtain ⟨hrespond, htables, -⟩ := access_eq_ok_iff.1 haccess
  exact query_eq_ok_iff.2 ⟨access_eq_ok_iff.2 ⟨hrespond, htables, takes⟩, hstore⟩

/-- A statement that runs **takes its values**. -/
theorem takes_of_query {store : Store} (h : backend.query tables numbers others = .ok store) :
    Takes numbers others :=
  (access_eq_ok_iff.1 (query_eq_ok_iff.1 h).1).2.2

/-- Where a statement runs, one on the same tables that there is **no room** for is refused. -/
theorem query_of_many {store : Store} (h : backend.query tables numbers others = .ok store)
    (many : variableLimit < numbers'.length + others') :
    backend.query tables numbers' others' = .error tooManyVariables := by
  have hrespond := (access_eq_ok_iff.1 (query_eq_ok_iff.1 h).1).1
  rw [query, access_of_many hrespond many]
  rfl

/-- A statement runs alike with **permuted numbers**. -/
theorem query_of_perm (perm : numbers'.Perm numbers) :
    backend.query tables numbers' others = backend.query tables numbers others := by
  rw [query, query, access, access, perm.all_eq, perm.length_eq]

end Backend

/-! ## Counting values -/

section Counting

variable (scope : Scope) (filter : MetricFilter)

/-- A scope gives **few values** to a statement. -/
theorem Scope.length_bound_add_marks_le : scope.bound.length + scope.level.marks ≤ 4 := by
  have hcluster : scope.cluster.toList.length ≤ 1 := by cases scope.cluster <;> simp
  have hnode : scope.node.toList.length ≤ 1 := by cases scope.node <;> simp
  cases hlevel : scope.level with
  | node => simp [Scope.bound, EntityLevel.marks, hlevel]; omega
  | process id => cases id <;> simp [Scope.bound, EntityLevel.marks, hlevel] <;> omega
  | container id => cases id <;> simp [Scope.bound, EntityLevel.marks, hlevel] <;> omega

/-- So it does to a statement on pods. -/
theorem Scope.length_boundPod_le : scope.boundPod.length ≤ 2 := by
  cases hnamespace : scope.podNamespace <;> cases hpod : scope.pod <;>
    simp [Scope.boundPod, hnamespace, hpod]

/-- The numbers of a filter and its absent identifiers are **all there is** in it. -/
theorem MetricFilter.length_numbers_add_count :
    (filter.filterMap id).length + filter.count none = filter.length := by
  induction filter with
  | nil => rfl
  | cons n filter ih =>
    cases n with
    | none =>
      rw [List.filterMap_cons_none rfl, List.count_cons_self, List.length_cons]
      omega
    | some m =>
      rw [List.filterMap_cons_some (id_eq (some m)), List.count_cons_of_ne (by simp),
        List.length_cons, List.length_cons]
      omega

/-- The number of values that the statement of a snapshot is **given**. -/
def SnapshotQuery.valueCount (query : SnapshotQuery) (now : Int) : Nat :=
  (query.bound scope filter now).length + scope.others filter

/-- The number of values that the statement of a series is **given**. -/
def SeriesQuery.valueCount (query : SeriesQuery) : Nat :=
  (query.bound scope filter).length + others scope filter

/-- A snapshot gives its statement **few values besides its filter**. -/
theorem SnapshotQuery.valueCount_le (query : SnapshotQuery) (now : Int) :
    query.valueCount scope filter now ≤ filter.length + 8 := by
  have hscope := scope.length_bound_add_marks_le
  have hpods := scope.length_boundPod_le
  have hfilter := filter.length_numbers_add_count
  cases query <;> simp only [valueCount, bound, Scope.others, List.length_append, List.length_cons,
    List.length_nil] <;> omega

/-- A snapshot gives its statement **all of its filter**. -/
theorem SnapshotQuery.length_filter_le (query : SnapshotQuery) (now : Int) :
    filter.length ≤ query.valueCount scope filter now := by
  have hfilter := filter.length_numbers_add_count
  cases query <;> simp only [valueCount, bound, Scope.others, List.length_append] <;> omega

/-- A series gives its statement **few values besides its filter**. -/
theorem SeriesQuery.valueCount_le (query : SeriesQuery) :
    query.valueCount scope filter ≤ filter.length + 8 := by
  have hscope := scope.length_bound_add_marks_le
  have hpods := scope.length_boundPod_le
  have hfilter := filter.length_numbers_add_count
  cases query <;> simp only [valueCount, bound, others, Scope.others, List.length_append] <;> omega

/-- A summary gives its statement **few values**. -/
theorem SummaryQuery.valueCount_le (now : Int) :
    (bound scope now).length + scope.others [] ≤ variableLimit := by
  have hscope := scope.length_bound_add_marks_le
  simp only [bound, Scope.others, List.length_append, List.length_cons, List.length_nil,
    List.count_nil, variableLimit]
  omega

end Counting

/-! ## Runs -/

variable {backend : Backend} {scope : Scope} {filter : MetricFilter} {rows : List Row}

/-- A snapshot is answered if **its statement runs**, with the rows of the store. -/
theorem SnapshotQuery.run_eq_ok_iff {query : SnapshotQuery} {now : Int} :
    query.run backend scope filter now = .ok rows ↔
      backend.query query.tables (query.bound scope filter now) (scope.others filter)
          = .ok backend.store ∧
        query.rows backend.store scope filter now = rows := by
  rw [SnapshotQuery.run]
  cases hq : backend.query query.tables (query.bound scope filter now) (scope.others filter) with
  | error f => simp [Except.map]
  | ok store =>
    obtain rfl := (Backend.query_eq_ok_iff.1 hq).2
    simp [Except.map]

/-- A series is answered if **its statement runs**, with the rows of the store, if there are any. -/
theorem SeriesQuery.run_eq_ok_iff {query : SeriesQuery} {rule : BucketRule} :
    query.run backend scope filter rule = .ok rows ↔
      backend.query query.tables (query.bound scope filter) (others scope filter)
          = .ok backend.store ∧
        query.rows backend.store scope filter rule = .ok rows := by
  rw [SeriesQuery.run]
  cases hq : backend.query query.tables (query.bound scope filter) (others scope filter) with
  | error f => simp [Except.bind]
  | ok store =>
    obtain rfl := (Backend.query_eq_ok_iff.1 hq).2
    simp [Except.bind]

/-- A snapshot answers the **rows of the store**. -/
theorem SnapshotQuery.rows_of_run {query : SnapshotQuery} {now : Int}
    (h : query.run backend scope filter now = .ok rows) :
    query.rows backend.store scope filter now = rows := (run_eq_ok_iff.1 h).2

/-- A series answers the **rows of the store**. -/
theorem SeriesQuery.rows_of_run {query : SeriesQuery} {rule : BucketRule}
    (h : query.run backend scope filter rule = .ok rows) :
    query.rows backend.store scope filter rule = .ok rows := (run_eq_ok_iff.1 h).2

/-- The statement of a snapshot that is answered **takes its values**. -/
theorem SnapshotQuery.takes_of_run {query : SnapshotQuery} {now : Int}
    (h : query.run backend scope filter now = .ok rows) :
    Backend.Takes (query.bound scope filter now) (scope.others filter) :=
  Backend.takes_of_query (run_eq_ok_iff.1 h).1

/-- The statement of a series that is answered **takes its values**. -/
theorem SeriesQuery.takes_of_run {query : SeriesQuery} {rule : BucketRule}
    (h : query.run backend scope filter rule = .ok rows) :
    Backend.Takes (query.bound scope filter) (others scope filter) :=
  Backend.takes_of_query (run_eq_ok_iff.1 h).1

/-- A snapshot that is answered is also answered **for other values** that its statement takes. -/
theorem SnapshotQuery.run_of_run {query : SnapshotQuery} {scope' : Scope} {filter' : MetricFilter}
    {now : Int} (h : query.run backend scope filter now = .ok rows)
    (takes : Backend.Takes (query.bound scope' filter' now) (scope'.others filter')) :
    query.run backend scope' filter' now = .ok (query.rows backend.store scope' filter' now) :=
  run_eq_ok_iff.2 ⟨Backend.query_of_takes (run_eq_ok_iff.1 h).1 takes, rfl⟩

/-- Where a snapshot is answered, one is refused whose statement has **no room** for its values. -/
theorem SnapshotQuery.run_of_many {query : SnapshotQuery} {scope' : Scope} {filter' : MetricFilter}
    {now : Int} (h : query.run backend scope filter now = .ok rows)
    (many : variableLimit < query.valueCount scope' filter' now) :
    query.run backend scope' filter' now = .error Backend.tooManyVariables := by
  rw [SnapshotQuery.run, Backend.query_of_many (run_eq_ok_iff.1 h).1 many]
  rfl

/-- A store in order refuses a snapshot **for more metrics** than its statement has room for. -/
theorem SnapshotQuery.run_ofStore_of_many (query : SnapshotQuery) (store : Store) (now : Int)
    (many : variableLimit < filter.length) :
    query.run (.ofStore store) scope filter now = .error Backend.tooManyVariables := by
  have hmany := Nat.lt_of_lt_of_le many (query.length_filter_le scope filter now)
  rw [SnapshotQuery.run, Backend.query_ofStore_of_many store hmany]
  rfl

/-- A series that is answered is **read from the store** for other values that its statement takes, and
for other rules, too. -/
theorem SeriesQuery.run_of_run {query : SeriesQuery} {scope' : Scope} {filter' : MetricFilter}
    {rule rule' : BucketRule} (h : query.run backend scope filter rule = .ok rows)
    (takes : Backend.Takes (query.bound scope' filter') (others scope' filter')) :
    query.run backend scope' filter' rule' = query.rows backend.store scope' filter' rule' := by
  rw [SeriesQuery.run, Backend.query_of_takes (run_eq_ok_iff.1 h).1 takes]
  rfl

/-- Where a series is answered, one is refused whose statement has **no room** for its values. -/
theorem SeriesQuery.run_of_many {query : SeriesQuery} {scope' : Scope} {filter' : MetricFilter}
    {rule rule' : BucketRule} (h : query.run backend scope filter rule = .ok rows)
    (many : variableLimit < query.valueCount scope' filter') :
    query.run backend scope' filter' rule' = .error Backend.tooManyVariables := by
  rw [SeriesQuery.run, Backend.query_of_many (run_eq_ok_iff.1 h).1 many]
  rfl

section Samples

variable {store : Store} {samples : List Sample} {filter' : MetricFilter}

/-- Of the samples of a store, a snapshot reads **the newest** only. -/
theorem SnapshotQuery.rows_eq_of_latestLabelled (query : SnapshotQuery) {now : Int}
    (h : { store with samples := samples }.latestLabelled scope filter' now
      = store.latestLabelled scope filter now) :
    query.rows { store with samples := samples } scope filter' now
      = query.rows store scope filter now := by
  cases query with
  | entities kind => rw [rows, Store.snapshot, h]; cases kind <;> rfl
  | pods => rw [rows, Store.podSnapshot, h]; rfl

/-- Of the samples of a store, a series reads **those of its range** only. -/
theorem SeriesQuery.rows_eq_of_inRange (query : SeriesQuery) {rule : BucketRule}
    (h : { store with samples := samples }.inRange scope filter' rule
      = store.inRange scope filter rule) :
    query.rows { store with samples := samples } scope filter' rule
      = query.rows store scope filter rule := by
  have hsamples : query.samples { store with samples := samples } scope filter' rule
      = query.samples store scope filter rule := by
    cases query with
    | entities kind => rw [SeriesQuery.samples, Store.entitySamples, h]; cases kind <;> rfl
    | pods => rw [SeriesQuery.samples, Store.podSamples, h]; rfl
    | clusterSummary => rw [SeriesQuery.samples, Store.nodeSamples, h]; rfl
  rw [rows, rows, cells, cells, hsamples]

end Samples

end ClusterMetrics
