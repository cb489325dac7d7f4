import ClusterMetrics.Proofs.ClusterSummaries
import ClusterMetrics.Proofs.CorruptValues
import ClusterMetrics.Proofs.SeriesRecords

/-! # Counted cells

A series is answered by cells. Each is a record in the data or counted as skipped in the audit log,
but for those of a hidden name. There is a cell for each place where a sample with a complete key
lies, and for no other: a sample whose key has an absent part is dropped before cells are made, and is
not counted.

* **`AccountsForCells`**: how an answer and the audit log account for cells.
* **`SeriesQuery.hasCell_iff`**: which samples have a cell.
* **`series_answers_account_for_complete_cells`**: the cells that are accounted for. -/

namespace ClusterMetrics

/-- How an answer and its record in the audit log **account for cells**: the cells with finite
values are the records in the data, unless they are hidden, and the others are counted as skipped. -/
structure AccountsForCells (query : SeriesQuery) (cells : List SeriesCell)
    (answer : Answer × List AuditRecord) : Prop where
  held : ∃ data, answer.1.body.toValue.field? "data" = some data ∧
    data.records.Perm
      ((cells.filter fun c => c.isFinite && !query.hides c).map fun c => .dict (query.shown c))
  logged : ∃ record details, answer.2 = [record] ∧
    record.toValue.field? "details" = some details ∧
    details.field? "rows" = some (.int cells.length) ∧
    details.field? "skipped_rows" = some (.int (cells.filter fun c => !c.isFinite).length)

section Cells

variable {query : SeriesQuery} {store : Store} {scope : Scope} {filter : MetricFilter}
  {rule : BucketRule} {rows : List Row} {cells : List SeriesCell}

/-- What reports on the rows of cells **accounts for the cells**. -/
theorem accountsForCells_of_reports (h : query.Answers store scope filter rule rows cells)
    (hkeys : ∀ c ∈ cells, query.FitsKey c.key) {answer : Answer × List AuditRecord}
    (hreports : Reports (.series query) rows answer) : AccountsForCells query cells answer := by
  obtain ⟨items, data, hitems, hdata, hperm⟩ := hreports.held
  obtain ⟨record, details, hlog, hdetails, hcount, hskipped⟩ := hreports.logged
  constructor
  · rw [h.rows_eq, mapM_dump_shown_seriesRow hkeys] at hitems
    obtain rfl := Except.ok.inj hitems
    exact ⟨data, hdata, by rwa [List.map_map] at hperm⟩
  · rw [DataRoute.record, h.skipped] at hskipped
    rw [h.rows_eq, List.length_map] at hcount
    exact ⟨record, details, hlog, hdetails, hcount, hskipped⟩

/-- Whether a sample has **a cell** among some. -/
def SeriesQuery.HasCell (query : SeriesQuery) (rule : BucketRule) (cells : List SeriesCell)
    (s : KeyedSample) : Prop :=
  ∃ c ∈ cells, c.key = query.part s.key ∧ rule.bucket? s.ts = some c.bucket

/-- A sample has a cell exactly if **a complete sample** lies at its place. -/
theorem SeriesQuery.hasCell_iff (h : query.Answers store scope filter rule rows cells)
    {s : KeyedSample} :
    query.HasCell rule cells s ↔
      ∃ t ∈ query.samples store scope filter rule, isComplete t.key = true ∧
        query.part t.key = query.part s.key ∧
          ∃ b, rule.bucket? s.ts = some b ∧ rule.bucket? t.ts = some b := by
  constructor
  · rintro ⟨c, hc, hkey, hbucket⟩
    obtain ⟨t, ht⟩ := List.exists_mem_of_ne_nil _ ((h.filled _).1 (List.mem_map_of_mem hc))
    obtain ⟨ht, hcond⟩ := List.mem_filter.1 ht
    simp only [Bool.and_eq_true, decide_eq_true_eq] at hcond
    obtain ⟨⟨hcomplete, hpart⟩, htb⟩ := hcond
    exact ⟨t, ht, hcomplete, hpart.trans hkey, c.bucket, hbucket, htb⟩
  · rintro ⟨t, ht, hcomplete, hpart, b, hsb, htb⟩
    have hmember : t ∈ query.members store scope filter rule (query.part s.key, b) :=
      List.mem_filter.2 ⟨ht, by simp [hcomplete, hpart, htb]⟩
    obtain ⟨c, hc, hplace⟩ := List.mem_map.1 ((h.filled _).2 (List.ne_nil_of_mem hmember))
    obtain ⟨hkey, hbucket⟩ := Prod.mk.inj hplace
    exact ⟨c, hc, hkey, by rw [hsb, hbucket]⟩

end Cells

/-- **Series answers account for complete cells.** A `GET` request to a series that is answered with
200 is answered by cells: one for each place where a sample with a complete key lies. The cells with
finite values are the records in the data, unless their name is hidden, and the others are counted as
skipped. So a joined sample has a cell exactly if a complete sample lies at its place; one whose place
has an absent part never has. -/
theorem series_answers_account_for_complete_cells {server : Server} {request : Request}
    {query : SeriesQuery} {ids : PathIds}
    (found : findRoute server.config.basePath request.path = some (.data (.series query), ids))
    (get : request.method = "GET") (answered : (server.answer request).1.code = 200) :
    ∃ scope names rule filter rows cells,
      (DataRoute.series query).check ids request.queryString
        = .ok (.series query scope names rule) ∧
      server.backend.resolveNames names = .ok filter ∧
      query.Answers server.backend.store scope filter rule rows cells ∧
      AccountsForCells query cells (server.answer request) ∧
      ∀ s ∈ query.samples server.backend.store scope filter rule,
        query.HasCell rule cells s ↔
          ∃ t ∈ query.samples server.backend.store scope filter rule, isComplete t.key = true ∧
            query.part t.key = query.part s.key ∧
              ∃ b, rule.bucket? s.ts = some b ∧ rule.bucket? t.ts = some b := by
  obtain ⟨rows, hrows, hreports⟩ :=
    reports_of_answered found get (fun _ h => by cases h) answered
  obtain ⟨scope, names, rule, filter, hcheck, hfilter, hrun⟩ := exists_run_of_series_rows hrows
  obtain ⟨cells, hcells, hanswers⟩ := SeriesQuery.exists_answers (SeriesQuery.rows_of_run hrun)
  have hkeys : ∀ c ∈ cells, query.FitsKey c.key := fun c hc => fitsKey_of_mem_cells hcells hc
  exact ⟨scope, names, rule, filter, rows, cells, hcheck, hfilter, hanswers,
    accountsForCells_of_reports hanswers hkeys hreports, fun s _ => query.hasCell_iff hanswers⟩

/-- A series **is answered** if its query runs. -/
theorem code_of_series_run {server : Server} {request : Request} {query : SeriesQuery}
    {ids : PathIds} {scope : Scope} {names : List String} {rule : BucketRule}
    {filter : MetricFilter} {rows : List Row}
    (found : findRoute server.config.basePath request.path = some (.data (.series query), ids))
    (get : request.method = "GET")
    (checked : (DataRoute.series query).check ids request.queryString
      = .ok (.series query scope names rule))
    (resolved : server.backend.resolveNames names = .ok filter)
    (ran : query.run server.backend scope filter rule = .ok rows) :
    (server.answer request).1.code = 200 := by
  have hdated : (DataRoute.series query).IsDated server.second := fun _ h => by cases h
  refine (code_answer_of_isDated found get hdated).2 ⟨rows, ?_⟩
  rw [DataRoute.rows, checked]
  exact bind_eq_ok_iff.2 ⟨_, rfl, bind_eq_ok_iff.2 ⟨_, resolved, ran⟩⟩

/-- Two nodes of one cluster with a sample each. The second has no host. -/
def partlyNamed : Store :=
  { oneNode with
    nodes := [⟨some 1, some 1, some "alpha", none, none, none, none, none, none⟩,
      ⟨some 2, some 1, none, none, none, none, none, none, none⟩]
    samples := [firstSample,
      ⟨some 1, some 2, some 0, some 0, some 1, some 1, some 60, some (.number 30.0)⟩] }

/-- The sample of the named node, keyed. -/
def namedSample : KeyedSample :=
  ⟨[.text "alpha", .int 1, .text "cpu", .text "total"], 60, some (.number 10.0)⟩

/-- The sample of the node without a host, keyed. -/
def namelessSample : KeyedSample :=
  ⟨[.null, .int 2, .text "cpu", .text "total"], 60, some (.number 30.0)⟩

theorem samples_partlyNamed :
    (SeriesQuery.entities .node).samples partlyNamed (clusterScope 1) [some 1] hourRule
      = [namedSample, namelessSample] := rfl

/-- The cell of the named node. -/
def namedCell : SeriesCell := ⟨namedSample.key, 60, mean [10.0]⟩

theorem cells_partlyNamed :
    (SeriesQuery.entities .node).cells partlyNamed (clusterScope 1) [some 1] hourRule
      = .ok [namedCell] := by
  have hb : hourRule.bucketing = .ok (.stepped .minute 1) := rfl
  have hm : cellMeans (.stepped .minute 1)
      ((SeriesQuery.entities .node).samples partlyNamed (clusterScope 1) [some 1] hourRule)
        = .ok [namedCell] := rfl
  rw [SeriesQuery.cells_of_cellMeans hb hm]
  exact congrArg Except.ok (inOrder_singleton id namedCell)

theorem names_partlyNamed :
    (serverOn partlyNamed).backend.resolveNames ["cpu"] = .ok [some 1] :=
  resolveNames_singleton rfl

theorem found_partlyNamed : findRoute (serverOn partlyNamed).config.basePath firstHour.path
    = some (.data (.series (.entities .node)), [(.cluster, "1")]) := found_firstHour []

/-- The series of the two nodes **is answered**. -/
theorem code_partlyNamed : ((serverOn partlyNamed).answer firstHour).1.code = 200 :=
  code_of_series_run found_partlyNamed get_firstHour check_firstHour names_partlyNamed
    (SeriesQuery.rows_eq_ok_iff.2 ⟨_, cells_partlyNamed, rfl⟩)

/-- Of the samples of two nodes, the one of the named node has a cell. -/
theorem cells_of_partly_named_nodes :
    findRoute (serverOn partlyNamed).config.basePath firstHour.path
        = some (.data (.series (.entities .node)), [(.cluster, "1")]) ∧
      firstHour.method = "GET" ∧ ((serverOn partlyNamed).answer firstHour).1.code = 200 ∧
      ∃ cells, AccountsForCells (.entities .node) cells ((serverOn partlyNamed).answer firstHour) ∧
        (SeriesQuery.entities .node).HasCell hourRule cells namedSample := by
  obtain ⟨scope, names, rule, filter, rows, cells, hcheck, hfilter, -, haccounts, hcells⟩ :=
    series_answers_account_for_complete_cells found_partlyNamed get_firstHour code_partlyNamed
  cases check_firstHour.symm.trans hcheck
  obtain rfl := Except.ok.inj (names_partlyNamed.symm.trans hfilter)
  have hmem : namedSample ∈ (SeriesQuery.entities .node).samples
      (serverOn partlyNamed).backend.store ⟨some 1, none, .node, none, none⟩ [some 1] hourRule :=
    List.mem_cons_self
  refine ⟨found_partlyNamed, get_firstHour, code_partlyNamed, cells, haccounts, ?_⟩
  exact (hcells namedSample hmem).2 ⟨namedSample, hmem, rfl, rfl, 60, rfl, rfl⟩

/-- The cell of a node without a host is **neither a record nor counted**. -/
theorem nameless_cell_is_lost :
    ((serverOn partlyNamed).answer firstHour).1.code = 200 ∧
      (DataRoute.series (.entities .node)).check [(.cluster, "1")] firstHour.queryString
        = .ok (.series (.entities .node) (clusterScope 1) ["cpu"] hourRule) ∧
      (serverOn partlyNamed).backend.resolveNames ["cpu"] = .ok [some 1] ∧
      (SeriesQuery.entities .node).samples partlyNamed (clusterScope 1) [some 1] hourRule
        = [namedSample, namelessSample] ∧
      AccountsForCells (.entities .node) [namedCell]
        ((serverOn partlyNamed).answer firstHour) ∧
      ¬(SeriesQuery.entities .node).HasCell hourRule [namedCell] namelessSample := by
  obtain ⟨rows, hrows, hreports⟩ :=
    reports_of_answered found_partlyNamed get_firstHour (fun _ h => by cases h) code_partlyNamed
  obtain ⟨scope, names, rule, filter, hcheck, hfilter, hrun⟩ := exists_run_of_series_rows hrows
  cases check_firstHour.symm.trans hcheck
  obtain rfl := Except.ok.inj (names_partlyNamed.symm.trans hfilter)
  obtain ⟨cells, hcells, hanswers⟩ := SeriesQuery.exists_answers (SeriesQuery.rows_of_run hrun)
  have hkeys : ∀ c ∈ cells, (SeriesQuery.entities .node).FitsKey c.key :=
    fun c hc => fitsKey_of_mem_cells hcells hc
  have haccounts := accountsForCells_of_reports hanswers hkeys hreports
  obtain rfl := Except.ok.inj (cells_partlyNamed.symm.trans hcells)
  refine ⟨code_partlyNamed, check_firstHour, names_partlyNamed, samples_partlyNamed, haccounts, ?_⟩
  rintro ⟨c, hc, hkey, -⟩
  obtain rfl := List.mem_singleton.1 hc
  exact absurd hkey (by decide)

end ClusterMetrics
