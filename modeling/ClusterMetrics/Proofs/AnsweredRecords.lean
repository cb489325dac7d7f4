import ClusterMetrics.Proofs.AnswerAccounts

/-! # Records in answers

Whatever the layout of a route, the data of its answer hold each record that is not hidden as often
as there is a row of it, and the audit log has the numbers of rows and of rows that are no records.

* **`Reports`**, **`reports_of_answered`**: what an answer and the log report on the rows.
* **`exists_run_of_series_rows`**, **`exists_run_of_snapshot_rows`**: the query behind the rows. -/

namespace ClusterMetrics

/-- What an answer and the audit log **report** on the rows of a route: the data hold the answered
records that are not hidden, in some order, and the log has how many rows there were and how many of
them were no records. -/
structure Reports (route : DataRoute) (rows : List Row) (answer : Answer × List AuditRecord) :
    Prop where
  held : ∃ items data, (route.shown rows).mapM Record.dump = .ok items ∧
    answer.1.body.toValue.field? "data" = some data ∧ data.records.Perm (items.map .dict)
  logged : ∃ record details, answer.2 = [record] ∧
    record.toValue.field? "details" = some details ∧
    details.field? "rows" = some (.int rows.length) ∧
    details.field? "skipped_rows" = some (.int (decodeRows route.record (rows.map .dict)).skipped)

/-- An answer with 200 **reports on the rows** of its route. -/
theorem reports_of_answered {server : Server} {request : Request} {route : DataRoute}
    {ids : PathIds}
    (found : findRoute server.config.basePath request.path = some (.data route, ids))
    (get : request.method = "GET") (unsummed : ∀ query, route ≠ .summary query)
    (answered : (server.answer request).1.code = 200) :
    ∃ rows, route.rows server.backend server.second ids request.queryString = .ok rows ∧
      Reports route rows (server.answer request) := by
  obtain ⟨rows, hrows, shaped, hshape⟩ := (code_answer_eq_ok_iff found get).1 answered
  obtain ⟨items, hitems, hperm⟩ := holdsRecords_of_shape unsummed hshape
  obtain ⟨-, hskipped⟩ := counts_of_shape hshape
  have hfetch : route.fetch server.backend server.second ids request.queryString
      = .ok ⟨rows.length, shaped⟩ := DataRoute.fetch_eq_ok_iff.2 ⟨rows, hrows, hshape, rfl⟩
  refine ⟨rows, hrows, ?_⟩
  rw [answer_data found get, Server.dataBody, hfetch]
  refine ⟨⟨items, shaped.layout.toValue, hitems, ?_, hperm⟩, ⟨_, _, rfl, rfl, rfl, ?_⟩⟩
  · cases route <;> rfl
  · rw [← hskipped]
    rfl

/-! ## Queries of routes -/

section Routes

variable {backend : Backend} {now : Int} {ids : PathIds} {queryString : String} {rows : List Row}

/-- The rows of a series are those **of a checked query**. -/
theorem exists_run_of_series_rows {query : SeriesQuery}
    (h : (DataRoute.series query).rows backend now ids queryString = .ok rows) :
    ∃ scope names rule filter,
      (DataRoute.series query).check ids queryString = .ok (.series query scope names rule) ∧
        backend.resolveNames names = .ok filter ∧
          query.run backend scope filter rule = .ok rows := by
  obtain ⟨checked, hcheck, hrun⟩ := bind_eq_ok_iff.1 h
  obtain ⟨selection, hparse, hscope⟩ := bind_eq_ok_iff.1 hcheck
  obtain ⟨scope, hscope, hrule⟩ := bind_eq_ok_iff.1 hscope
  obtain ⟨rule, hrule, hchecked⟩ := bind_eq_ok_iff.1 hrule
  obtain rfl := Except.ok.inj hchecked
  obtain ⟨filter, hfilter, hrun⟩ := bind_eq_ok_iff.1 hrun
  exact ⟨scope, selection.metricNames, rule, filter, hcheck, hfilter, hrun⟩

/-- The rows of a snapshot are those **of a checked query**. -/
theorem exists_run_of_snapshot_rows {query : SnapshotQuery}
    (h : (DataRoute.snapshot query).rows backend now ids queryString = .ok rows) :
    ∃ scope names filter,
      (DataRoute.snapshot query).check ids queryString = .ok (.snapshot query scope names) ∧
        backend.resolveNames names = .ok filter ∧
          query.run backend scope filter now = .ok rows := by
  obtain ⟨checked, hcheck, hrun⟩ := bind_eq_ok_iff.1 h
  obtain ⟨selection, hparse, hscope⟩ := bind_eq_ok_iff.1 hcheck
  obtain ⟨scope, hscope, hchecked⟩ := bind_eq_ok_iff.1 hscope
  obtain rfl := Except.ok.inj hchecked
  obtain ⟨filter, hfilter, hrun⟩ := bind_eq_ok_iff.1 hrun
  exact ⟨scope, selection.metricNames, filter, hcheck, hfilter, hrun⟩

end Routes

end ClusterMetrics
