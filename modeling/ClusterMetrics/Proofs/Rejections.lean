import ClusterMetrics.Proofs.AnswerAccounts

/-! # Rejections

A request is checked before the store is asked. Only names that the catalog does not hold are found
out later, so every other rejection is the same whatever is stored.

* **`Blameless`**: a step that never finds fault with the request, as none is that asks the store or
  lays out its rows.
* **`fetch_parameter`**: where a fault of the request comes from.
* **`rejections_ignore_the_store`**: a rejection is answered alike over any store. -/

namespace ClusterMetrics

/-! ## Steps without blame -/

/-- Whether a step never finds **fault with the request**. -/
def Blameless {α : Type} (x : Except Failure α) : Prop := ∀ fault, x ≠ .error (.parameter fault)

section Steps

variable {α β : Type}

theorem blameless_ok (a : α) : Blameless (.ok a) := fun _ h => by cases h

theorem Blameless.bind {x : Except Failure α} {f : α → Except Failure β} (hx : Blameless x)
    (hf : ∀ a, Blameless (f a)) : Blameless (x >>= f) := by
  intro fault h
  cases x with
  | error e => exact hx fault (congrArg _ (Except.error.inj h))
  | ok a => exact hf a fault h

theorem Blameless.map {x : Except Failure α} (hx : Blameless x) (f : α → β) :
    Blameless (x.map f) := by
  intro fault h
  cases x with
  | error e => exact hx fault (congrArg _ (Except.error.inj h))
  | ok a => cases h

theorem blameless_mapM {f : α → Except Failure β} (hf : ∀ a, Blameless (f a)) (l : List α) :
    Blameless (l.mapM f) := by
  induction l with
  | nil => exact blameless_ok []
  | cons a l ih =>
    rw [List.mapM_cons]
    exact (hf a).bind fun b => ih.bind fun bs => blameless_ok (b :: bs)

end Steps

/-- A statement that cannot be run is **the store's fault**. -/
theorem Backend.query_blameless (backend : Backend) (tables : List TableName) (numbers : List Int)
    (others : Nat) : Blameless (backend.query tables numbers others) := by
  have hrespond : Blameless backend.respond := by
    intro fault h
    rw [respond] at h
    split at h <;> cases h
  refine Blameless.map ?_ _
  rw [access]
  by_cases few : variableLimit < numbers.length + others
  · rw [if_pos few]
    exact hrespond.bind fun _ _ h => by cases h
  · rw [if_neg few]
    refine hrespond.bind fun _ fault h => ?_
    simp only at h
    split at h
    · cases h
    · split at h <;> cases h

/-- Rows that cannot be averaged or put into buckets are **the store's fault**. -/
theorem SeriesQuery.rows_blameless (query : SeriesQuery) (store : Store) (scope : Scope)
    (filter : MetricFilter) (rule : BucketRule) :
    Blameless (query.rows store scope filter rule) := by
  refine Blameless.map ?_ _
  rw [cells]
  split
  · exact blameless_ok []
  · refine Blameless.bind ?_ fun bucketing => Blameless.bind ?_ fun means => blameless_ok _
    · intro fault h
      rw [BucketRule.bucketing] at h
      split at h
      · cases h
      · split at h <;> cases h
    · intro fault h
      simp only [cellMeans] at h
      split at h <;> cases h

/-! ## Laying out -/

theorem dump_blameless (record : Record) : Blameless record.dump := by
  refine blameless_mapM (fun f => Blameless.map ?_ _) _
  intro fault h
  unfold Record.dumpField at h
  split at h
  · split at h <;> cases h
  · cases h
  · cases h

theorem groupKey_blameless (v : Value) : Blameless v.groupKey := by
  intro fault h
  cases v with
  | float x =>
    rw [Value.groupKey] at h
    split at h
    · split at h <;> cases h
    · cases h
  | _ => cases h

theorem fieldKey_blameless (field : String) (row : Row) (record : Record) :
    Blameless (fieldKey field row record) := by
  intro fault h
  rw [fieldKey] at h
  split at h <;> cases h

theorem clusterKey_blameless (row : Row) (record : Record) : Blameless (clusterKey row record) := by
  intro fault h
  rw [clusterKey] at h
  split at h <;> cases h

section Layouts

variable (kind : RecordKind) (rows : List Value)

theorem shapeList_blameless : Blameless (shapeList kind rows) := by
  rw [shapeList_eq]
  exact (blameless_mapM (fun e : Row × Record => dump_blameless e.2) _).map _

theorem shapeGroups_blameless {keyOf : Row → Record → Except Failure Value}
    (hkeyOf : ∀ row record, Blameless (keyOf row record)) :
    Blameless (shapeGroups kind rows keyOf) := by
  rw [shapeGroups_eq]
  refine (blameless_mapM (fun e => ?_) _).map _
  exact (hkeyOf e.1 e.2).bind fun shown => (groupKey_blameless shown).bind fun key =>
    (dump_blameless e.2).bind fun item => blameless_ok _

theorem shapeNested_blameless (field : String) : Blameless (shapeNested kind rows field) := by
  rw [shapeNested_eq]
  refine (blameless_mapM (fun e => ?_) _).map _
  refine (fieldKey_blameless field e.1 e.2).bind fun shown =>
    (groupKey_blameless shown).bind fun key => ?_
  intro fault h
  split at h <;> cases h

/-- Rows that cannot be laid out are **the store's fault**. -/
theorem shape_blameless (route : DataRoute) : Blameless (route.shape rows) := by
  cases route with
  | clusters => exact shapeList_blameless _ rows
  | agents => exact shapeGroups_blameless _ rows clusterKey_blameless
  | nodes => exact shapeGroups_blameless _ rows clusterKey_blameless
  | metricNames => exact shapeList_blameless _ rows
  | clusterAgents => exact shapeList_blameless _ rows
  | clusterNodes => exact shapeList_blameless _ rows
  | snapshot query => cases query <;> exact shapeGroups_blameless _ rows (fieldKey_blameless _)
  | series query =>
    cases query with
    | entities kind => exact shapeGroups_blameless _ rows (fieldKey_blameless _)
    | pods => exact shapeGroups_blameless _ rows (fieldKey_blameless _)
    | clusterSummary => exact shapeList_blameless _ rows
  | summary query => cases query <;> exact shapeNested_blameless _ rows _

end Layouts

/-! ## Faults of the request -/

/-- Whether a fault is that of names that are **not known**. -/
def ParameterFault.IsUnknownNames (fault : ParameterFault) : Prop :=
  ∃ names, fault = .unknownNames names

section Faults

variable {fault : ParameterFault}

/-- Names are refused because one is not known, or **by any store**. -/
theorem resolveNames_parameter {backend : Backend} {names : List String}
    (h : backend.resolveNames names = .error (.parameter fault)) :
    fault.IsUnknownNames ∨
      ∀ other : Backend, other.resolveNames names = .error (.parameter fault) := by
  simp only [Backend.resolveNames] at h ⊢
  split at h
  · cases h
  rename_i hne
  simp only [if_neg hne]
  split at h
  · left
    rcases bind_eq_error_iff.1 h with hquery | ⟨store, -, hnames⟩
    · cases hq : backend.query [.metricNames] [] names.length with
      | ok store => simp [hq, Except.mapError] at hquery
      | error f =>
        rw [hq] at hquery
        have hf : lookupFailure f = .parameter fault := Except.error.inj hquery
        cases f with
        | parameter fault' => exact absurd hq (backend.query_blameless _ _ _ fault')
        | _ => cases hf
    · rw [Store.resolveNames] at hnames
      split at hnames
      · exact ⟨_, (Failure.parameter.inj (Except.error.inj hnames)).symm⟩
      · cases hnames
  · rename_i repeated hrepeated
    right
    exact fun _ => h

/-- A request that passed the check is refused because a name is not known, or **by any store**. -/
theorem run_parameter {request : StoreRequest} {backend : Backend} {now : Int}
    (h : request.run backend now = .error (.parameter fault)) :
    fault.IsUnknownNames ∨
      ∀ (other : Backend) (now' : Int), request.run other now' = .error (.parameter fault) := by
  cases request with
  | catalog query => exact absurd h ((backend.query_blameless _ _ _).map _ fault)
  | summary query scope => exact absurd h ((backend.query_blameless _ _ _).map _ fault)
  | snapshot query scope names =>
    rcases bind_eq_error_iff.1 h with hnames | ⟨filter, -, hrun⟩
    · refine (resolveNames_parameter hnames).imp_right fun hany other now' => ?_
      exact bind_eq_error_iff.2 (.inl (hany other))
    · exact absurd hrun ((backend.query_blameless _ _ _).map _ fault)
  | series query scope names rule =>
    rcases bind_eq_error_iff.1 h with hnames | ⟨filter, -, hrun⟩
    · refine (resolveNames_parameter hnames).imp_right fun hany other now' => ?_
      exact bind_eq_error_iff.2 (.inl (hany other))
    · exact absurd hrun ((backend.query_blameless _ _ _).bind
        (fun store => query.rows_blameless store scope filter rule) fault)

/-- A route is refused because a name is not known, or **over any store and at any time**. -/
theorem fetch_parameter {route : DataRoute} {backend : Backend} {now : Int} {ids : PathIds}
    {queryString : String}
    (h : route.fetch backend now ids queryString = .error (.parameter fault)) :
    fault.IsUnknownNames ∨ ∀ (other : Backend) (now' : Int),
      route.fetch other now' ids queryString = .error (.parameter fault) := by
  rcases bind_eq_error_iff.1 h with hcheck | ⟨request, hcheck, hrest⟩
  · exact .inr fun other now' => bind_eq_error_iff.2 (.inl hcheck)
  rcases bind_eq_error_iff.1 hrest with hrun | ⟨rows, -, hrest⟩
  · refine (run_parameter hrun).imp_right fun hany other now' => ?_
    exact bind_eq_error_iff.2 (.inr ⟨request, hcheck, bind_eq_error_iff.2 (.inl (hany other now'))⟩)
  rcases bind_eq_error_iff.1 hrest with hshape | ⟨shaped, -, hok⟩
  · exact absurd hshape (shape_blameless _ route fault)
  · cases hok

end Faults

/-! ## Answers -/

/-- What fails is rejected if **the request is at fault**. -/
theorem outcome_eq_bad_iff {result : Except Failure (Body × Option AuditEvent)} {message : String} :
    (Server.outcome result).1 = ⟨404, .bad message⟩ ↔
      ∃ fault : ParameterFault, result = .error (.parameter fault) ∧ fault.message = message := by
  cases result with
  | ok r => simp [Server.outcome]
  | error f => cases f <;> simp [Server.outcome, Failure.outcome]

/-- The report on the server **never blames** the request. -/
theorem snapshot_blameless (stats : ServerStats) (now : Float) :
    Blameless (stats.snapshot now) := by
  intro fault h
  simp only [ServerStats.snapshot] at h
  split at h <;> cases h

/-- The listing of incidents **never blames** the request. -/
theorem incidentBody_blameless (server : Server) : Blameless server.incidentBody := by
  refine Blameless.bind ?_ fun items => ?_
  · intro fault h
    simp only [IncidentRegistry.newestFirst] at h
    split at h <;> cases h
  · intro fault h
    split at h <;> cases h

/-- A rejection comes from a **fault of the request**, found by a data route. -/
theorem exists_of_rejected {server : Server} {request : Request} {message : String}
    (rejected : (server.answer request).1 = ⟨404, .bad message⟩) :
    ∃ route ids fault, findRoute server.config.basePath request.path = some (.data route, ids) ∧
      request.method = "GET" ∧ ParameterFault.message fault = message ∧
      route.fetch server.backend server.second ids request.queryString
        = .error (.parameter fault) := by
  rw [Server.answer] at rejected
  split at rejected
  · cases rejected
  rename_i route ids hfound
  split at rejected
  · rename_i hget
    cases route with
    | health =>
      simp only [Server.answerRoute, Server.health] at rejected
      split at rejected <;> cases rejected
    | status =>
      obtain ⟨fault, hfault, -⟩ := outcome_eq_bad_iff.1 rejected
      exact absurd hfault ((snapshot_blameless _ _).map _ fault)
    | incidents =>
      obtain ⟨fault, hfault, -⟩ := outcome_eq_bad_iff.1 rejected
      exact absurd hfault ((incidentBody_blameless server).map _ fault)
    | data route =>
      obtain ⟨fault, hfault, hmessage⟩ := outcome_eq_bad_iff.1 rejected
      refine ⟨route, ids, fault, hfound, hget, hmessage, ?_⟩
      rcases bind_eq_error_iff.1 hfault with hfetch | ⟨fetched, -, hok⟩
      · exact hfetch
      · cases hok
  · cases rejected

/-- **Rejections do not depend on the store.** Take two servers of one configuration, over any
stores and at any times. If one of them rejects a request with 404 and a message, other than that a
metric name is not known, then so does the other, and it logs nothing. -/
theorem rejections_ignore_the_store {server other : Server} (same : other.config = server.config)
    {request : Request} {message : String}
    (rejected : (server.answer request).1 = ⟨404, .bad message⟩)
    (known : ∀ names, message ≠ (ParameterFault.unknownNames names).message) :
    other.answer request = (⟨404, .bad message⟩, []) := by
  obtain ⟨route, ids, fault, hfound, hget, rfl, hfetch⟩ := exists_of_rejected rejected
  rcases fetch_parameter hfetch with ⟨names, rfl⟩ | hany
  · exact absurd rfl (known names)
  · rw [← same] at hfound
    rw [answer_data hfound hget, Server.dataBody, hany]
    rfl

/-- A numeral with a leading zero is rejected over a store that does not answer as over one that
does. -/
theorem leading_zero_is_rejected_over_a_store_that_hangs :
    ({ serverOn .empty with backend := ⟨.empty, [], some .hangs⟩ } : Server).config
        = (serverOn halfDescribed).config ∧
      ((serverOn halfDescribed).answer (getTarget "/api/v1/summary/clusters/01")).1
        = ⟨404, .bad "invalid cluster_id: '01'"⟩ ∧
      (∀ names, "invalid cluster_id: '01'" ≠ (ParameterFault.unknownNames names).message) ∧
      ({ serverOn .empty with backend := ⟨.empty, [], some .hangs⟩ } : Server).answer
          (getTarget "/api/v1/summary/clusters/01")
        = (⟨404, .bad "invalid cluster_id: '01'"⟩, []) := by
  have hmessage : (ParameterFault.malformedId .cluster "01").message
      = "invalid cluster_id: '01'" := by decide +kernel
  have hrejected : ((serverOn halfDescribed).answer (getTarget "/api/v1/summary/clusters/01")).1
      = ⟨404, .bad "invalid cluster_id: '01'"⟩ := by
    rw [← hmessage]
    rfl
  have hknown : ∀ names,
      "invalid cluster_id: '01'" ≠ (ParameterFault.unknownNames names).message := by
    intro names h
    -- the messages differ in their first letters
    have hletters : "invalid cluster_id: '01'".toList
        = ("unknown metric names: " ++ commaSeparated names).toList := congrArg String.toList h
    rw [String.toList_append] at hletters
    have hfirst : 'i' = 'u' := (List.cons.inj hletters).1
    exact absurd hfirst (by decide)
  exact ⟨rfl, hrejected, hknown, rejections_ignore_the_store rfl hrejected hknown⟩

end ClusterMetrics
