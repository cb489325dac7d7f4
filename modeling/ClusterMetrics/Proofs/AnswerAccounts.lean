import ClusterMetrics.Proofs.ShownRecords
import ClusterMetrics.Proofs.SortedRows

/-! # Accounts of answers

A data route decodes the rows that the store returns. Every row is a record or skipped, the audit
log is told how many were skipped, and every record is in the answer, unless its group is hidden.

* **`DataRoute.rows`**: the rows of a request. **`DataRoute.fetch_eq_ok_iff`**: what is fetched.
* **`counts_of_shape`**: what is counted. **`namesDiffer_of_shape`**: no name has two groups.
* **`AccountsFor`**, **`answers_are_accounted_for`**: answer and audit record agree on the rows.
* **`agents_of_a_hidden_cluster_are_lost`**: records of a hidden group are counted, and not
  answered. -/

namespace ClusterMetrics

/-! ## Rows and records of a route -/

namespace DataRoute

/-- The **rows** that the store returns for a request that passed the check. -/
def rows (route : DataRoute) (backend : Backend) (now : Int) (ids : PathIds)
    (queryString : String) : Except Failure (List Row) := do
  let request ← route.check ids queryString
  request.run backend now

variable {route : DataRoute} {backend : Backend} {now : Int} {ids : PathIds} {queryString : String}

/-- What is fetched is the number of **the rows and their layout**. -/
theorem fetch_eq_ok_iff {fetched : Fetched} :
    route.fetch backend now ids queryString = .ok fetched ↔
      ∃ rows, route.rows backend now ids queryString = .ok rows ∧
        route.shape (rows.map .dict) = .ok fetched.shaped ∧ fetched.rows = rows.length := by
  simp only [fetch, rows, bind_eq_ok_iff, pure, Except.pure, Except.ok.injEq]
  constructor
  · rintro ⟨request, hcheck, rows, hrun, shaped, hshape, rfl⟩
    exact ⟨rows, ⟨request, hcheck, hrun⟩, hshape, rfl⟩
  · rintro ⟨rows, ⟨request, hcheck, hrun⟩, hshape, hlength⟩
    exact ⟨request, hcheck, rows, hrun, fetched.shaped, hshape, by rw [← hlength]⟩

end DataRoute

/-! ## Counting -/

section Shapes

variable {kind : RecordKind} {rows : List Row} {shaped : Shaped}

/-- Whether a layout of rows **counts** each row as a record or as skipped. -/
def Shaped.Counts (shaped : Shaped) (kind : RecordKind) (rows : List Row) : Prop :=
  shaped.count = (kind.decoded rows).length ∧
    shaped.skipped = (decodeRows kind (rows.map .dict)).skipped

theorem counts_of_shapeList (h : shapeList kind (rows.map .dict) = .ok shaped) :
    shaped.Counts kind rows := by
  rw [shapeList_eq] at h
  obtain ⟨items, hitems, rfl⟩ := map_eq_ok_iff.1 h
  exact ⟨(length_of_mapM_eq_ok hitems).trans (length_decodeRows_entries kind rows), rfl⟩

theorem counts_of_shapeGroups {keyOf : Row → Record → Except Failure Value}
    (h : shapeGroups kind (rows.map .dict) keyOf = .ok shaped) : shaped.Counts kind rows := by
  rw [shapeGroups_eq] at h
  obtain ⟨placed, -, rfl⟩ := map_eq_ok_iff.1 h
  exact ⟨length_decodeRows_entries kind rows, rfl⟩

theorem counts_of_shapeNested {field : String}
    (h : shapeNested kind (rows.map .dict) field = .ok shaped) : shaped.Counts kind rows := by
  rw [shapeNested_eq] at h
  obtain ⟨placed, -, rfl⟩ := map_eq_ok_iff.1 h
  exact ⟨length_decodeRows_entries kind rows, rfl⟩

/-- **Every layout** counts the rows. -/
theorem counts_of_shape {route : DataRoute} (h : route.shape (rows.map .dict) = .ok shaped) :
    shaped.Counts route.record rows := by
  by_cases hsum : ∃ query, route = .summary query
  · obtain ⟨query, rfl⟩ := hsum
    cases query <;> exact counts_of_shapeNested h
  · rw [DataRoute.shape_eq (not_exists.1 hsum)] at h
    split at h
    · exact counts_of_shapeGroups h
    · exact counts_of_shapeList h

end Shapes

/-! ## The names in the data -/

/-- Whether **no name** of an object stands twice. -/
def Value.NamesDiffer : Value → Prop
  | .dict entries => (entries.map (·.1)).Nodup
  | _ => True

/-- Whether a member is placed by a **text**, which is also what is shown. -/
def Placed.IsByText {α : Type} (p : Placed α) : Prop := ∃ s, p.key = .text s ∧ p.shown = .text s

/-- Groups placed by texts have **different names**. -/
theorem names_nodup_of_isByText {α β : Type} {members : List α → List β} {placed : List (Placed α)}
    (h : ∀ p ∈ placed, p.IsByText) :
    ((regroup members placed).map fun g => g.shown.keyText).Nodup := by
  have hkeys : (regroup members placed).map Group.key
      = ((regroup members placed).map fun g => g.shown.keyText).map GroupKey.text := by
    rw [List.map_map]
    refine List.map_congr_left fun g hg => ?_
    obtain ⟨⟨p, hp, hkey, hshown⟩, -⟩ := exists_of_mem_regroup hg
    obtain ⟨s, hs, hs'⟩ := h p hp
    rw [Function.comp_apply, ← hkey, ← hshown, hs, hs']
    rfl
  have hnodup : ((regroup members placed).map Group.key).Nodup := regroup_keys_nodup
  rw [hkeys] at hnodup
  exact List.Nodup.of_map _ hnodup

section Data

variable {kind : RecordKind} {rows : List Row} {shaped : Shaped}

/-- Groups by a text have **names that differ**. -/
theorem namesDiffer_of_shapeGroups {keyOf : Row → Record → Except Failure Value}
    (hkeyOf : ∀ row ∈ rows, ∀ record, kind.decode row = .ok record →
      ∃ s, keyOf row record = .ok (.text s))
    (h : shapeGroups kind (rows.map .dict) keyOf = .ok shaped) :
    shaped.layout.toValue.NamesDiffer := by
  rw [shapeGroups_eq] at h
  obtain ⟨placed, hplaced, rfl⟩ := map_eq_ok_iff.1 h
  have hnames : ((regroup id placed).map fun g => g.shown.keyText).Nodup := by
    refine names_nodup_of_isByText fun p hp => ?_
    obtain ⟨e, he, hplace⟩ := exists_of_mem_mapM hplaced hp
    obtain ⟨hmem, hdecode⟩ := mem_decodeRows_entries.1 he
    obtain ⟨hshown, hkey, -⟩ := placeRecord_eq_ok_iff.1 hplace
    obtain ⟨s, hs⟩ := hkeyOf e.1 hmem e.2 hdecode
    obtain hs' : .text s = p.shown := Except.ok.inj (hs.symm.trans hshown)
    rw [← hs'] at hkey
    exact ⟨s, (Except.ok.inj hkey).symm, hs'.symm⟩
  have hsublist : ((shownGroups (regroup id placed)).map fun g => g.shown.keyText).Nodup :=
    hnames.sublist (List.filter_sublist.map _)
  simpa [Layout.toValue, Value.NamesDiffer, groupEntry, Function.comp_def] using hsublist

/-- A text field of a record **is a key**. -/
theorem exists_fieldKey_of_decode {row : Row} {record : Record}
    (h : kind.decode row = .ok record) {field : String} (hfield : (field, .text) ∈ kind.fields) :
    ∃ s, fieldKey field row record = .ok (.text s) := by
  obtain ⟨s, hget, -⟩ := exists_text_of_decode h hfield
  exact ⟨s, fieldKey_eq_ok_iff.2 hget⟩

/-- Whether a row tells **its cluster** by a text column. -/
def Row.TellsCluster (row : Row) : Prop :=
  ∃ name : Option String, row.get? "cluster_name" = some (textValue name)

/-- The cluster that a row tells **is a key**. -/
theorem exists_clusterKey {row : Row} (h : Row.TellsCluster row) (record : Record) :
    ∃ s, clusterKey row record = .ok (.text s) := by
  obtain ⟨name, hname⟩ := h
  rw [clusterKey, hname]
  cases name with
  | none => exact ⟨"", rfl⟩
  | some s => cases hs : (Value.text s).isEmptyLike with
    | true => exact ⟨"", by simp [textValue, Value.ofOption, hs]⟩
    | false => exact ⟨s, by simp [textValue, Value.ofOption, hs]⟩

end Data

/-- The listings of all agents and of all nodes tell **the cluster of each**. -/
theorem tellsCluster_of_mem_rows {query : CatalogQuery}
    (hquery : query = .agents none ∨ query = .nodes none) {store : Store} :
    ∀ row ∈ query.rows store, Row.TellsCluster row := by
  intro row hrow
  rcases hquery with rfl | rfl
  · obtain ⟨r, -, rfl⟩ := List.mem_map.1 hrow
    exact ⟨r.2, rfl⟩
  · obtain ⟨r, -, rfl⟩ := List.mem_map.1 hrow
    exact ⟨r.2, rfl⟩

section Route

variable {route : DataRoute} {backend : Backend} {now : Int} {ids : PathIds} {queryString : String}
  {rows : List Row} (hrows : route.rows backend now ids queryString = .ok rows)
include hrows

/-- Records are grouped **by texts**. -/
theorem exists_text_key {keyOf : Row → Record → Except Failure Value}
    (hkeyOf : route.keyOf? = some keyOf) : ∀ row ∈ rows, ∀ record,
      route.record.decode row = .ok record → ∃ s, keyOf row record = .ok (.text s) := by
  intro row hrow record hdecode
  cases route with
  | agents =>
    cases hkeyOf
    obtain ⟨store, -, rfl⟩ := map_eq_ok_iff.1 hrows
    exact exists_clusterKey (tellsCluster_of_mem_rows (.inl rfl) row hrow) record
  | nodes =>
    cases hkeyOf
    obtain ⟨store, -, rfl⟩ := map_eq_ok_iff.1 hrows
    exact exists_clusterKey (tellsCluster_of_mem_rows (.inr rfl) row hrow) record
  | snapshot query =>
    cases hkeyOf
    refine exists_fieldKey_of_decode hdecode ?_
    cases query with
    | entities kind => cases kind <;> decide
    | pods => decide
  | series query =>
    obtain ⟨field, hfield, rfl⟩ := Option.map_eq_some_iff.1 hkeyOf
    refine exists_fieldKey_of_decode hdecode ?_
    cases query with
    | entities kind =>
      cases hfield
      cases kind <;> decide
    | pods =>
      cases hfield
      decide
    | clusterSummary => cases hfield
  | _ => cases hkeyOf

/-- Every layout but the cells of a summary has **names that differ**. -/
theorem namesDiffer_of_shape {shaped : Shaped} (unsummed : ∀ query, route ≠ .summary query)
    (h : route.shape (rows.map .dict) = .ok shaped) : shaped.layout.toValue.NamesDiffer := by
  rw [DataRoute.shape_eq unsummed] at h
  split at h
  · exact namesDiffer_of_shapeGroups (exists_text_key hrows ‹_›) h
  · rw [shapeList_eq] at h
    obtain ⟨items, -, rfl⟩ := map_eq_ok_iff.1 h
    trivial

end Route

/-! ## Accounts -/

/-- How an answer and its record in the audit log **account for the rows** of a route: the log has
the rows and those of them that are no records; a series tells the number of records; and unless
they are summed up, the records that are not hidden are in the data, so that all are there exactly if
none is hidden. -/
structure AccountsFor (route : DataRoute) (rows : List Row) (body : Body) (record : AuditRecord) :
    Prop where
  event : record.toValue.field? "event_type" = some (.text "query_executed")
  logged : ∃ details, record.toValue.field? "details" = some details ∧
    ∃ skipped : Nat, details.field? "rows" = some (.int rows.length) ∧
      details.field? "skipped_rows" = some (.int skipped) ∧
      (rows.length - skipped : Int) = (route.record.decoded rows).length
  told : ∀ query, route = .series query →
    body.toValue.field? "count" = some (.int (route.record.decoded rows).length)
  held : (∀ query, route ≠ .summary query) → ∃ data, body.toValue.field? "data" = some data ∧
    data.NamesDiffer ∧ data.records.length = (route.shown rows).length ∧
      (data.records.length = (route.record.decoded rows).length ↔
        ∀ e ∈ (decodeRows route.record (rows.map .dict)).entries, route.hides e = false)

/-- The answer of a data route that has a body **accounts for its rows**. -/
theorem accountsFor_of_dataBody {server : Server} {route : DataRoute} {ids : PathIds}
    {queryString : String} {body : Body} {event : Option AuditEvent} (request : Request)
    (h : server.dataBody route ids queryString = .ok (body, event)) :
    ∃ rows e, route.rows server.backend server.second ids queryString = .ok rows ∧
      event = some e ∧ AccountsFor route rows body (server.record request e) := by
  obtain ⟨fetched, hfetch, hbody⟩ := bind_eq_ok_iff.1 h
  obtain ⟨rows, hrows, hshape, hlength⟩ := DataRoute.fetch_eq_ok_iff.1 hfetch
  obtain ⟨hcount, hskipped⟩ := counts_of_shape hshape
  obtain ⟨rfl, rfl⟩ := Prod.mk.inj (Except.ok.inj hbody)
  refine ⟨rows, _, hrows, rfl, rfl, ⟨_, rfl, fetched.shaped.skipped, ?_, rfl, ?_⟩, ?_, ?_⟩
  · rw [← hlength]
    rfl
  · have htotal := length_decoded_add_skipped route.record rows
    rw [hskipped]
    omega
  · rintro query rfl
    rw [← hcount]
    rfl
  · intro unsummed
    obtain ⟨items, hitems, hperm⟩ := holdsRecords_of_shape unsummed hshape
    have hlength : fetched.shaped.layout.toValue.records.length = (route.shown rows).length := by
      rw [hperm.length_eq, List.length_map, length_of_mapM_eq_ok hitems]
    refine ⟨fetched.shaped.layout.toValue, by cases route <;> rfl,
      namesDiffer_of_shape hrows unsummed hshape, hlength, ?_⟩
    rw [hlength, DataRoute.length_shown_eq_iff]

/-- A failure is answered with **404 and not logged, or with 500 and logged** as failed. -/
theorem outcome_of_failure (f : Failure) :
    (f.outcome.1.code = 404 ∧ f.outcome.2 = none) ∨
      (f.outcome.1.code = 500 ∧ ∃ error, f.outcome.2 = some (.failed error)) := by
  cases f with
  | parameter fault => exact .inl ⟨rfl, rfl⟩
  | _ => exact .inr ⟨rfl, _, rfl⟩

section Answer

variable {server : Server} {request : Request} {route : DataRoute} {ids : PathIds}
  (found : findRoute server.config.basePath request.path = some (.data route, ids))
  (get : request.method = "GET")
include found get

/-- A `GET` request to a data route is answered with **its data**, or with why there are none. -/
theorem answer_data : server.answer request
    = ((Server.outcome (server.dataBody route ids request.queryString)).1,
      (Server.outcome (server.dataBody route ids request.queryString)).2.toList.map
        (server.record request)) := by
  rw [Server.answer, found]
  simp only [if_pos get, Server.answerRoute]

/-- A request is answered with 200 if **its rows** are returned and laid out. -/
theorem code_answer_eq_ok_iff : (server.answer request).1.code = 200 ↔
    ∃ rows, route.rows server.backend server.second ids request.queryString = .ok rows ∧
      ∃ shaped, route.shape (rows.map .dict) = .ok shaped := by
  rw [answer_data found get]
  constructor
  · intro hcode
    cases hbody : server.dataBody route ids request.queryString with
    | error f =>
      rw [hbody] at hcode
      rcases outcome_of_failure f with ⟨hf, -⟩ | ⟨hf, -⟩ <;>
        exact absurd (hf.symm.trans hcode) (by decide)
    | ok result =>
      obtain ⟨fetched, hfetch, -⟩ := bind_eq_ok_iff.1 hbody
      obtain ⟨rows, hrows, hshape, -⟩ := DataRoute.fetch_eq_ok_iff.1 hfetch
      exact ⟨rows, hrows, fetched.shaped, hshape⟩
  · rintro ⟨rows, hrows, shaped, hshape⟩
    have hfetch : route.fetch server.backend server.second ids request.queryString
        = .ok ⟨rows.length, shaped⟩ := DataRoute.fetch_eq_ok_iff.2 ⟨rows, hrows, hshape, rfl⟩
    rw [Server.dataBody, hfetch]
    rfl

end Answer

/-- **Answers are accounted for.** A `GET` request to a data route is answered with 200, 404 or 500.
With 200, one record is written to the audit log, and answer and record account for the rows that
the store returned: none is lost between them but those of hidden groups. With 404, nothing is
written. With 500, one record is written, of a failed query. -/
theorem answers_are_accounted_for (server : Server) {request : Request} {route : DataRoute}
    {ids : PathIds}
    (found : findRoute server.config.basePath request.path = some (.data route, ids))
    (get : request.method = "GET") :
    ((server.answer request).1.code = 200 ∧
      ∃ rows record, route.rows server.backend server.second ids request.queryString = .ok rows ∧
        (server.answer request).2 = [record] ∧
        AccountsFor route rows (server.answer request).1.body record) ∨
    ((server.answer request).1.code = 404 ∧ (server.answer request).2 = []) ∨
    ((server.answer request).1.code = 500 ∧
      ∃ record, (server.answer request).2 = [record] ∧
        record.toValue.field? "event_type" = some (.text "query_failed")) := by
  rw [answer_data found get]
  cases hbody : server.dataBody route ids request.queryString with
  | ok result =>
    obtain ⟨body, event⟩ := result
    obtain ⟨rows, e, hrows, rfl, haccounts⟩ := accountsFor_of_dataBody request hbody
    exact .inl ⟨rfl, rows, server.record request e, hrows, rfl, haccounts⟩
  | error f =>
    rcases outcome_of_failure f with ⟨hcode, hevent⟩ | ⟨hcode, error, hevent⟩
    · exact .inr (.inl ⟨hcode, by rw [Server.outcome, hevent]; rfl⟩)
    · exact .inr (.inr ⟨hcode, server.record request (.failed error),
        by rw [Server.outcome, hevent]; rfl, rfl⟩)

/-- A server of the default configuration **on a store**, at the hundredth second. -/
def serverOn (store : Store) : Server :=
  ⟨.default, .ofStore store, 100.0, 0.0, .start 0.0, .empty⟩

theorem second_serverOn (store : Store) : (serverOn store).second = 100 := by
  have hclock : Decimal.finite? 100.0 = some ⟨false, 7036874417766400, -46⟩ := rfl
  rw [Server.second, serverOn, hclock]
  rfl

/-- A `GET` request **to a target**. -/
def getTarget (target : String) : Request := .ofTarget "GET" target "127.0.0.1"

/-- Two nodes of one cluster, the second of which is not described in full. -/
def halfDescribed : Store :=
  { Store.empty with
    nodes := [⟨some 1, some 1, some "alpha", some "10.0.0.1", some "linux", some "debian",
        some "debian", some "12", some 1⟩,
      ⟨some 2, some 1, some "beta", none, none, none, none, none, none⟩] }

/-- Of the two nodes of a cluster one is answered, and the log has the other as skipped. -/
theorem accounts_of_half_described_nodes :
    findRoute (serverOn halfDescribed).config.basePath (getTarget "/api/v1/clusters/1/nodes").path
        = some (.data .clusterNodes, [(.cluster, "1")]) ∧
      (getTarget "/api/v1/clusters/1/nodes").method = "GET" ∧
      ∃ rows record,
        ((serverOn halfDescribed).answer (getTarget "/api/v1/clusters/1/nodes")).2 = [record] ∧
        AccountsFor .clusterNodes rows
          ((serverOn halfDescribed).answer (getTarget "/api/v1/clusters/1/nodes")).1.body record ∧
        rows.length = 2 ∧ (RecordKind.nodeItem.decoded rows).length = 1 := by
  have hfound : findRoute (serverOn halfDescribed).config.basePath
      (getTarget "/api/v1/clusters/1/nodes").path
        = some (.data .clusterNodes, [(.cluster, "1")]) := rfl
  have hrows : DataRoute.clusterNodes.rows (serverOn halfDescribed).backend
      (serverOn halfDescribed).second [(.cluster, "1")]
      (getTarget "/api/v1/clusters/1/nodes").queryString
        = .ok (halfDescribed.nodes.map nodeRow) := by
    have hsorted : halfDescribed.listNodes (some 1) = halfDescribed.nodes.map nodeRow :=
      congrArg _ (sortBy_of_pairwise (by decide))
    rw [← hsorted]
    rfl
  have hcode := (code_answer_eq_ok_iff hfound rfl).2 ⟨_, hrows, _, rfl⟩
  rcases answers_are_accounted_for (serverOn halfDescribed) hfound rfl with
    ⟨-, rows, record, hrows', hlog, haccounts⟩ | ⟨h, -⟩ | ⟨h, -⟩
  · obtain rfl := Except.ok.inj (hrows.symm.trans hrows')
    exact ⟨hfound, rfl, _, record, hlog, haccounts, rfl, rfl⟩
  · exact absurd (h.symm.trans hcode) (by decide)
  · exact absurd (h.symm.trans hcode) (by decide)

/-- Two clusters with an agent each. The name of the second is hidden. -/
def hiddenCluster : Store :=
  { Store.empty with
    clusters := [⟨some 1, some "main"⟩, ⟨some 2, some "_sandbox"⟩]
    agents := [⟨some 1, some 1, some "1.0", some "10.0.0.1", some 1⟩,
      ⟨some 2, some 2, some "1.0", some "10.0.0.2", some 1⟩] }

/-- The rows of the agents of the two clusters. -/
def hiddenClusterRows : List Row :=
  (hiddenCluster.withCluster Agent.cluster hiddenCluster.agents).map fun r =>
    agentRow r.1 ++ ownerColumn r.2

theorem found_hiddenCluster : findRoute (serverOn hiddenCluster).config.basePath
    (getTarget "/api/v1/agents").path = some (.data .agents, []) := by
  decide +kernel

theorem rows_hiddenCluster (queryString : String) :
    DataRoute.agents.rows (serverOn hiddenCluster).backend (serverOn hiddenCluster).second []
      queryString = .ok hiddenClusterRows := by
  have hsorted : hiddenCluster.listAgents none = hiddenClusterRows :=
    congrArg _ (sortBy_of_pairwise (by decide))
  rw [← hsorted]
  rfl

/-- The agent of a cluster whose name is hidden is **counted and not answered**. -/
theorem agents_of_a_hidden_cluster_are_lost :
    ((serverOn hiddenCluster).answer (getTarget "/api/v1/agents")).1.code = 200 ∧
      (RecordKind.agentItem.decoded hiddenClusterRows).length = 2 ∧
      (∃ record details,
        ((serverOn hiddenCluster).answer (getTarget "/api/v1/agents")).2 = [record] ∧
        record.toValue.field? "details" = some details ∧
        details.field? "rows" = some (.int 2) ∧ details.field? "skipped_rows" = some (.int 0)) ∧
      ∃ data, ((serverOn hiddenCluster).answer
          (getTarget "/api/v1/agents")).1.body.toValue.field? "data" = some data ∧
        data.records.length = 1 := by
  have hfetch : DataRoute.agents.fetch (serverOn hiddenCluster).backend
      (serverOn hiddenCluster).second [] (getTarget "/api/v1/agents").queryString
        = .ok ⟨2, _⟩ :=
    DataRoute.fetch_eq_ok_iff.2 ⟨_, rows_hiddenCluster _, rfl, rfl⟩
  rw [answer_data found_hiddenCluster rfl, Server.dataBody, hfetch]
  exact ⟨rfl, rfl, ⟨_, _, rfl, rfl, rfl, rfl⟩, _, rfl, rfl⟩

end ClusterMetrics
