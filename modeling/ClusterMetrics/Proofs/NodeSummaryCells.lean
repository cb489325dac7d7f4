import ClusterMetrics.Proofs.AnswerAccounts
import ClusterMetrics.Proofs.ClusterSummaries
import Mathlib.Data.List.Perm.Subperm

/-! # The cells of the node summary

The node summary sums up by node, and its answer is laid out by host. Where two nodes share a host,
the sums of a metric share a cell, and the cell holds the last of them.

* **`NodeTotal`**, **`Rollup.total?`**: the total of a node, which a sum has if it is complete and
  finite. **`decoded_nodeSummaryRow`**: the records of the summary are those of the totals.
* **`Value.cells`**: the cells in the data of an answer. **`totalsData`**: the data made of totals.
  **`shownTotals`**: the totals whose host and metric are not hidden.
* **`HoldsTotals`**: which totals are in the cells, and when all are.
* **`node_summary_holds_the_last_total_of_a_host`**: the answer holds the totals of the rows. -/

namespace ClusterMetrics

/-! ## Totals -/

/-- The **total of a node**: the rounded sum of its newest samples of a metric. -/
structure NodeTotal where
  node : Int
  host : String
  metric : String
  value : Float

/-- The **total of a sum** that names its node, host and metric and is finite. -/
def Rollup.total? (r : Rollup Entity) : Option NodeTotal := do
  let node ← r.subject.id
  let host ← r.subject.name
  let metric ← r.metricName
  let sum ← r.value
  if Decimal.isFinite sum then some ⟨node, host, metric, Decimal.roundTo 2 sum⟩ else none

namespace NodeTotal

/-- The record of a total. -/
def record (t : NodeTotal) : Record :=
  ⟨[("node_id", .whole, .int t.node), ("host", .text, .text t.host),
    ("metric_name", .text, .text t.metric), ("value", .sample, .float t.value)]⟩

/-- The host and the metric of a total. -/
def place (t : NodeTotal) : String × String := (t.host, t.metric)

/-- The key of the sum that a total **is of**. -/
def key (t : NodeTotal) : List Cell := [.int t.node, .text t.host, .text t.metric]

/-- A total **placed** under its host, with its metric. -/
def placed (t : NodeTotal) : Placed (String × Value) :=
  ⟨.text t.host, .text t.host, (t.metric, .float t.value)⟩

end NodeTotal

/-- Whether a cell of a host and a metric is **shown**. -/
def isShownPlace (place : String × String) : Bool := !isHidden place.1 && !isHidden place.2

/-- The totals whose host and metric are **not hidden**. -/
def shownTotals (totals : List NodeTotal) : List NodeTotal := totals.filter fun t => isShownPlace t.place

/-- A sum has a total **if it is complete and finite**. -/
theorem total?_eq_some_iff {r : Rollup Entity} {t : NodeTotal} :
    r.total? = some t ↔ r.subject.id = some t.node ∧ r.subject.name = some t.host ∧
      r.metricName = some t.metric ∧
      ∃ sum, r.value = some sum ∧ Decimal.isFinite sum = true ∧
        Decimal.roundTo 2 sum = t.value := by
  obtain ⟨node, host, metric, value⟩ := t
  simp only [Rollup.total?, Option.bind_eq_bind, Option.bind_eq_some_iff,
    Option.ite_none_right_eq_some, Option.some.injEq, NodeTotal.mk.injEq]
  constructor
  · rintro ⟨_, hnode, _, hhost, _, hmetric, sum, hsum, hfinite, rfl, rfl, rfl, rfl⟩
    exact ⟨hnode, hhost, hmetric, sum, hsum, hfinite, rfl⟩
  · rintro ⟨hnode, hhost, hmetric, sum, hsum, hfinite, hvalue⟩
    exact ⟨_, hnode, _, hhost, _, hmetric, sum, hsum, hfinite, rfl, rfl, rfl, hvalue⟩

/-! ## Records of totals -/

/-- A row of the node summary is a record if its sum **has a total**. -/
theorem decode_nodeSummaryRow_eq_ok_iff {r : Rollup Entity} {record : Record} :
    RecordKind.nodeSummaryRow.decode (nodeSummaryRow r) = .ok record ↔
      ∃ t, r.total? = some t ∧ t.record = record := by
  obtain ⟨fields⟩ := record
  -- a column of the row is read back as the part of the sum that it was written from
  have hnode : ∀ v, FieldKind.whole.decode (nodeSummaryRow r) "node_id" = .ok v ↔ _ :=
    fun v => @coerce_intValue_iff r.subject.id v
  have hhost : ∀ v, FieldKind.text.decode (nodeSummaryRow r) "host" = .ok v ↔ _ :=
    fun v => @coerce_textValue_iff r.subject.name v
  have hmetric : ∀ v, FieldKind.text.decode (nodeSummaryRow r) "metric_name" = .ok v ↔ _ :=
    fun v => @coerce_textValue_iff r.metricName v
  have hvalue : ∀ v, FieldKind.sample.decode (nodeSummaryRow r) "value" = .ok v ↔ _ :=
    fun v => @coerce_sumValue_iff r.value v
  rw [decode_eq_ok_iff]
  constructor
  · intro h
    simp only [RecordKind.fields, List.forall₂_cons_left_iff, List.forall₂_nil_left_iff,
      ConvertsFrom, hnode, hhost, hmetric, hvalue] at h
    obtain ⟨⟨_, _, _⟩, _, ⟨rfl, rfl, node, hnode, rfl⟩,
      ⟨⟨_, _, _⟩, _, ⟨rfl, rfl, host, hhost, rfl⟩,
      ⟨⟨_, _, _⟩, _, ⟨rfl, rfl, metric, hmetric, rfl⟩,
      ⟨⟨_, _, _⟩, _, ⟨rfl, rfl, sum, hsum, hfinite, rfl⟩, rfl, rfl⟩, rfl⟩, rfl⟩, rfl⟩ := h
    exact ⟨⟨node, host, metric, _⟩,
      total?_eq_some_iff.2 ⟨hnode, hhost, hmetric, sum, hsum, hfinite, rfl⟩, rfl⟩
  · rintro ⟨t, htotal, h⟩
    obtain ⟨hid, hname, hmetricName, sum, hsum, hfinite, hrounded⟩ := total?_eq_some_iff.1 htotal
    rw [← Record.mk.inj h]
    exact .cons ⟨rfl, rfl, (hnode _).2 ⟨_, hid, rfl⟩⟩
      (.cons ⟨rfl, rfl, (hhost _).2 ⟨_, hname, rfl⟩⟩
      (.cons ⟨rfl, rfl, (hmetric _).2 ⟨_, hmetricName, rfl⟩⟩
      (.cons ⟨rfl, rfl, (hvalue _).2 ⟨sum, hsum, hfinite, congrArg _ hrounded⟩⟩ .nil)))

section Sums

variable (sums : List (Rollup Entity))

/-- The records of sums are those **of their totals**. -/
theorem decoded_nodeSummaryRow :
    RecordKind.nodeSummaryRow.decoded (sums.map nodeSummaryRow)
      = (sums.filterMap Rollup.total?).map NodeTotal.record := by
  rw [RecordKind.decoded, List.filterMap_map, List.map_filterMap]
  congr 1
  funext r
  rw [Function.comp_apply]
  cases hdecode : RecordKind.nodeSummaryRow.decode (nodeSummaryRow r) with
  | ok record =>
    obtain ⟨t, htotal, rfl⟩ := decode_nodeSummaryRow_eq_ok_iff.1 hdecode
    rw [htotal]
    rfl
  | error issues =>
    cases htotal : r.total? with
    | none => rfl
    | some t =>
      have hok := decode_nodeSummaryRow_eq_ok_iff.2 ⟨t, htotal, rfl⟩
      cases hdecode.symm.trans hok

/-- The values of the records are **placed** as the totals are. -/
theorem mapM_placeCell_nodeSummaryRow :
    (decodeRows .nodeSummaryRow ((sums.map nodeSummaryRow).map .dict)).entries.mapM
      (placeCell "host") = .ok ((sums.filterMap Rollup.total?).map NodeTotal.placed) := by
  have hrecords : List.Forall₂ Eq
      ((decodeRows .nodeSummaryRow ((sums.map nodeSummaryRow).map .dict)).entries.map (·.2))
      ((sums.filterMap Rollup.total?).map NodeTotal.record) := by
    rw [map_decodeRows_entries, decoded_nodeSummaryRow, List.forall₂_eq_eq_eq]
  rw [List.forall₂_map_left_iff, List.forall₂_map_right_iff] at hrecords
  rw [mapM_eq_ok_iff, List.forall₂_map_right_iff]
  refine hrecords.imp fun e t h => placeCell_eq_ok_iff.2 ?_
  rw [h]
  exact ⟨rfl, rfl, rfl, rfl⟩

end Sums

/-- What a node is summed up by: its identifier and its host. -/
def nodeKey (e : Entity) : List Cell := [.ofInt e.id, .ofText e.name]

/-- A sum and its total have **one key**. -/
theorem key_of_total? {r : Rollup Entity} {t : NodeTotal} (h : r.total? = some t) :
    r.key nodeKey = t.key := by
  obtain ⟨hnode, hhost, hmetric, -⟩ := total?_eq_some_iff.1 h
  rw [Rollup.key, nodeKey, hnode, hhost, hmetric]
  rfl

/-- The **totals** of the nodes of a scope, in the order of their hosts and metrics. -/
def Store.nodeTotals (store : Store) (scope : Scope) (now : Int) : List NodeTotal :=
  (store.nodeSummary scope now).filterMap Rollup.total?

/-- **No node** has two totals of a metric. -/
theorem nodeTotals_keys_nodup (store : Store) (scope : Scope) (now : Int) :
    ((store.nodeTotals scope now).map NodeTotal.key).Nodup := by
  have hsums : ((store.nodeSummary scope now).map (Rollup.key nodeKey)).Nodup :=
    ((sortBy_perm nodeOrder _).map _).nodup_iff.2 (rollup_keys_nodup nodeKey _)
  rw [Store.nodeTotals, List.Nodup, List.pairwise_map, List.pairwise_filterMap]
  refine (List.pairwise_map.1 hsums).imp fun hne t ht u hu heq => hne ?_
  rw [key_of_total? ht, key_of_total? hu, heq]

/-! ## Cells -/

/-- A list without repetition is as long as another of the same elements if that **has none**
either. -/
theorem length_eq_iff_nodup {α : Type} {l l' : List α} (hl : l.Nodup) (h : ∀ a, a ∈ l ↔ a ∈ l') :
    l.length = l'.length ↔ l'.Nodup := by
  have hsub : l.Subperm l' := List.subperm_of_subset hl fun a ha => (h a).1 ha
  constructor
  · intro hlength
    exact (hsub.perm_of_length_le (Nat.le_of_eq hlength.symm)).nodup_iff.1 hl
  · intro hl'
    exact ((List.perm_ext_iff_of_nodup hl hl').2 h).length_eq

/-- The **cells** in the data of a summary: what each is for, its metric and its value. -/
def Value.cells : Value → List (String × String × Value)
  | .dict groups => groups.flatMap fun g =>
    match g.2 with
    | .dict cells => cells.map fun c => (g.1, c.1, c.2)
    | _ => []
  | _ => []

/-- The **places** of the cells: what each is for, and its metric. -/
def Value.places (data : Value) : List (String × String) := data.cells.map fun c => (c.1, c.2.1)

/-- The data made of totals, laid out **by host and metric**. -/
def totalsData (totals : List NodeTotal) : Value :=
  (Layout.cells (regroup lastCells (totals.map NodeTotal.placed))).toValue

section Totals

variable {totals : List NodeTotal}

/-- A group of totals is **of a host**. -/
theorem key_of_mem_regroup_placed {g : Group (String × Value)}
    (hg : g ∈ regroup lastCells (totals.map NodeTotal.placed)) :
    g.key = .text g.shown.keyText := by
  obtain ⟨⟨p, hp, hkey, hshown⟩, -⟩ := exists_of_mem_regroup hg
  obtain ⟨t, -, rfl⟩ := List.mem_map.1 hp
  rw [← hkey, ← hshown]
  rfl

/-- The cells of the groups that totals are in, **whether hidden or not**. -/
def groupedCells (totals : List NodeTotal) : List (String × String × Value) :=
  (regroup lastCells (totals.map NodeTotal.placed)).flatMap fun g =>
    g.members.map fun c => (g.shown.keyText, c.1, c.2)

/-- Selected elements are mapped to lists as all are, if **the others have none**. -/
theorem flatMap_filter_of_forall {α β : Type} {p : α → Bool} {f g : α → List β} {l : List α}
    (selected : ∀ a ∈ l, p a = true → f a = g a) (others : ∀ a ∈ l, p a = false → g a = []) :
    (l.filter p).flatMap f = l.flatMap g := by
  induction l with
  | nil => rfl
  | cons a l ih =>
    have ih := ih (fun b hb => selected b (List.mem_cons_of_mem a hb))
      fun b hb => others b (List.mem_cons_of_mem a hb)
    cases hp : p a with
    | true =>
      rw [List.filter_cons_of_pos hp, List.flatMap_cons, List.flatMap_cons, ih,
        selected a List.mem_cons_self hp]
    | false =>
      rw [List.filter_cons_of_neg (by simp [hp]), List.flatMap_cons, ih,
        others a List.mem_cons_self hp, List.nil_append]

/-- The cells in the data are those of the groups **that are not hidden**. -/
theorem cells_totalsData : (totalsData totals).cells
    = (groupedCells totals).filter fun c => isShownPlace (c.1, c.2.1) := by
  have hcells : (totalsData totals).cells
      = (shownGroups (regroup lastCells (totals.map NodeTotal.placed))).flatMap fun g =>
          (g.members.filter fun c => !isHidden c.1).map fun c => (g.shown.keyText, c.1, c.2) := by
    rw [totalsData, Layout.toValue, Value.cells, List.flatMap_map]
    rfl
  have hshown : ∀ g ∈ regroup lastCells (totals.map NodeTotal.placed),
      g.shown.isHiddenKey = isHidden g.shown.keyText := by
    intro g hg
    obtain ⟨⟨p, hp, -, hshown⟩, -⟩ := exists_of_mem_regroup hg
    obtain ⟨t, -, rfl⟩ := List.mem_map.1 hp
    rw [← hshown]
    rfl
  rw [hcells, groupedCells, List.filter_flatMap]
  refine flatMap_filter_of_forall (fun g hg hp => ?_) fun g hg hp => ?_
  · rw [hshown g hg] at hp
    rw [List.filter_map]
    refine congrArg _ (List.filter_congr fun c _ => ?_)
    rw [Function.comp_apply, isShownPlace, hp, Bool.true_and]
  · rw [hshown g hg] at hp
    rw [List.filter_eq_nil_iff]
    intro c hc
    obtain ⟨_, -, rfl⟩ := List.mem_map.1 hc
    simp [isShownPlace, hp]

/-- A cell of the groups holds **the last total** of its host and metric. -/
theorem mem_groupedCells {host metric : String} {v : Value} :
    (host, metric, v) ∈ groupedCells totals ↔
      ∃ t, (totals.filter fun t => t.place = (host, metric)).getLast? = some t ∧
        .float t.value = v := by
  have hgroups : (host, metric, v) ∈ groupedCells totals ↔
      ∃ g ∈ regroup lastCells (totals.map NodeTotal.placed),
        g.key = .text host ∧ (metric, v) ∈ g.members := by
    rw [groupedCells, List.mem_flatMap]
    refine exists_congr fun g => and_congr_right fun hg => ?_
    rw [key_of_mem_regroup_placed hg]
    simp [and_comm]
  have hplaced : ((totals.map NodeTotal.placed).filter fun p =>
        p.key = .text host ∧ p.member.1 = metric)
      = (totals.filter fun t => t.place = (host, metric)).map NodeTotal.placed := by
    rw [List.filter_map]
    refine congrArg _ (List.filter_congr fun t _ => decide_eq_decide.2 ?_)
    simp [NodeTotal.placed, NodeTotal.place]
  rw [hgroups, exists_mem_cells_iff, hplaced, List.getLast?_map, Option.map_map,
    Option.map_eq_some_iff]
  simp only [Function.comp_apply, NodeTotal.placed, Prod.mk.injEq]
  -- the last total at the place bears the metric
  refine exists_congr fun t => and_congr_right fun hlast => and_iff_right ?_
  exact congrArg Prod.snd (of_decide_eq_true (List.mem_filter.1 (List.mem_of_getLast? hlast)).2)

/-- A place that is shown has its totals among **those that are shown**, and any other has none
there. -/
theorem filter_place_shownTotals (place : String × String) :
    ((shownTotals totals).filter fun t => t.place = place)
      = if isShownPlace place then totals.filter fun t => t.place = place else [] := by
  rw [shownTotals, List.filter_filter]
  split
  · refine List.filter_congr fun t _ => ?_
    by_cases hplace : t.place = place
    · simp [*]
    · simp [hplace]
  · rw [List.filter_eq_nil_iff]
    rintro t - h
    simp only [Bool.and_eq_true, decide_eq_true_eq] at h
    exact absurd (h.1 ▸ h.2) ‹_›

/-- A cell in the data holds **the last total that is shown** of its host and metric. -/
theorem mem_cells_totalsData {host metric : String} {v : Value} :
    (host, metric, v) ∈ (totalsData totals).cells ↔
      ∃ t, ((shownTotals totals).filter fun t => t.place = (host, metric)).getLast? = some t ∧
        .float t.value = v := by
  rw [cells_totalsData, List.mem_filter, mem_groupedCells, filter_place_shownTotals]
  split <;> simp [*]

/-- A host has **one cell** for a metric. -/
theorem places_totalsData_nodup : (totalsData totals).places.Nodup := by
  have hplaces : ((groupedCells totals).map fun c => (GroupKey.text c.1, c.2.1))
      = (regroup lastCells (totals.map NodeTotal.placed)).flatMap fun g =>
          g.members.map fun c => (g.key, c.1) := by
    rw [groupedCells, List.map_flatMap]
    refine List.flatMap_congr fun g hg => ?_
    rw [key_of_mem_regroup_placed hg, List.map_map]
    rfl
  have hgrouped : ((groupedCells totals).map fun c => (c.1, c.2.1)).Nodup := by
    refine List.Nodup.of_map (fun p : String × String => (GroupKey.text p.1, p.2)) ?_
    rw [List.map_map]
    exact hplaces ▸ cell_places_nodup
  rw [Value.places, cells_totalsData]
  exact hgrouped.sublist (List.filter_sublist.map _)

/-- The places of the cells are those **of the totals that are shown**. -/
theorem mem_places_totalsData {place : String × String} :
    place ∈ (totalsData totals).places ↔ place ∈ (shownTotals totals).map NodeTotal.place := by
  have htotals : place ∈ (shownTotals totals).map NodeTotal.place ↔
      ∃ t, ((shownTotals totals).filter fun t => t.place = place).getLast? = some t := by
    rw [← Option.isSome_iff_exists, List.getLast?_isSome]
    simp [List.filter_eq_nil_iff]
  rw [htotals, Value.places, List.mem_map]
  constructor
  · rintro ⟨⟨host, metric, v⟩, hmem, rfl⟩
    obtain ⟨t, hlast, -⟩ := mem_cells_totalsData.1 hmem
    exact ⟨t, hlast⟩
  · rintro ⟨t, hlast⟩
    exact ⟨(place.1, place.2, .float t.value), mem_cells_totalsData.2 ⟨t, hlast, rfl⟩, rfl⟩

/-- There are as many cells as totals that are shown if **no place has two** of these. -/
theorem length_cells_totalsData_iff :
    (totalsData totals).cells.length = (shownTotals totals).length ↔
      ((shownTotals totals).map NodeTotal.place).Nodup := by
  have h := length_eq_iff_nodup (@places_totalsData_nodup totals) fun _ => mem_places_totalsData
  rwa [Value.places, List.length_map, List.length_map] at h

/-- Where no place has two totals that are shown, **each of these** has its cell. -/
theorem mem_cells_of_nodup (h : ((shownTotals totals).map NodeTotal.place).Nodup) {t : NodeTotal}
    (ht : t ∈ shownTotals totals) :
    (t.host, t.metric, .float t.value) ∈ (totalsData totals).cells := by
  obtain ⟨⟨host, metric, v⟩, hcell, hplace⟩ :=
    List.mem_map.1 (mem_places_totalsData.2 (List.mem_map_of_mem ht))
  obtain ⟨rfl, rfl⟩ := Prod.mk.inj hplace
  obtain ⟨u, hlast, rfl⟩ := mem_cells_totalsData.1 hcell
  obtain ⟨hu, hsame⟩ := List.mem_filter.1 (List.mem_of_getLast? hlast)
  obtain rfl : u = t := List.inj_on_of_nodup_map h hu ht (of_decide_eq_true hsame)
  exact hcell

/-- Where no node has two totals of a metric, no place has two **if its totals are of one node**. -/
theorem places_nodup_iff (hkeys : (totals.map NodeTotal.key).Nodup) :
    (totals.map NodeTotal.place).Nodup ↔
      ∀ t ∈ totals, ∀ u ∈ totals, t.place = u.place → t.node = u.node := by
  constructor
  · intro h t ht u hu hplace
    rw [List.inj_on_of_nodup_map h ht hu hplace]
  · intro h
    -- node, host and metric are the whole key
    refine hkeys.of_map.map_on fun t ht u hu hplace => ?_
    obtain ⟨hhost, hmetric⟩ := Prod.mk.inj hplace
    refine List.inj_on_of_nodup_map hkeys ht hu ?_
    rw [NodeTotal.key, NodeTotal.key, h t ht u hu hplace, hhost, hmetric]

/-- How the data of the node summary **hold totals**: a host has one cell for a metric, and the cell
holds the last of its totals. So each total has a cell of its own exactly if no two nodes share a
host and a metric. -/
structure HoldsTotals (data : Value) (totals : List NodeTotal) : Prop where
  differ : data.places.Nodup
  last : ∀ host metric v, (host, metric, v) ∈ data.cells ↔
    ∃ t, (totals.filter fun t => t.place = (host, metric)).getLast? = some t ∧ .float t.value = v
  all : (∀ t ∈ totals, (t.host, t.metric, .float t.value) ∈ data.cells) ∧
      data.cells.length = totals.length ↔
    ∀ t ∈ totals, ∀ u ∈ totals, t.place = u.place → t.node = u.node

/-- The data made of totals **hold those that are shown**. -/
theorem holdsTotals_totalsData (hkeys : (totals.map NodeTotal.key).Nodup) :
    HoldsTotals (totalsData totals) (shownTotals totals) := by
  refine ⟨places_totalsData_nodup, fun _ _ _ => mem_cells_totalsData, ?_⟩
  have hshown : ((shownTotals totals).map NodeTotal.key).Nodup :=
    hkeys.sublist (List.filter_sublist.map _)
  rw [← places_nodup_iff hshown, ← length_cells_totalsData_iff]
  refine ⟨And.right, fun h => ⟨fun t ht => ?_, h⟩⟩
  exact mem_cells_of_nodup (length_cells_totalsData_iff.1 h) ht

end Totals

/-! ## The answer -/

section Answer

variable {server : Server} {request : Request} {ids : PathIds}

/-- The rows of the node summary are **the sums of nodes**. -/
theorem exists_scope_of_rows {backend : Backend} {now : Int} {queryString : String}
    {rows : List Row}
    (h : (DataRoute.summary .nodes).rows backend now ids queryString = .ok rows) :
    ∃ scope, SummaryQuery.nodes.scope ids = .ok scope ∧
      rows = (backend.store.nodeSummary scope now).map nodeSummaryRow := by
  obtain ⟨checked, hcheck, hrun⟩ := bind_eq_ok_iff.1 h
  obtain ⟨scope, hscope, rfl⟩ := map_eq_ok_iff.1 hcheck
  obtain ⟨store, hquery, rfl⟩ := map_eq_ok_iff.1 hrun
  obtain ⟨-, rfl⟩ := Backend.query_eq_ok_iff.1 hquery
  exact ⟨scope, hscope, rfl⟩

/-- The data of the node summary are **made of the totals** of its rows. -/
theorem data_of_nodeSummary {sums : List (Rollup Entity)}
    (found : findRoute server.config.basePath request.path = some (.data (.summary .nodes), ids))
    (get : request.method = "GET")
    (hrows : (DataRoute.summary .nodes).rows server.backend server.second ids request.queryString
      = .ok (sums.map nodeSummaryRow)) :
    (server.answer request).1.code = 200 ∧
      (server.answer request).1.body.toValue.field? "data"
        = some (totalsData (sums.filterMap Rollup.total?)) := by
  have hshape := shapeNested_eq .nodeSummaryRow ((sums.map nodeSummaryRow).map .dict) "host"
  rw [mapM_placeCell_nodeSummaryRow] at hshape
  have hfetch : (DataRoute.summary .nodes).fetch server.backend server.second ids
      request.queryString = .ok ⟨(sums.map nodeSummaryRow).length, _⟩ :=
    DataRoute.fetch_eq_ok_iff.2 ⟨_, hrows, hshape, rfl⟩
  rw [answer_data found get, Server.dataBody, hfetch]
  exact ⟨rfl, rfl⟩

/-- **The node summary holds the last total of a host.** A `GET` request to the node summary that is
answered with 200 has data that hold the totals of the nodes in its scope, but for those of a hidden
host or metric, and the records of its rows are those of the totals. So a host has one cell for a
metric, with the last of its totals, and each total has a cell of its own exactly if no two nodes
share a host and a metric. -/
theorem node_summary_holds_the_last_total_of_a_host
    (found : findRoute server.config.basePath request.path = some (.data (.summary .nodes), ids))
    (get : request.method = "GET") (answered : (server.answer request).1.code = 200) :
    ∃ scope rows data, SummaryQuery.nodes.scope ids = .ok scope ∧
      (DataRoute.summary .nodes).rows server.backend server.second ids request.queryString
        = .ok rows ∧
      RecordKind.nodeSummaryRow.decoded rows
        = (server.backend.store.nodeTotals scope server.second).map NodeTotal.record ∧
      (server.answer request).1.body.toValue.field? "data" = some data ∧
      HoldsTotals data (shownTotals (server.backend.store.nodeTotals scope server.second)) := by
  obtain ⟨rows, hrows, -⟩ := (code_answer_eq_ok_iff found get).1 answered
  obtain ⟨scope, hscope, rfl⟩ := exists_scope_of_rows hrows
  exact ⟨scope, _, _, hscope, hrows, decoded_nodeSummaryRow _,
    (data_of_nodeSummary found get hrows).2, holdsTotals_totalsData (nodeTotals_keys_nodup ..)⟩

end Answer

/-- Two nodes of one cluster that share their host, with a sample each. -/
def twinNodes : Store :=
  { Store.empty with
    clusters := [⟨some 1, some "main"⟩]
    nodes := [⟨some 1, some 1, some "alpha", none, none, none, none, none, none⟩,
      ⟨some 2, some 1, some "alpha", none, none, none, none, none, none⟩]
    metricNames := [⟨some 1, some "cpu", none, none⟩]
    metricLabels := [⟨some 1, some "total"⟩]
    samples := [⟨some 1, some 1, some 0, some 0, some 1, some 1, some 90, some (.number 10.0)⟩,
      ⟨some 1, some 2, some 0, some 0, some 1, some 1, some 90, some (.number 30.0)⟩] }

/-- The sums of the two nodes. -/
def twinSums : List (Rollup Entity) :=
  [⟨⟨some 1, some "alpha"⟩, some "cpu", some 90, some 10.0⟩,
    ⟨⟨some 2, some "alpha"⟩, some "cpu", some 90, some 30.0⟩]

/-- The totals of the two nodes. -/
def twinTotals : List NodeTotal := [⟨1, "alpha", "cpu", 10.0⟩, ⟨2, "alpha", "cpu", 30.0⟩]

/-- A request for the summary of the two nodes. -/
def twinRequest : Request := getTarget "/api/v1/summary/clusters/1/nodes"

theorem found_twinRequest : findRoute (serverOn twinNodes).config.basePath twinRequest.path
    = some (.data (.summary .nodes), [(.cluster, "1")]) := by
  decide +kernel

theorem nodeSummary_twinNodes : twinNodes.nodeSummary (clusterScope 1) 100 = twinSums := by
  -- groups and sums stand in order as they come, so neither sorting moves them
  have hrollup : rollup nodeKey (EntityKind.node.join twinNodes
      (twinNodes.latestLabelled (clusterScope 1) [] 100)) = twinSums := by
    rw [rollup, sortBy_of_pairwise (by decide)]
    rfl
  exact (congrArg (sortBy nodeOrder) hrollup).trans (sortBy_of_pairwise (by decide))

/-- The rows of the request are **the sums of the two nodes**. -/
theorem rows_twinRequest :
    (DataRoute.summary .nodes).rows (serverOn twinNodes).backend (serverOn twinNodes).second
      [(.cluster, "1")] twinRequest.queryString = .ok (twinSums.map nodeSummaryRow) := by
  rw [← nodeSummary_twinNodes]
  rfl

theorem total?_twinSums : twinSums.filterMap Rollup.total? = twinTotals := by
  have h10 : Decimal.isFinite 10.0 = true ∧ Decimal.roundTo 2 10.0 = 10.0 := by decide +kernel
  have h30 : Decimal.isFinite 30.0 = true ∧ Decimal.roundTo 2 30.0 = 30.0 := by decide +kernel
  simp [twinSums, twinTotals, Rollup.total?, h10, h30]

/-- Of the two nodes that share a host, the second has the cell. -/
theorem last_total_of_twin_nodes :
    findRoute (serverOn twinNodes).config.basePath twinRequest.path
        = some (.data (.summary .nodes), [(.cluster, "1")]) ∧
      twinRequest.method = "GET" ∧ ((serverOn twinNodes).answer twinRequest).1.code = 200 ∧
      ∃ data, ((serverOn twinNodes).answer twinRequest).1.body.toValue.field? "data" = some data ∧
        HoldsTotals data twinTotals ∧ ("alpha", "cpu", .float 30.0) ∈ data.cells := by
  have hanswered := (data_of_nodeSummary found_twinRequest rfl rows_twinRequest).1
  obtain ⟨scope, rows, data, hscope, -, -, hdata, htotals⟩ :=
    node_summary_holds_the_last_total_of_a_host found_twinRequest rfl hanswered
  obtain rfl : clusterScope 1 = scope := Except.ok.inj hscope
  have htwins : shownTotals ((serverOn twinNodes).backend.store.nodeTotals (clusterScope 1)
      (serverOn twinNodes).second) = twinTotals :=
    congrArg shownTotals
      ((congrArg (List.filterMap Rollup.total?) nodeSummary_twinNodes).trans total?_twinSums)
  rw [htwins] at htotals
  exact ⟨found_twinRequest, rfl, hanswered, data, hdata, htotals,
    (htotals.last _ _ _).2 ⟨_, rfl, rfl⟩⟩

/-- Of two nodes that share a host, the total of the first is **in no cell**. -/
theorem first_total_of_twin_nodes_is_lost :
    twinNodes.HasUniqueIds ∧
      ((serverOn twinNodes).answer twinRequest).1.code = 200 ∧
      (DataRoute.summary .nodes).rows (serverOn twinNodes).backend (serverOn twinNodes).second
        [(.cluster, "1")] twinRequest.queryString = .ok (twinSums.map nodeSummaryRow) ∧
      RecordKind.nodeSummaryRow.decoded (twinSums.map nodeSummaryRow)
        = twinTotals.map NodeTotal.record ∧
      ∃ data, ((serverOn twinNodes).answer twinRequest).1.body.toValue.field? "data" = some data ∧
        data.cells = [("alpha", "cpu", .float 30.0)] := by
  obtain ⟨hanswered, hdata⟩ := data_of_nodeSummary found_twinRequest rfl rows_twinRequest
  rw [total?_twinSums] at hdata
  have hrecords := decoded_nodeSummaryRow twinSums
  rw [total?_twinSums] at hrecords
  exact ⟨by constructor <;> decide, hanswered, rows_twinRequest, hrecords, _, hdata, rfl⟩

end ClusterMetrics
