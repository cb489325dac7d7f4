import ClusterMetrics.Proofs.NodeSummaryCells
import ClusterMetrics.Proofs.SeriesRecords

/-! # Silent cells

A cell is silent if none of its samples holds a value. The mean of a silent cell is not a number,
and its row is skipped; so is the row of a snapshot or a summary without values. A rollup of a
series adds up means that are no numbers to zero, and zero is a value: its silent cells are
answered.

* **`IsSilent`**: whether samples hold no value. **`SeriesQuery.valueOf_of_isSilent`**: the value of
  a silent cell.
* **`Rollup.IsSilent`**, **`value_of_isSilent`**: sums of no values.
* **`Store.SkipsSilentRows`**: snapshots and summaries skip silent rows.
* **`only_series_rollups_answer_silent_cells`**: which silent cells are answered, and with what. -/

namespace ClusterMetrics

open ClusterMetrics.Decimal

/-! ## Series -/

/-- Whether **none of the samples** holds a value. -/
def IsSilent (samples : List KeyedSample) : Prop := ∀ s ∈ samples, s.value = none

/-- Values that are all absent are **no numbers**. -/
theorem numbers_eq_nil {values : List (Option Reading)} (h : ∀ v ∈ values, v = none) :
    numbers values = [] := by
  have hnone : values.filterMap (fun v => v.bind Reading.number?) = [] := by
    rw [List.filterMap_eq_nil_iff]
    intro v hv
    rw [h v hv]
    rfl
  rw [numbers, hnone, List.filter_nil]

theorem isNaN_nan : isNaN nan = true := rfl

/-- A sum of means of no values **is zero**. -/
theorem sumOfMeans_eq_zero {α κ : Type} [DecidableEq κ] (child : α → κ)
    {value : α → Option Reading} {members : List α} (h : ∀ m ∈ members, value m = none) :
    sumOfMeans child value members = 0.0 := by
  have hmeans : ∀ x ∈ childMeans child value members, x = nan := by
    intro x hx
    obtain ⟨g, hg, rfl⟩ := List.mem_map.1 hx
    obtain ⟨-, hmembers⟩ := mem_groupBy.1 hg
    have hnone : numbers (g.2.map value) = [] := by
      refine numbers_eq_nil fun v hv => ?_
      obtain ⟨m, hm, rfl⟩ := List.mem_map.1 hv
      rw [hmembers] at hm
      exact h m (List.mem_filter.1 hm).1
    rw [hnone]
    rfl
  -- no mean is a number, so nothing is added to the sum of no numbers
  have hfilter : (childMeans child value members).filter (fun x => !isNaN x) = [] := by
    rw [List.filter_eq_nil_iff]
    intro x hx
    rw [hmeans x hx, isNaN_nan]
    decide
  rw [sumOfMeans_eq, hfilter]
  rfl

namespace SeriesQuery

/-- Whether a series **adds up** cells of children. -/
def isRollup : SeriesQuery → Bool
  | entities _ => false
  | pods => true
  | clusterSummary => true

/-- The value of a silent cell: **zero** of a rollup, and no number of an entity. -/
def silentValue (query : SeriesQuery) : Float := if query.isRollup then 0.0 else nan

/-- Members without values have **the silent value**. -/
theorem valueOf_of_isSilent (query : SeriesQuery) {members : List KeyedSample}
    (h : IsSilent members) : query.valueOf members = query.silentValue := by
  cases query with
  | entities kind =>
    have hnone : numbers (members.map (·.value)) = [] := by
      refine numbers_eq_nil fun v hv => ?_
      obtain ⟨s, hs, rfl⟩ := List.mem_map.1 hv
      exact h s hs
    rw [valueOf, hnone]
    rfl
  | pods => exact sumOfMeans_eq_zero _ h
  | clusterSummary => exact sumOfMeans_eq_zero _ h

/-- The silent value is **finite** of a rollup only. -/
theorem isFinite_silentValue (query : SeriesQuery) :
    isFinite query.silentValue = query.isRollup := by
  have hzero : isFinite 0.0 = true := rfl
  have hnan : isFinite nan = false := rfl
  cases query with
  | entities kind => exact hnan
  | pods => exact hzero
  | clusterSummary => exact hzero

end SeriesQuery

/-! ## Sums of newest samples -/

/-- Whether **none of the rows** that a sum is made of holds a value. -/
def Rollup.IsSilent {α : Type} (subjectKey : α → List Cell) (rows : List (LabelledSample × α))
    (r : Rollup α) : Prop :=
  ∀ m ∈ rows, sumKey subjectKey m = r.key subjectKey → m.1.sample.value = none

/-- A sum of no values is **absent**. -/
theorem value_of_isSilent {α : Type} {subjectKey : α → List Cell}
    {rows : List (LabelledSample × α)} {r : Rollup α} (hr : r ∈ rollup subjectKey rows)
    (h : r.IsSilent subjectKey rows) : r.value = none := by
  have hnone : ((((rows.filter fun m => sumKey subjectKey m = r.key subjectKey).map
      (·.1.sample)).map (·.value)).filterMap id) = [] := by
    rw [List.map_map, List.filterMap_map, List.filterMap_eq_nil_iff]
    intro m hm
    obtain ⟨hm, hkey⟩ := List.mem_filter.1 hm
    exact h m hm (of_decide_eq_true hkey)
  rw [eq_ofSamples_of_mem_rollup hr, Rollup.ofSamples, Reading.sum, hnone]

/-- A row **without a value** is no record. -/
theorem decode_ne_ok_of_null {kind : RecordKind} {row : Row}
    (hfield : ("value", .sample) ∈ kind.fields ∨ ("value", .wholeSample) ∈ kind.fields)
    (hnull : row.get? "value" = some .null) (record : Record) :
    kind.decode row ≠ .ok record := by
  intro h
  rcases hfield with hfield | hfield <;>
  · obtain ⟨v, w, -, hget, hv⟩ := exists_coerce_of_decode h hfield
    obtain rfl := Option.some.inj (hnull.symm.trans hget)
    cases hv

/-- How snapshots and summaries treat **rows without values**: no such row is a record. -/
structure Store.SkipsSilentRows (store : Store) (scope : Scope) (filter : MetricFilter)
    (now : Int) : Prop where
  entities : ∀ kind, ∀ r ∈ store.snapshot kind scope filter now, r.1.sample.value = none →
    ∀ record, (SnapshotQuery.entities kind).record.decode (snapshotRow kind r) ≠ .ok record
  pods : ∀ r ∈ store.podSnapshot scope filter now,
    r.IsSilent podKey (store.joinPods scope (store.latestLabelled scope filter now)) →
    ∀ record, SnapshotQuery.pods.record.decode (podSnapshotRow r) ≠ .ok record
  clusters : ∀ r ∈ store.clusterSummary scope now,
    r.IsSilent (fun c => [.ofInt c.id, .ofText c.name])
      (store.joinClusters (store.latestLabelled scope [] now)) →
    ∀ record, RecordKind.clusterSummaryRow.decode (clusterSummaryRow r) ≠ .ok record
  nodes : ∀ r ∈ store.nodeSummary scope now,
    r.IsSilent nodeKey (EntityKind.node.join store (store.latestLabelled scope [] now)) →
    ∀ record, RecordKind.nodeSummaryRow.decode (nodeSummaryRow r) ≠ .ok record

/-- Snapshots and summaries **skip** rows without values. -/
theorem skipsSilentRows (store : Store) (scope : Scope) (filter : MetricFilter) (now : Int) :
    store.SkipsSilentRows scope filter now := by
  constructor
  · rintro kind ⟨m, e⟩ - hnone
    refine decode_ne_ok_of_null (.inl (by cases kind <;> decide)) ?_
    have hget : (snapshotRow kind (m, e)).get? "value" = some (readingValue m.sample.value) := by
      cases kind <;> rfl
    rw [hget, hnone]
    rfl
  · intro r hr hsilent
    refine decode_ne_ok_of_null (.inl (by decide)) ?_
    have hget : (podSnapshotRow r).get? "value" = some (sumValue r.value) := rfl
    rw [hget, value_of_isSilent (mem_sortBy.1 hr) hsilent]
    rfl
  · intro r hr hsilent
    refine decode_ne_ok_of_null (.inr (by decide)) ?_
    have hget : (clusterSummaryRow r).get? "value" = some (sumValue r.value) := rfl
    rw [hget, value_of_isSilent (mem_sortBy.1 hr) hsilent]
    rfl
  · intro r hr hsilent
    refine decode_ne_ok_of_null (.inl (by decide)) ?_
    have hget : (nodeSummaryRow r).get? "value" = some (sumValue r.value) := rfl
    rw [hget, value_of_isSilent (mem_sortBy.1 hr) hsilent]
    rfl

/-! ## Answers -/

/-- **Only rollups of series answer silent cells.** Whenever a series is answered, its cells are
those of the places that have samples, and of them the cells with finite values are its records. A
cell whose samples hold no value is a record, of zero, if the series is a rollup, and is skipped if
it is of entities. Snapshots and summaries skip every row whose samples hold no value. -/
theorem only_series_rollups_answer_silent_cells (backend : Backend) (scope : Scope)
    (filter : MetricFilter) (rule : BucketRule) (now : Int) :
    (∀ (query : SeriesQuery) (rows : List Row), query.run backend scope filter rule = .ok rows →
      ∃ cells, query.Answers backend.store scope filter rule rows cells ∧
        ∀ c ∈ cells, IsSilent (query.members backend.store scope filter rule c.place) →
          c.isFinite = query.isRollup ∧ (query.isRollup = true → c.value = 0.0)) ∧
    backend.store.SkipsSilentRows scope filter now := by
  refine ⟨fun query rows answered => ?_, skipsSilentRows ..⟩
  obtain ⟨cells, -, hanswers⟩ := SeriesQuery.exists_answers (SeriesQuery.rows_of_run answered)
  refine ⟨cells, hanswers, fun c hc hsilent => ?_⟩
  have hvalue : c.value = query.silentValue :=
    (hanswers.values c hc).trans (query.valueOf_of_isSilent hsilent)
  constructor
  · rw [SeriesCell.isFinite, hvalue, query.isFinite_silentValue]
  · intro hrollup
    rw [hvalue, SeriesQuery.silentValue, if_pos hrollup]

/-- Two pods of one namespace, with a container each. The sample of the first holds no value. -/
def quietPod : Store :=
  { onePod with
    pods := [⟨some 5, some "shop", some 7⟩, ⟨some 6, some "site", some 7⟩]
    podContainers := [⟨some 1, some "c1", some 5, none⟩, ⟨some 2, some "c2", some 6, none⟩]
    samples := [⟨some 1, some 1, some 0, some 1, some 1, some 1, some 60, none⟩,
      ⟨some 1, some 1, some 0, some 2, some 1, some 1, some 60, some (.number 5.0)⟩] }

/-- The scope of the containers of the cluster. -/
def containerScope : Scope := ⟨some 1, none, .container none, none, none⟩

/-- Where the cell of the first pod lies. -/
def quietPlace : List Cell × Int :=
  ([.int 5, .text "shop", .text "prod", .text "cpu"], 60)

theorem members_quietPlace :
    SeriesQuery.pods.members quietPod containerScope [] firstMinutes quietPlace
      = [⟨[.int 1, .text "total", .int 5, .text "shop", .text "prod", .text "cpu"], 60, none⟩] :=
  rfl

/-- The pod without a value has a cell of zero, and its container is skipped. -/
theorem silent_pod_and_its_container :
    (∃ rows cells,
      SeriesQuery.pods.run (.ofStore quietPod) containerScope [] firstMinutes = .ok rows ∧
        SeriesQuery.pods.Answers quietPod containerScope [] firstMinutes rows cells ∧
          ∃ c ∈ cells, c.place = quietPlace ∧ c.value = 0.0) ∧
    (∃ rows cells, (SeriesQuery.entities .container).run (.ofStore quietPod) containerScope []
        firstMinutes = .ok rows ∧
      (SeriesQuery.entities .container).Answers quietPod containerScope [] firstMinutes rows
        cells ∧
        ∃ c ∈ cells, c.key = [.text "web", .int 1, .text "cpu", .text "total"] ∧
          c.isFinite = false) := by
  obtain ⟨hseries, -⟩ := only_series_rollups_answer_silent_cells (.ofStore quietPod)
    containerScope [] firstMinutes 100
  constructor
  · obtain ⟨rows, hrun⟩ : ∃ rows, SeriesQuery.pods.run (.ofStore quietPod) containerScope []
        firstMinutes = .ok rows := ⟨_, rfl⟩
    obtain ⟨cells, hanswers, hsilent⟩ := hseries _ rows hrun
    have hfilled : quietPlace ∈ cells.map SeriesCell.place :=
      (hanswers.filled quietPlace).2 (List.cons_ne_nil _ _)
    obtain ⟨c, hc, hplace⟩ := List.mem_map.1 hfilled
    refine ⟨rows, cells, hrun, hanswers, c, hc, hplace, (hsilent c hc ?_).2 rfl⟩
    intro s hs
    rw [hplace] at hs
    obtain rfl := List.mem_singleton.1 (members_quietPlace ▸ hs)
    rfl
  · let place : List Cell × Int := ([.text "web", .int 1, .text "cpu", .text "total"], 60)
    have hmembers : (SeriesQuery.entities .container).members quietPod containerScope []
        firstMinutes place = [⟨place.1, 60, none⟩] := rfl
    obtain ⟨rows, hrun⟩ : ∃ rows, (SeriesQuery.entities .container).run (.ofStore quietPod)
        containerScope [] firstMinutes = .ok rows := ⟨_, rfl⟩
    obtain ⟨cells, hanswers, hsilent⟩ := hseries _ rows hrun
    have hfilled : place ∈ cells.map SeriesCell.place :=
      (hanswers.filled place).2 (List.cons_ne_nil _ _)
    obtain ⟨c, hc, hplace⟩ := List.mem_map.1 hfilled
    refine ⟨rows, cells, hrun, hanswers, c, hc, congrArg Prod.fst hplace, (hsilent c hc ?_).1⟩
    intro s hs
    rw [hplace] at hs
    obtain rfl := List.mem_singleton.1 (hmembers ▸ hs)
    rfl

/-- The cells of the two pods. -/
def quietCells : List SeriesCell :=
  [⟨quietPlace.1, quietPlace.2, 0.0⟩,
    ⟨[.int 6, .text "site", .text "prod", .text "cpu"], 60, 5.0⟩]

/-- The series of the two pods is answered **by both cells**. -/
theorem cells_quietPod :
    SeriesQuery.pods.cells quietPod containerScope [] firstMinutes = .ok quietCells := by
  have hb : firstMinutes.bucketing = .ok (.stepped .minute 1) := rfl
  have hm : cellMeans (.stepped .minute 1)
      (SeriesQuery.pods.samples quietPod containerScope [] firstMinutes) = .ok
        [⟨.int 1 :: .text "total" :: quietPlace.1, 60, nan⟩,
          ⟨[.int 2, .text "total", .int 6, .text "site", .text "prod", .text "cpu"], 60, 5.0⟩] :=
    rfl
  rw [SeriesQuery.cells_of_cellMeans hb hm]
  -- the cells stand in order as they come
  exact congrArg Except.ok (sortBy_of_pairwise (by decide))

/-- A pod whose only sample holds no value **is answered** with zero, and no row is skipped. -/
theorem silent_pod_is_answered_with_zero :
    ∃ rows, SeriesQuery.pods.run (.ofStore quietPod) containerScope [] firstMinutes = .ok rows ∧
      IsSilent (SeriesQuery.pods.members quietPod containerScope [] firstMinutes quietPlace) ∧
      SeriesQuery.pods.point ⟨quietPlace.1, quietPlace.2, 0.0⟩
        ∈ SeriesQuery.pods.record.decoded rows ∧
      (decodeRows SeriesQuery.pods.record (rows.map .dict)).skipped = 0 := by
  obtain ⟨rows, hrun⟩ : ∃ rows, SeriesQuery.pods.run (.ofStore quietPod) containerScope []
      firstMinutes = .ok rows := ⟨_, rfl⟩
  obtain ⟨cells, hcells, hanswers⟩ := SeriesQuery.exists_answers (SeriesQuery.rows_of_run hrun)
  obtain rfl := Except.ok.inj (cells_quietPod.symm.trans hcells)
  have hfinite : quietCells.filter SeriesCell.isFinite = quietCells :=
    List.filter_eq_self.2 (by decide)
  refine ⟨rows, hrun, ?_, ?_, ?_⟩
  · intro s hs
    obtain rfl := List.mem_singleton.1 (members_quietPlace ▸ hs)
    rfl
  · rw [hanswers.records, hfinite]
    exact List.mem_cons_self
  · rw [hanswers.skipped, List.length_eq_zero_iff, List.filter_eq_nil_iff]
    exact fun c hc => by simp [List.filter_eq_self.1 hfinite c hc]

end ClusterMetrics
