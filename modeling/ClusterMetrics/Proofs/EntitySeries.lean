import ClusterMetrics.Proofs.NewestSamples
import ClusterMetrics.Proofs.SeriesCells

/-! # Series of entities

The series of the entities of one kind splits the samples of its range. A sample that the catalog
knows, and whose cell has no absent part, falls into one cell of the answer; every cell of the
answer has samples, and its value is their mean.

* **`Store.cellKey?`**, **`Store.fallsIn`**: the cell that a sample falls into.
* **`Store.cellSamples`**: the samples of a cell.
* **`series_cells_partition_the_samples`**: the cells of the answer are those that have samples. -/

namespace ClusterMetrics

open ClusterMetrics.Decimal

/-- The **key of the cell** of a sample: entity name, entity identifier, metric and label, if the
catalog knows them and none is absent. -/
def Store.cellKey? (store : Store) (kind : EntityKind) (s : Sample) : Option (List Cell) :=
  ((store.entityRow? kind s).map entityOrder).filter isComplete

/-- Whether a sample **falls into** a cell: by the key and by the bucket. -/
def Store.fallsIn (store : Store) (kind : EntityKind) (rule : BucketRule) (s : Sample)
    (c : SeriesCell) : Bool :=
  store.cellKey? kind s = some c.key && s.ts.bind rule.bucket? = some c.bucket

/-- The **samples of a cell**. -/
def Store.cellSamples (store : Store) (kind : EntityKind) (scope : Scope) (filter : MetricFilter)
    (rule : BucketRule) (c : SeriesCell) : List Sample :=
  store.samples.filter fun s => s.isInRange scope filter rule && store.fallsIn kind rule s c

section

variable {store : Store} {kind : EntityKind} {scope : Scope} {filter : MetricFilter}
  {rule : BucketRule}

/-- The sample of a series that a **stored sample** makes. -/
def Store.keyedRow? (store : Store) (kind : EntityKind) (s : Sample) : Option KeyedSample :=
  (store.entityRow? kind s).map fun r => keyed (entityOrder r) r.1

/-- The samples of a series are made **from the samples of its range**. -/
theorem entitySamples_eq_filterMap (unique : store.HasUniqueIds) :
    store.entitySamples kind scope filter rule
      = (store.samples.filter fun s => s.isInRange scope filter rule).filterMap
          (store.keyedRow? kind) := by
  rw [Store.entitySamples, Store.inRange, join_labelled_eq_filterMap unique, List.map_filterMap]
  rfl

/-- What a stored sample makes has its key, **its time and its value**. -/
theorem keyedRow?_eq_some_iff {s : Sample} {k : KeyedSample} :
    store.keyedRow? kind s = some k ↔
      ((store.entityRow? kind s).map entityOrder = some k.key) ∧ k.ts = s.ts.getD 0 ∧
        k.value = s.value := by
  rw [Store.keyedRow?]
  cases hr : store.entityRow? kind s with
  | none => simp
  | some r =>
    have hs : r.1.sample = s := (label?_eq_some_iff.1 (entityRow?_eq_some_iff.1 hr).1).1
    subst hs
    obtain ⟨key, ts, value⟩ := k
    simp [keyed, eq_comm]

/-- A sample of the range **falls into a cell** if what it makes is complete and of its place. -/
theorem fallsIn_eq_any {bucketing : Bucketing} (hb : rule.bucketing = .ok bucketing) {s : Sample}
    (hs : s.isInRange scope filter rule = true) (c : SeriesCell) :
    store.fallsIn kind rule s c
      = (store.keyedRow? kind s).any fun k => isComplete k.key && k.place bucketing = c.place := by
  obtain ⟨t, hts, hbucket⟩ := exists_bucket_of_isInRange hb hs
  rw [Store.fallsIn, hbucket, Store.cellKey?]
  cases hk : store.keyedRow? kind s with
  | none =>
    have hnone : store.entityRow? kind s = none := by simpa [Store.keyedRow?] using hk
    simp [hnone]
  | some k =>
    obtain ⟨hkey, hkts, -⟩ := keyedRow?_eq_some_iff.1 hk
    have hkplace : k.place bucketing = (k.key, bucketing.bucket t) := by
      rw [KeyedSample.place, hkts, hts]
      rfl
    rw [hkey, Option.any_some, hkplace, SeriesCell.place, Bool.eq_iff_iff]
    simp only [Bool.and_eq_true, decide_eq_true_eq, Option.filter_eq_some_iff, Option.some.injEq,
      Prod.mk.injEq]
    constructor
    · rintro ⟨⟨heq, hcomplete⟩, hbucket⟩
      exact ⟨heq ▸ hcomplete, heq, hbucket⟩
    · rintro ⟨hcomplete, heq, hbucket⟩
      exact ⟨⟨heq, heq ▸ hcomplete⟩, hbucket⟩

variable (kind scope filter) in
/-- The values of a place of the series are those **of the samples of the cell**. -/
theorem place_values_eq {bucketing : Bucketing} (unique : store.HasUniqueIds)
    (hb : rule.bucketing = .ok bucketing) (c : SeriesCell) :
    ((store.entitySamples kind scope filter rule).filter fun k =>
        isComplete k.key && k.place bucketing = c.place).map (·.value)
      = (store.cellSamples kind scope filter rule c).map (·.value) := by
  rw [entitySamples_eq_filterMap unique, map_filter_filterMap (h := fun s : Sample => s.value)
    (fun _ _ h => (keyedRow?_eq_some_iff.1 h).2.2), List.filter_filter, Store.cellSamples]
  congr 1
  apply List.filter_congr
  intro s _
  cases hs : s.isInRange scope filter rule with
  | false => simp
  | true => rw [fallsIn_eq_any hb hs, Bool.and_true, Bool.true_and]

/-- A sample of the range that falls into a cell makes a sample **of its place**. -/
theorem exists_place_of_fallsIn {bucketing : Bucketing} (unique : store.HasUniqueIds)
    (hb : rule.bucketing = .ok bucketing) {s : Sample} (hs : s ∈ store.samples)
    (hrange : s.isInRange scope filter rule = true) {c : SeriesCell}
    (h : store.fallsIn kind rule s c = true) :
    ∃ k ∈ store.entitySamples kind scope filter rule,
      isComplete k.key = true ∧ k.place bucketing = c.place := by
  rw [fallsIn_eq_any hb hrange, Option.any_eq_true_iff_get] at h
  obtain ⟨hsome, hplace⟩ := h
  rw [Bool.and_eq_true, decide_eq_true_eq] at hplace
  refine ⟨(store.keyedRow? kind s).get hsome, ?_, hplace⟩
  rw [entitySamples_eq_filterMap unique, List.mem_filterMap]
  exact ⟨s, List.mem_filter.2 ⟨hs, hrange⟩, (Option.some_get hsome).symm⟩

/-- **The cells of a series partition its samples.** Whenever the series of the entities of a kind
is answered, every sample of the range that the catalog knows, and whose cell has no absent part,
falls into exactly one cell of the answer; every cell of the answer has samples, and its value is
the mean of the numbers among theirs; and the cells are strictly in the order of bucket, entity,
metric and label. -/
theorem series_cells_partition_the_samples {backend : Backend}
    (unique : backend.store.HasUniqueIds) {rows : List Row}
    (answered : (SeriesQuery.entities kind).run backend scope filter rule = .ok rows) :
    ∃ cells : List SeriesCell,
      rows = cells.map (seriesRow (SeriesQuery.entities kind).keyNames) ∧
        (∀ s ∈ backend.store.samples, s.isInRange scope filter rule = true →
          (backend.store.cellKey? kind s).isSome = true →
            ∃! c, c ∈ cells ∧ backend.store.fallsIn kind rule s c = true) ∧
        (∀ c ∈ cells, backend.store.cellSamples kind scope filter rule c ≠ [] ∧
          c.value = mean (numbers
            ((backend.store.cellSamples kind scope filter rule c).map (·.value)))) ∧
        cells.Pairwise fun c d => keyLt (c.orderKey id) (d.orderKey id) = true := by
  obtain ⟨cells, hcells, hrows⟩ := SeriesQuery.rows_eq_ok_iff.1 (SeriesQuery.rows_of_run answered)
  refine ⟨cells, hrows, ?_⟩
  rcases SeriesQuery.cells_eq_ok_iff.1 hcells with ⟨hnone, rfl⟩ | ⟨-, bucketing, means, hb, hm, rfl⟩
  · -- without samples no sample of the range has a key
    refine ⟨?_, by simp, List.Pairwise.nil⟩
    intro s hs hrange hkey
    have hnone' : (backend.store.samples.filter fun s => s.isInRange scope filter rule).filterMap
        (backend.store.keyedRow? kind) = [] := by
      rw [← entitySamples_eq_filterMap unique]
      exact hnone
    have hrow := List.filterMap_eq_nil_iff.1 hnone' s (List.mem_filter.2 ⟨hs, hrange⟩)
    simp [Store.cellKey?, Store.keyedRow?] at hrow hkey
    simp [hrow] at hkey
  · have hplaces := cellMeans_places_nodup hm
    have hvalues := place_values_eq kind scope filter unique hb
    refine ⟨?_, ?_, inOrder_pairwise hplaces fun _ _ _ _ h => h⟩
    · intro s hs hrange hkey
      obtain ⟨key, hkey⟩ := Option.isSome_iff_exists.1 hkey
      obtain ⟨t, hts, hbucket⟩ := exists_bucket_of_isInRange hb hrange
      -- the key and the bucket of the sample leave one place, and places tell cells apart
      have hfalls : ∀ c : SeriesCell, backend.store.fallsIn kind rule s c = true ↔
          c.place = (key, bucketing.bucket t) := by
        intro c
        rw [Store.fallsIn, hkey, hbucket, SeriesCell.place, Bool.and_eq_true, decide_eq_true_eq,
          decide_eq_true_eq, Option.some.injEq, Option.some.injEq, Prod.mk.injEq, eq_comm,
          @eq_comm _ c.bucket]
      obtain ⟨k, hk, hcomplete, hplace⟩ := exists_place_of_fallsIn unique hb hs hrange
        ((hfalls ⟨key, bucketing.bucket t, nan⟩).2 rfl)
      obtain ⟨cell, hcell, hcellplace⟩ := exists_mem_cellMeans hm hk hcomplete
      have hcellkey : cell.place = (key, bucketing.bucket t) := hcellplace.trans hplace
      refine ⟨cell, ⟨mem_inOrder.2 hcell, (hfalls cell).2 hcellkey⟩, ?_⟩
      rintro c ⟨hc, hcfalls⟩
      exact eq_of_place_eq hplaces (mem_inOrder.1 hc) hcell
        (((hfalls c).1 hcfalls).trans hcellkey.symm)
    · intro c hc
      obtain ⟨⟨k, hk, hcomplete, hplace⟩, hvalue⟩ := (mem_cellMeans_iff hm).1 (mem_inOrder.1 hc)
      refine ⟨?_, hvalue.trans (by rw [← hvalues c]; rfl)⟩
      -- the sample that makes the cell has a value among those of the cell
      intro hempty
      have hnone := hvalues c
      rw [hempty, List.map_nil, List.map_eq_nil_iff, List.filter_eq_nil_iff] at hnone
      exact hnone k hk (by simp [hcomplete, hplace])

end

/-- Each sample of two nodes falls into one cell of their series. -/
theorem series_cells_of_two_nodes :
    twoNodes.HasUniqueIds ∧ ∃ (rows : List Row) (cells : List SeriesCell),
      (SeriesQuery.entities .node).run (.ofStore twoNodes) ⟨some 1, none, .node, none, none⟩ []
          firstMinutes = .ok rows ∧
        rows = cells.map (seriesRow (SeriesQuery.entities .node).keyNames) ∧
        ∀ s ∈ twoNodes.samples, ∃! c : SeriesCell,
          c ∈ cells ∧ twoNodes.fallsIn .node firstMinutes s c = true := by
  have hunique : twoNodes.HasUniqueIds := by constructor <;> decide
  obtain ⟨rows, hrun⟩ : ∃ rows, (SeriesQuery.entities .node).run (.ofStore twoNodes)
      ⟨some 1, none, .node, none, none⟩ [] firstMinutes = .ok rows := ⟨_, rfl⟩
  obtain ⟨cells, hrows, hcell, -⟩ := series_cells_partition_the_samples hunique hrun
  refine ⟨hunique, rows, cells, hrun, hrows, fun s hs => hcell s hs ?_ ?_⟩
  · revert s
    decide
  · revert s
    decide

end ClusterMetrics
