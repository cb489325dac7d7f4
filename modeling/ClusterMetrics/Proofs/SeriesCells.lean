import ClusterMetrics.Proofs.Groups
import ClusterMetrics.Proofs.SortedRows
import ClusterMetrics.Proofs.Statements
import ClusterMetrics.Proofs.UniqueIds
import Mathlib.Data.List.Nodup

/-! # The cells of a series

A series query keys its samples and averages those of each key and bucket. Every complete sample
falls into one cell, and no cell is without samples, so selecting samples by their keys and buckets
selects cells.

* **`Sample.isInRange`**, **`BucketRule.bucket?`**: the samples of a series, and their buckets.
* **`KeyedSample.place`**, **`SeriesCell.place`**: the key and the bucket of a sample and of a cell.
* **`cellMeans_filter`**, **`addUp_filter`**: selected samples make selected cells.
* **`mem_cellMeans_iff`**, **`mem_addUp_iff`**: which cells there are, and their values.
* **`SeriesQuery.cells_eq_ok_iff`**, **`SeriesQuery.answer_filter`**: the same of whole queries. -/

namespace ClusterMetrics

open ClusterMetrics.Decimal

/-! ## Samples of a range -/

/-- Whether a sample meets the **conditions** of a series: its scope, its range and its filter. -/
def Sample.isInRange (scope : Scope) (filter : MetricFilter) (rule : BucketRule) (s : Sample) :
    Bool :=
  scope.admits s && rule.covers s && filter.admits s

/-- The **bucket of an instant** under a rule, if the zone of the rule exists. -/
def BucketRule.bucket? (rule : BucketRule) (t : Int) : Option Int :=
  rule.bucketing.toOption.map fun bucketing => bucketing.bucket t

/-- The first two minutes of 1970, in steps of one minute. -/
def firstMinutes : BucketRule := ⟨⟨0, some 0⟩, ⟨120000000, some 0⟩, .minute, 1, none⟩

/-- A sample of the range has a time, and the **bucket** of that time. -/
theorem exists_bucket_of_isInRange {scope : Scope} {filter : MetricFilter} {rule : BucketRule}
    {bucketing : Bucketing} (hb : rule.bucketing = .ok bucketing) {s : Sample}
    (h : s.isInRange scope filter rule = true) :
    ∃ t, s.ts = some t ∧ s.ts.bind rule.bucket? = some (bucketing.bucket t) := by
  cases hts : s.ts with
  | none => simp [Sample.isInRange, BucketRule.covers, hts] at h
  | some t =>
    refine ⟨t, rfl, ?_⟩
    rw [Option.bind_some, BucketRule.bucket?, hb]
    rfl

/-! ## Means -/

/-- The key and the bucket **of a sample**. -/
def KeyedSample.place (bucketing : Bucketing) (s : KeyedSample) : List Cell × Int :=
  (s.key, bucketing.bucket s.ts)

/-- The key and the bucket **of a cell**. -/
def SeriesCell.place (c : SeriesCell) : List Cell × Int := (c.key, c.bucket)

/-- The cell of a **group** of samples. -/
def meanCell (g : (List Cell × Int) × List KeyedSample) : SeriesCell :=
  ⟨g.1.1, g.1.2, mean (numbers (g.2.map (·.value)))⟩

section Means

variable {bucketing : Bucketing} {samples : List KeyedSample} {means : List SeriesCell}

/-- Means are taken where **no complete sample is text**. -/
theorem cellMeans_eq_ok_iff :
    cellMeans bucketing samples = .ok means ↔
      (∀ s ∈ samples, isComplete s.key = true → isText s.value = false) ∧
        means = (groupBy (KeyedSample.place bucketing)
          (samples.filter fun s => isComplete s.key)).map meanCell := by
  have htext : ((samples.filter fun s => isComplete s.key).any fun s => isText s.value) = false ↔
      ∀ s ∈ samples, isComplete s.key = true → isText s.value = false := by
    simp
  rw [← htext]
  change (if _ then _ else _) = _ ↔ _
  cases (samples.filter fun s => isComplete s.key).any fun s => isText s.value with
  | true => simp
  | false =>
    simp only [Bool.false_eq_true, if_false, Except.ok.injEq, true_and]
    exact eq_comm

/-- Selected samples have the means of **selected cells**. -/
theorem cellMeans_filter (h : cellMeans bucketing samples = .ok means)
    (p : List Cell × Int → Bool) :
    cellMeans bucketing (samples.filter fun s => p (s.place bucketing))
      = .ok (means.filter fun c => p c.place) := by
  obtain ⟨htext, hmeans⟩ := cellMeans_eq_ok_iff.1 h
  refine cellMeans_eq_ok_iff.2 ⟨?_, ?_⟩
  · intro s hs
    exact htext s (List.mem_filter.1 hs).1
  · have hswap : ((samples.filter fun s => p (s.place bucketing)).filter fun s => isComplete s.key)
        = (samples.filter fun s => isComplete s.key).filter fun s => p (s.place bucketing) := by
      rw [List.filter_filter, List.filter_filter]
      simp only [Bool.and_comm]
    rw [hmeans, hswap, groupBy_filter (p := p) fun _ _ => rfl, List.filter_map]
    rfl

/-- **No two means** are of one place. -/
theorem cellMeans_places_nodup (h : cellMeans bucketing samples = .ok means) :
    (means.map SeriesCell.place).Nodup := by
  obtain ⟨-, hmeans⟩ := cellMeans_eq_ok_iff.1 h
  rw [hmeans, List.map_map]
  exact groupBy_keys_nodup _ _

/-- A mean is of a place where a complete sample lies, and averages
**the samples of that place**. -/
theorem mem_cellMeans_iff (h : cellMeans bucketing samples = .ok means) {c : SeriesCell} :
    c ∈ means ↔
      (∃ s ∈ samples, isComplete s.key = true ∧ s.place bucketing = c.place) ∧
        c.value = mean (numbers
          ((samples.filter fun s => isComplete s.key && s.place bucketing = c.place).map
            (·.value))) := by
  obtain ⟨-, hmeans⟩ := cellMeans_eq_ok_iff.1 h
  have hmembers : ∀ l : List Cell × Int,
      ((samples.filter fun s => isComplete s.key).filter fun s => s.place bucketing = l)
        = samples.filter fun s => isComplete s.key && s.place bucketing = l := by
    intro l
    rw [List.filter_filter]
    simp only [Bool.and_comm]
  rw [hmeans, List.mem_map]
  constructor
  · rintro ⟨g, hg, rfl⟩
    obtain ⟨⟨s, hs, hplace⟩, hgroup⟩ := mem_groupBy.1 hg
    obtain ⟨hmem, hcomplete⟩ := List.mem_filter.1 hs
    refine ⟨⟨s, hmem, hcomplete, hplace⟩, ?_⟩
    rw [meanCell, hgroup, hmembers]
    rfl
  · rintro ⟨⟨s, hs, hcomplete, hplace⟩, hvalue⟩
    refine ⟨(c.place, samples.filter fun s => isComplete s.key && s.place bucketing = c.place),
      mem_groupBy.2 ⟨⟨s, List.mem_filter.2 ⟨hs, hcomplete⟩, hplace⟩, (hmembers _).symm⟩, ?_⟩
    rw [meanCell, ← hvalue]
    rfl

/-- Every complete sample has **a mean of its place**. -/
theorem exists_mem_cellMeans (h : cellMeans bucketing samples = .ok means) {s : KeyedSample}
    (hs : s ∈ samples) (hcomplete : isComplete s.key = true) :
    ∃ c ∈ means, c.place = s.place bucketing := by
  let value := mean (numbers
    ((samples.filter fun t => isComplete t.key && t.place bucketing = s.place bucketing).map
      (·.value)))
  have hmem : (⟨s.key, bucketing.bucket s.ts, value⟩ : SeriesCell) ∈ means :=
    (mem_cellMeans_iff h).2 ⟨⟨s, hs, hcomplete, rfl⟩, rfl⟩
  exact ⟨_, hmem, rfl⟩

/-- Cells of distinct places are told apart **by their places**. -/
theorem eq_of_place_eq (hplaces : (means.map SeriesCell.place).Nodup) {c d : SeriesCell}
    (hc : c ∈ means) (hd : d ∈ means) (h : c.place = d.place) : c = d :=
  List.inj_on_of_nodup_map hplaces hc hd h

end Means

/-! ## Sums of means -/

section Sums

variable {part : List Cell → List Cell} {cells : List SeriesCell}

/-- Selected cells have the sums of **selected cells**. -/
theorem addUp_filter (part : List Cell → List Cell) (cells : List SeriesCell)
    (p : List Cell × Int → Bool) :
    addUp part (cells.filter fun c => p (part c.key, c.bucket))
      = (addUp part cells).filter fun c => p c.place := by
  rw [addUp, groupBy_filter (p := p) fun _ _ => rfl, addUp, List.filter_map]
  rfl

/-- **No two sums** are of one place. -/
theorem addUp_places_nodup : ((addUp part cells).map SeriesCell.place).Nodup := by
  rw [addUp, List.map_map]
  exact groupBy_keys_nodup _ _

/-- A sum is of a place that a cell is a part of, and adds up **the cells of that place**. -/
theorem mem_addUp_iff {c : SeriesCell} :
    c ∈ addUp part cells ↔
      (∃ d ∈ cells, (part d.key, d.bucket) = c.place) ∧
        c.value = compensatedSum
          (((cells.filter fun d => (part d.key, d.bucket) = c.place).map (·.value)).filter
            fun x => !isNaN x) := by
  rw [addUp, List.mem_map]
  constructor
  · rintro ⟨g, hg, rfl⟩
    obtain ⟨hd, hgroup⟩ := mem_groupBy.1 hg
    refine ⟨hd, ?_⟩
    rw [hgroup]
    rfl
  · rintro ⟨hd, hvalue⟩
    refine ⟨(c.place, cells.filter fun d => (part d.key, d.bucket) = c.place),
      mem_groupBy.2 ⟨hd, rfl⟩, ?_⟩
    rw [← hvalue]
    rfl

/-- Every cell is **part of a sum**. -/
theorem exists_mem_addUp (part : List Cell → List Cell) {d : SeriesCell} (hd : d ∈ cells) :
    ∃ c ∈ addUp part cells, c.place = (part d.key, d.bucket) := by
  let value := compensatedSum (((cells.filter fun e =>
    (part e.key, e.bucket) = (part d.key, d.bucket)).map (·.value)).filter fun x => !isNaN x)
  have hmem : (⟨part d.key, d.bucket, value⟩ : SeriesCell) ∈ addUp part cells :=
    mem_addUp_iff.2 ⟨⟨d, hd, rfl⟩, rfl⟩
  exact ⟨_, hmem, rfl⟩

end Sums

/-! ## Queries -/

/-- A cell in the order of the answer: its bucket, and then a key. -/
def SeriesCell.orderKey (order : List Cell → List Cell) (c : SeriesCell) : List Cell :=
  .int c.bucket :: order c.key

theorem filter_inOrder (order : List Cell → List Cell) (cells : List SeriesCell)
    (p : List Cell × Int → Bool) :
    (inOrder order cells).filter (fun c => p c.place)
      = inOrder order (cells.filter fun c => p c.place) := filter_sortBy _ _ _

@[simp] theorem mem_inOrder {order : List Cell → List Cell} {cells : List SeriesCell}
    {c : SeriesCell} : c ∈ inOrder order cells ↔ c ∈ cells := mem_sortBy

@[simp] theorem inOrder_singleton (order : List Cell → List Cell) (c : SeriesCell) :
    inOrder order [c] = [c] := List.mergeSort_singleton c

/-- Cells of distinct places are **strictly** in order, if the order tells their keys apart. -/
theorem inOrder_pairwise {order : List Cell → List Cell} {cells : List SeriesCell}
    (hplaces : (cells.map SeriesCell.place).Nodup)
    (horder : ∀ c ∈ cells, ∀ d ∈ cells, order c.key = order d.key → c.key = d.key) :
    (inOrder order cells).Pairwise fun c d =>
      keyLt (c.orderKey order) (d.orderKey order) = true := by
  apply sortBy_pairwise_keyLt
  -- cells that agree in the order would be of one place
  refine List.pairwise_map.2 ((List.pairwise_map.1 hplaces).imp_of_mem ?_)
  intro c d hc hd hne h
  obtain ⟨hbucket, hkey⟩ := List.cons_eq_cons.1 h
  exact hne (Prod.ext (horder c hc d hd hkey) (Cell.int.inj hbucket))

namespace SeriesQuery

variable {query : SeriesQuery} {store : Store} {scope : Scope} {filter : MetricFilter}
  {rule : BucketRule} {cells : List SeriesCell}

/-- The part of the key of a mean that the key of a cell of the answer keeps. -/
def part : SeriesQuery → List Cell → List Cell
  | entities _, key => key
  | pods, key => key.drop 2
  | clusterSummary, key => key.drop 2

@[simp] theorem answer_nil : query.answer [] = [] := by
  cases query <;> simp [answer, inOrder, addUp, sortBy]

/-- A query answers **the means** of its samples; without samples it does not look at the rule. -/
theorem cells_eq_ok_iff :
    query.cells store scope filter rule = .ok cells ↔
      (query.samples store scope filter rule = [] ∧ cells = []) ∨
        query.samples store scope filter rule ≠ [] ∧ ∃ bucketing means,
          rule.bucketing = .ok bucketing ∧
            cellMeans bucketing (query.samples store scope filter rule) = .ok means ∧
              cells = query.answer means := by
  rw [SeriesQuery.cells]
  cases query.samples store scope filter rule with
  -- without samples the rule is not asked for its bucketing, so it need not have one
  | nil => simp [eq_comm]
  | cons s samples =>
    cases hb : rule.bucketing with
    | error f => simp [bind, Except.bind]
    | ok bucketing =>
      cases hm : cellMeans bucketing (s :: samples) with
      | error f => simp [bind, Except.bind, hm]
      | ok means => simp [bind, Except.bind, hm, pure, Except.pure, eq_comm]

/-- The cells of an answer are those of means, unless **the rule has no bucketing**; then there are
none. -/
theorem cells_cases (h : query.cells store scope filter rule = .ok cells) :
    (∃ bucketing means, rule.bucketing = .ok bucketing ∧
        cellMeans bucketing (query.samples store scope filter rule) = .ok means ∧
          cells = query.answer means) ∨
      (∃ f, rule.bucketing = .error f) ∧ cells = [] := by
  rcases cells_eq_ok_iff.1 h with ⟨hnone, rfl⟩ | ⟨-, hmeans⟩
  · cases hb : rule.bucketing with
    | error f => exact .inr ⟨⟨f, rfl⟩, rfl⟩
    | ok bucketing =>
      exact .inl ⟨bucketing, [], rfl, by rw [hnone]; rfl, answer_nil.symm⟩
  · exact .inl hmeans

/-- Where the rule has a bucketing, a query answers the means of its samples, **also without
samples**. -/
theorem cells_of_cellMeans {bucketing : Bucketing} {means : List SeriesCell}
    (hb : rule.bucketing = .ok bucketing)
    (hm : cellMeans bucketing (query.samples store scope filter rule) = .ok means) :
    query.cells store scope filter rule = .ok (query.answer means) := by
  by_cases hempty : query.samples store scope filter rule = []
  · rw [hempty] at hm
    have hmeans : means = [] := (Except.ok.inj hm).symm
    exact cells_eq_ok_iff.2 (.inl ⟨hempty, by rw [hmeans, answer_nil]⟩)
  · exact cells_eq_ok_iff.2 (.inr ⟨hempty, bucketing, means, hb, hm, rfl⟩)

/-- The rows of a query are those **of its cells**. -/
theorem rows_eq_ok_iff {rows : List Row} :
    query.rows store scope filter rule = .ok rows ↔
      ∃ cells, query.cells store scope filter rule = .ok cells ∧
        rows = cells.map (seriesRow query.keyNames) := by
  rw [SeriesQuery.rows]
  cases query.cells store scope filter rule with
  | error f => simp [Except.map]
  | ok cells => simp [Except.map, eq_comm]

/-- A store in order answers **the rows of the means** of its samples. -/
theorem run_ofStore {bucketing : Bucketing} {means : List SeriesCell}
    (takes : Backend.Takes (query.bound scope filter) (others scope filter))
    (hb : rule.bucketing = .ok bucketing)
    (hm : cellMeans bucketing (query.samples store scope filter rule) = .ok means) :
    query.run (.ofStore store) scope filter rule
      = .ok ((query.answer means).map (seriesRow query.keyNames)) := by
  rw [run, Backend.query_ofStore store takes]
  exact rows_eq_ok_iff.2 ⟨_, cells_of_cellMeans hb hm, rfl⟩

/-- Selected means make a **selected answer**. -/
theorem answer_filter (query : SeriesQuery) (means : List SeriesCell) (p : List Cell × Int → Bool) :
    query.answer (means.filter fun c => p (query.part c.key, c.bucket))
      = (query.answer means).filter fun c => p c.place := by
  cases query with
  | entities kind => exact (filter_inOrder id means p).symm
  | pods => rw [answer, answer, filter_inOrder, ← addUp_filter]; rfl
  | clusterSummary => rw [answer, answer, filter_inOrder, ← addUp_filter]; rfl

/-- The cells of an answer are in the order of **their buckets**. -/
theorem answer_pairwise (query : SeriesQuery) (means : List SeriesCell) :
    (query.answer means).Pairwise fun c d => c.bucket ≤ d.bucket := by
  have hsorted : ∀ (order : List Cell → List Cell) (cells : List SeriesCell),
      (inOrder order cells).Pairwise fun c d => c.bucket ≤ d.bucket := by
    intro order cells
    refine (sortBy_pairwise (SeriesCell.orderKey order) cells).imp fun {c d} h => ?_
    -- the bucket stands first in the key, and decides unless it is the same
    rw [SeriesCell.orderKey, SeriesCell.orderKey, keyLe] at h
    split at h
    · rename_i hbucket
      exact Int.le_of_eq (Cell.int.inj hbucket)
    · simpa [Cell.le] using h
  cases query <;> exact hsorted _ _

/-- The cells of a series are in the order of **their buckets**. -/
theorem cells_pairwise (h : query.cells store scope filter rule = .ok cells) :
    cells.Pairwise fun c d => c.bucket ≤ d.bucket := by
  rcases cells_eq_ok_iff.1 h with ⟨-, rfl⟩ | ⟨-, _, means, -, -, rfl⟩
  · exact List.Pairwise.nil
  · exact answer_pairwise query means

end SeriesQuery

end ClusterMetrics
