import ClusterMetrics.Proofs.RangeSeconds
import ClusterMetrics.Proofs.SeriesSelections
import ClusterMetrics.Proofs.UnitBoundaries

/-! # Adjacent ranges

A range of time may be cut at a boundary of its unit. Every bucket then lies in one part, with all of
its samples, and buckets come first in the order of an answer; so the series of the range is the
series of the first part followed by that of the second.

* **`BucketRule.inUtc`**: the rule of a range in steps of a unit on the clock of UTC.
* **`CutsAt`**: a range that is cut at a boundary. **`CutsAt.selectsSeries_before`**,
  **`CutsAt.selectsSeries_after`**: its parts are selected by buckets.
* **`adjacent_ranges_concatenate`**: the series of the parts make up the series of the range. -/

namespace ClusterMetrics

open ClusterMetrics.Calendar

/-- The rule of a range in steps of **a unit on the clock of UTC**. -/
def BucketRule.inUtc (unit : CalendarUnit) (start stop : Moment) : BucketRule :=
  ⟨start, stop, unit, 1, some "UTC"⟩

/-- The database holds **UTC**. -/
theorem find_utc : Zone.find "UTC" = .zone .utc := by
  decide +kernel

/-- The buckets of such a rule are **units of UTC**. -/
theorem bucketing_inUtc (unit : CalendarUnit) (start stop : Moment) :
    (BucketRule.inUtc unit start stop).bucketing = .ok (.calendar unit .utc) := by
  rw [BucketRule.bucketing, BucketRule.inUtc]
  simp only [find_utc]

/-- Such a rule covers a time from **the second of its start** to that of its end. -/
theorem covers_inUtc_iff {unit : CalendarUnit} {start stop : Moment} {s : Sample} {t : Int}
    (hts : s.ts = some t) :
    (BucketRule.inUtc unit start stop).covers s = true ↔
      ceilSecond start.instant ≤ t ∧ t < ceilSecond stop.instant := by
  rw [BucketRule.covers, hts, Option.any_some, Bool.and_eq_true, decide_eq_true_eq,
    decide_eq_true_eq]
  rfl

/-- A range is **cut at a boundary** of a unit: the boundary is a dated moment, no earlier than the
start and no later than the end. -/
structure CutsAt (unit : CalendarUnit) (a b c : Moment) (second : Int) : Prop where
  start_le : a.instant ≤ b.instant
  le_stop : b.instant ≤ c.instant
  isDated : b.IsDated
  instant_eq : b.instant = second * 1000000
  isBoundary : unit.IsBoundary second

namespace CutsAt

variable {unit : CalendarUnit} {a b c : Moment} {second : Int} (cut : CutsAt unit a b c second)
include cut

/-- A range starts **no later** than it is cut. -/
theorem startSecond_le : ceilSecond a.instant ≤ second :=
  ceilSecond_le (cut.isDated.second_lt cut.instant_eq) (cut.instant_eq ▸ cut.start_le)

/-- A range ends **no earlier** than it is cut. -/
theorem le_endSecond : second ≤ ceilSecond c.instant :=
  le_ceilSecond (cut.isDated.second_lt cut.instant_eq) (cut.instant_eq ▸ cut.le_stop)

/-- The second of the cut is **the boundary itself**. -/
theorem ceilSecond_eq : ceilSecond b.instant = second := by
  rw [cut.instant_eq]
  exact ceilSecond_mul (cut.isDated.second_lt cut.instant_eq)

/-- The first part of a range covers the samples **before the cut**. -/
theorem covers_before (s : Sample) :
    (BucketRule.inUtc unit a b).covers s
      = (decide (s.ts.getD 0 < second) && (BucketRule.inUtc unit a c).covers s) := by
  cases hts : s.ts with
  | none => simp [BucketRule.covers, hts]
  | some t =>
    have hstop := cut.le_endSecond
    rw [Bool.eq_iff_iff, Bool.and_eq_true, covers_inUtc_iff hts, covers_inUtc_iff hts,
      cut.ceilSecond_eq, Option.getD_some, decide_eq_true_eq]
    omega

/-- The second part of a range covers the samples **from the cut on**. -/
theorem covers_after (s : Sample) :
    (BucketRule.inUtc unit b c).covers s
      = (!decide (s.ts.getD 0 < second) && (BucketRule.inUtc unit a c).covers s) := by
  cases hts : s.ts with
  | none => simp [BucketRule.covers, hts]
  | some t =>
    have hstart := cut.startSecond_le
    rw [Bool.eq_iff_iff, Bool.and_eq_true, covers_inUtc_iff hts, covers_inUtc_iff hts,
      cut.ceilSecond_eq, Option.getD_some, Bool.not_eq_true', decide_eq_false_iff_not]
    omega

/-- A bucket starts before the cut exactly if **its samples** come before it. -/
theorem bucket_lt_iff (t : Int) :
    (Bucketing.calendar unit .utc).bucket t < second ↔ t < second := by
  rw [Bucketing.bucket, Zone.localSeconds_utc]
  exact CalendarUnit.truncate_lt_iff cut.isBoundary t

end CutsAt

/-- A part of a range whose samples are selected by their times is **narrowed by buckets**, if the
buckets are selected with their samples. -/
theorem selectsSeries_of_covers {rule rule' : BucketRule} {p : Int → Bool} {bucketing : Bucketing}
    (hrule : rule.bucketing = .ok bucketing) (hrule' : rule'.bucketing = .ok bucketing)
    (hbucket : ∀ t, p (bucketing.bucket t) = p t)
    (hcovers : ∀ s, rule'.covers s = (p (s.ts.getD 0) && rule.covers s)) (store : Store)
    (scope : Scope) (filter : MetricFilter) :
    SelectsSeries store scope filter rule filter rule' fun _ bucket => p bucket := by
  have hrange : store.inRange scope filter rule'
      = (store.inRange scope filter rule).filter fun m => p (m.sample.ts.getD 0) := by
    refine inRange_eq_filter (p := fun s => p (s.ts.getD 0)) fun s _ => ?_
    rw [Sample.isInRange, Sample.isInRange, hcovers]
    simp only [Bool.and_assoc, Bool.and_left_comm]
  refine ⟨hrule'.trans hrule.symm, ?_, fun bucketing' hb => ?_⟩
  · rw [hrange]
    exact List.filter_sublist.subset
  · obtain rfl : bucketing = bucketing' := Except.ok.inj (hrule.symm.trans hb)
    rw [hrange]
    simp only [hbucket]

namespace CutsAt

variable {unit : CalendarUnit} {a b c : Moment} {second : Int} (cut : CutsAt unit a b c second)
  (store : Store) (scope : Scope) (filter : MetricFilter)
include cut

/-- The series of the first part of a range has the buckets **before the cut**. -/
theorem selectsSeries_before :
    SelectsSeries store scope filter (.inUtc unit a c) filter (.inUtc unit a b)
      fun _ bucket => decide (bucket < second) :=
  selectsSeries_of_covers (p := fun t => decide (t < second)) (bucketing_inUtc unit a c)
    (bucketing_inUtc unit a b) (fun t => decide_eq_decide.2 (cut.bucket_lt_iff t))
    cut.covers_before store scope filter

/-- The series of the second part of a range has the buckets **from the cut on**. -/
theorem selectsSeries_after :
    SelectsSeries store scope filter (.inUtc unit a c) filter (.inUtc unit b c)
      fun _ bucket => !decide (bucket < second) :=
  selectsSeries_of_covers (p := fun t => !decide (t < second)) (bucketing_inUtc unit a c)
    (bucketing_inUtc unit b c) (fun t => congrArg not (decide_eq_decide.2 (cut.bucket_lt_iff t)))
    cut.covers_after store scope filter

end CutsAt

/-- **Adjacent ranges concatenate.** Whenever a series is answered over a range in steps of a unit
of UTC, it is answered over both parts of the range that a boundary of the unit makes, and the
answers follow each other as the answer over the range. For the summary of a cluster this holds of
the metrics and buckets, and of the values too if both parts tell nodes apart as the range does; they
do where the range keeps nodes apart. -/
theorem adjacent_ranges_concatenate {unit : CalendarUnit} {a b c : Moment} {second : Int}
    (cut : CutsAt unit a b c second) {backend : Backend} {scope : Scope} {filter : MetricFilter}
    {query : SeriesQuery} {rows : List Row}
    (answered : query.run backend scope filter (.inUtc unit a c) = .ok rows) :
    ∃ before after : List Row,
      query.run backend scope filter (.inUtc unit a b) = .ok before ∧
        query.run backend scope filter (.inUtc unit b c) = .ok after ∧
        rows.map Row.withoutValue = (before ++ after).map Row.withoutValue ∧
        ((query = .clusterSummary →
            backend.store.TellsNodesAlike scope filter (.inUtc unit a c) filter (.inUtc unit a b) ∧
              backend.store.TellsNodesAlike scope filter (.inUtc unit a c) filter
                (.inUtc unit b c)) →
          rows = before ++ after) ∧
        (backend.store.KeepsNodesApart scope filter (.inUtc unit a c) →
          backend.store.TellsNodesAlike scope filter (.inUtc unit a c) filter (.inUtc unit a b) ∧
            backend.store.TellsNodesAlike scope filter (.inUtc unit a c) filter
              (.inUtc unit b c)) := by
  have hbefore := cut.selectsSeries_before backend.store scope filter
  have hafter := cut.selectsSeries_after backend.store scope filter
  obtain ⟨cells, hcells, rfl⟩ := SeriesQuery.rows_eq_ok_iff.1 (SeriesQuery.rows_of_run answered)
  obtain ⟨before, hbeforeCells, hbeforePlaces, hbeforeEq⟩ := hbefore.cells_select hcells
  obtain ⟨after, hafterCells, hafterPlaces, hafterEq⟩ := hafter.cells_select hcells
  -- buckets come first in the order of the cells, so those before the cut stand in front
  have hsplit : (cells.filter fun d => decide (d.bucket < second))
      ++ (cells.filter fun d => !decide (d.bucket < second)) = cells := by
    refine filter_append_filter_of_pairwise ((SeriesQuery.cells_pairwise hcells).imp ?_)
    intro d e hle he
    rw [decide_eq_true_eq] at he ⊢
    exact lt_of_le_of_lt hle he
  have hrun : ∀ rule cells, query.cells backend.store scope filter rule = .ok cells →
      query.run backend scope filter rule = .ok (cells.map (seriesRow query.keyNames)) := by
    intro rule cells h
    rw [SeriesQuery.run_of_run answered (SeriesQuery.takes_of_run answered)]
    exact SeriesQuery.rows_eq_ok_iff.2 ⟨cells, h, rfl⟩
  refine ⟨_, _, hrun _ _ hbeforeCells, hrun _ _ hafterCells, ?_, fun alike => ?_, fun apart =>
    ⟨hbefore.tellsNodesAlike_of_keepsNodesApart apart,
      hafter.tellsNodesAlike_of_keepsNodesApart apart⟩⟩
  · rw [← List.map_append]
    refine map_withoutValue_seriesRow query.keyNames ?_
    rw [List.map_append, hbeforePlaces, hafterPlaces, ← List.map_append, hsplit]
  · rw [← List.map_append, hbeforeEq fun h => (alike h).1, hafterEq fun h => (alike h).2, hsplit]

/-- A whole second of UTC. -/
def atSecond (n : Int) : Moment := ⟨n * 1000000, some 0⟩

/-- The first two minutes of 1970 are cut between them. -/
theorem cutsAt_firstMinute : CutsAt .minute (atSecond 0) (atSecond 60) (atSecond 120) 60 where
  start_le := by decide
  le_stop := by decide
  isDated := ⟨⟨⟨⟨1970, 1, 1⟩, 0, 1, 0, 0⟩, by decide, by decide⟩, by decide⟩
  instant_eq := by decide
  isBoundary := ⟨1, by decide⟩

/-- A sample of no node and one of a node in one minute, and samples of two further nodes in the next.
The identifiers of these have one nearest double. -/
def nodelessMinute : Store :=
  { Store.empty with
    nodes := [⟨some 1, some 1, some "alpha", none, none, none, none, none, none⟩]
    metricNames := [⟨some 1, some "cpu", none, none⟩]
    metricLabels := [⟨some 1, some "total"⟩]
    samples := [⟨some 1, none, some 0, some 0, some 1, some 1, some 5, some (.number 5.0)⟩,
      ⟨some 1, some 1, some 0, some 0, some 1, some 1, some 10, some (.number 1.0)⟩,
      ⟨some 1, some 9007199254740992, some 0, some 0, some 1, some 1, some 60, some (.number 10.0)⟩,
      ⟨some 1, some 9007199254740993, some 0, some 0, some 1, some 1, some 60,
        some (.number 30.0)⟩] }

/-- The nodes of a cluster. -/
def allNodes : Scope := ⟨some 1, none, .node, none, none⟩

/-- The series of a node over two minutes is that of the one followed by that of the other. -/
theorem series_of_adjacent_minutes :
    CutsAt .minute (atSecond 0) (atSecond 60) (atSecond 120) 60 ∧
      ∃ rows before after : List Row,
        (SeriesQuery.entities .node).run (.ofStore nodelessMinute) allNodes []
            (.inUtc .minute (atSecond 0) (atSecond 120)) = .ok rows ∧
          (SeriesQuery.entities .node).run (.ofStore nodelessMinute) allNodes []
            (.inUtc .minute (atSecond 0) (atSecond 60)) = .ok before ∧
          (SeriesQuery.entities .node).run (.ofStore nodelessMinute) allNodes []
            (.inUtc .minute (atSecond 60) (atSecond 120)) = .ok after ∧
          rows = before ++ after := by
  obtain ⟨means, hmeans⟩ : ∃ means, cellMeans (.calendar .minute .utc)
      ((SeriesQuery.entities .node).samples nodelessMinute allNodes []
        (.inUtc .minute (atSecond 0) (atSecond 120))) = .ok means := ⟨_, rfl⟩
  have hrun := SeriesQuery.run_ofStore (by decide) (bucketing_inUtc _ _ _) hmeans
  obtain ⟨before, after, hbefore, hafter, -, hrows, -⟩ :=
    adjacent_ranges_concatenate cutsAt_firstMinute hrun
  exact ⟨cutsAt_firstMinute, _, before, after, hrun, hbefore, hafter, hrows nofun⟩

/-- The summary of a cluster over two minutes has the places of those of the two, but **not their
values**: two nodes are one child beside a sample of no node, and two children without it. -/
theorem summary_of_adjacent_minutes_differs :
    nodelessMinute.HasUniqueIds ∧
      CutsAt .minute (atSecond 0) (atSecond 60) (atSecond 120) 60 ∧
      ∃ rows before after : List Row,
        SeriesQuery.clusterSummary.run (.ofStore nodelessMinute) allNodes []
            (.inUtc .minute (atSecond 0) (atSecond 120)) = .ok rows ∧
          SeriesQuery.clusterSummary.run (.ofStore nodelessMinute) allNodes []
            (.inUtc .minute (atSecond 0) (atSecond 60)) = .ok before ∧
          SeriesQuery.clusterSummary.run (.ofStore nodelessMinute) allNodes []
            (.inUtc .minute (atSecond 60) (atSecond 120)) = .ok after ∧
          rows ≠ before ++ after := by
  have hunique : nodelessMinute.HasUniqueIds := by constructor <;> decide
  -- the values over both minutes, and the value of the second minute alone
  obtain ⟨means, hmeans, hvalues⟩ : ∃ means, cellMeans (.calendar .minute .utc)
      (SeriesQuery.clusterSummary.samples nodelessMinute allNodes []
        (.inUtc .minute (atSecond 0) (atSecond 120))) = .ok means ∧
      (addUp (·.drop 2) means).map (·.value)
        = [compensatedSum [mean [1.0]], compensatedSum [mean [10.0, 30.0]]] :=
    ⟨_, rfl, by decide⟩
  obtain ⟨before, hbefore⟩ : ∃ before, cellMeans (.calendar .minute .utc)
      (SeriesQuery.clusterSummary.samples nodelessMinute allNodes []
        (.inUtc .minute (atSecond 0) (atSecond 60))) = .ok before := ⟨_, rfl⟩
  obtain ⟨after, d, hafter, hsums, hvalue⟩ : ∃ after d, cellMeans (.calendar .minute .utc)
      (SeriesQuery.clusterSummary.samples nodelessMinute allNodes []
        (.inUtc .minute (atSecond 60) (atSecond 120))) = .ok after ∧
      d ∈ addUp (·.drop 2) after ∧ d.value = compensatedSum [mean [10.0], mean [30.0]] :=
    ⟨_, _, rfl, List.mem_cons_self, by decide⟩
  refine ⟨hunique, cutsAt_firstMinute, _, _, _,
    SeriesQuery.run_ofStore (by decide) (bucketing_inUtc _ _ _) hmeans,
    SeriesQuery.run_ofStore (by decide) (bucketing_inUtc _ _ _) hbefore,
    SeriesQuery.run_ofStore (by decide) (bucketing_inUtc _ _ _) hafter, fun heq => ?_⟩
  have hd : seriesRow SeriesQuery.clusterSummary.keyNames d
      ∈ (SeriesQuery.clusterSummary.answer means).map
          (seriesRow SeriesQuery.clusterSummary.keyNames) := by
    rw [heq]
    exact List.mem_append_right _ (List.mem_map_of_mem (mem_inOrder.2 hsums))
  obtain ⟨c, hc, hrow⟩ := List.mem_map.1 hd
  have hmem : d.value ∈ (addUp (·.drop 2) means).map (·.value) :=
    List.mem_map.2 ⟨c, mem_inOrder.1 hc, value_eq_of_seriesRow_eq hrow⟩
  rw [hvalue, hvalues, List.mem_cons, List.mem_singleton] at hmem
  revert hmem
  decide

end ClusterMetrics
