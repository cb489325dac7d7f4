import ClusterMetrics.Bucket.Rule
import ClusterMetrics.Proofs.UnitBoundaries

/-! # Stepped buckets

A stepped bucket is counted from the start of the next larger unit, and the count starts anew with
each such unit. Days are counted from one, so that the last step of a month may reach its end; no
step goes beyond it.

* **`StepGrid`**: starts that follow one another, and steps that are counted from each of them.
* **`StepGrid.step_le_step`**: a later reading lies in no earlier step.
* **`CalendarUnit.stepGrid`**: the grids of minutes, hours and days; **`stepped_eq_step`**: buckets
  are their steps.
* **`auto_buckets_are_monotone`**: the buckets of a rule without a zone are in the order of time. -/

namespace ClusterMetrics

open ClusterMetrics.Calendar

namespace Calendar

namespace CalendarUnit

/-! ## Rounding down -/

section RoundDown

variable {m n : Int} (width : Nat)

/-- A number that is not negative is not rounded **below zero**. -/
theorem roundDown_nonneg (h : 0 ≤ n) : 0 ≤ roundDown width n :=
  Int.mul_nonneg (Int.ediv_nonneg h (Int.natCast_nonneg width)) (Int.natCast_nonneg width)

/-- A number that is not negative is not **rounded up**. -/
theorem roundDown_le (h : 0 ≤ n) : roundDown width n ≤ n := by
  by_cases hwidth : width = 0
  · simpa [roundDown, hwidth] using h
  · exact Int.ediv_mul_le n (Int.natCast_ne_zero.2 hwidth)

/-- A larger number is rounded **to no smaller one**. -/
theorem roundDown_le_roundDown (h : m ≤ n) : roundDown width m ≤ roundDown width n := by
  by_cases hwidth : width = 0
  · simp [roundDown, hwidth]
  · have hpos : (0 : Int) < width := Int.natCast_pos.2 (Nat.pos_of_ne_zero hwidth)
    exact Int.mul_le_mul_of_nonneg_right (Int.ediv_le_ediv hpos h) hpos.le

end RoundDown

end CalendarUnit

/-! ## Grids -/

/-- A **grid** of steps: they have a size, and are counted anew, from a first number, at each of a
sequence of starts. What is counted before the next start does not reach beyond it. -/
structure StepGrid where
  start : Int → Int
  /-- The start that a reading comes after. -/
  index : Int → Int
  size : Int
  /-- The number of the first step after a start. -/
  first : Int
  size_pos : 0 < size
  first_nonneg : 0 ≤ first
  start_lt : ∀ {i j}, i < j → start i < start j
  start_le : ∀ t, start (index t) ≤ t
  lt_start : ∀ t, t < start (index t + 1)
  le_start : ∀ t, start (index t) + ((t - start (index t)) / size + first) * size
    ≤ start (index t + 1)

namespace StepGrid

variable (g : StepGrid)

/-- The **number of the step** that a reading lies in, from the start before it. -/
def count (t : Int) : Int := (t - g.start (g.index t)) / g.size + g.first

/-- The **step** of a reading, its number rounded down to a multiple of a width. -/
def step (width : Nat) (t : Int) : Int :=
  g.start (g.index t) + CalendarUnit.roundDown width (g.count t) * g.size

/-- Steps are counted by numbers that are **not negative**. -/
theorem count_nonneg (t : Int) : 0 ≤ g.count t := by
  have hrest : 0 ≤ t - g.start (g.index t) := Int.sub_nonneg_of_le (g.start_le t)
  exact Int.add_nonneg (Int.ediv_nonneg hrest g.size_pos.le) g.first_nonneg

/-- A step does not come before **the start** it is counted from. -/
theorem start_le_step (width : Nat) (t : Int) : g.start (g.index t) ≤ g.step width t := by
  have hcount := CalendarUnit.roundDown_nonneg width (g.count_nonneg t)
  exact Int.le_add_of_nonneg_right (Int.mul_nonneg hcount g.size_pos.le)

/-- A step does not reach beyond **the next start**. -/
theorem step_le_start (width : Nat) (t : Int) : g.step width t ≤ g.start (g.index t + 1) := by
  have hcount := CalendarUnit.roundDown_le width (g.count_nonneg t)
  calc g.step width t ≤ g.start (g.index t) + g.count t * g.size :=
        Int.add_le_add_left (Int.mul_le_mul_of_nonneg_right hcount g.size_pos.le) _
    _ ≤ g.start (g.index t + 1) := g.le_start t

/-- A later reading does not come after **an earlier start**. -/
theorem index_le {s t : Int} (h : s ≤ t) : g.index s ≤ g.index t := by
  by_contra hlt
  have hnext : g.start (g.index t + 1) ≤ g.start (g.index s) := by
    rcases Int.lt_or_eq_of_le (Int.add_one_le_of_lt (Int.not_le.1 hlt)) with hlt | heq
    · exact (g.start_lt hlt).le
    · rw [heq]
  have hs := g.start_le s
  have ht := g.lt_start t
  omega

/-- A later reading lies **in no earlier step**. -/
theorem step_le_step (width : Nat) {s t : Int} (h : s ≤ t) : g.step width s ≤ g.step width t := by
  rcases Int.lt_or_eq_of_le (g.index_le h) with hlt | heq
  · -- the first step ends with its start, if not before, and the second begins with a later one
    have hstarts : g.start (g.index s + 1) ≤ g.start (g.index t) := by
      rcases Int.lt_or_eq_of_le (Int.add_one_le_of_lt hlt) with hlt | heq
      · exact (g.start_lt hlt).le
      · rw [heq]
    exact (g.step_le_start width s).trans (hstarts.trans (g.start_le_step width t))
  · have hcount : g.count s ≤ g.count t := by
      rw [count, count, heq]
      have hrest : s - g.start (g.index t) ≤ t - g.start (g.index t) := Int.sub_le_sub_right h _
      exact Int.add_le_add_right (Int.ediv_le_ediv g.size_pos hrest) _
    have hrounded := CalendarUnit.roundDown_le_roundDown width hcount
    rw [step, step, heq]
    exact Int.add_le_add_left (Int.mul_le_mul_of_nonneg_right hrounded g.size_pos.le) _

end StepGrid

/-! ## Minutes, hours and days -/

namespace CalendarUnit

/-- **Minutes**, counted from the hour. -/
def minuteGrid : StepGrid where
  start i := 3600 * i
  index t := t / 3600
  size := 60
  first := 0
  size_pos := by decide
  first_nonneg := by decide
  start_lt h := by omega
  start_le t := by omega
  lt_start t := by omega
  le_start t := by omega

/-- **Hours**, counted from midnight. -/
def hourGrid : StepGrid where
  start i := 86400 * i
  index t := t / 86400
  size := 3600
  first := 0
  size_pos := by decide
  first_nonneg := by decide
  start_lt h := by omega
  start_le t := by omega
  lt_start t := by omega
  le_start t := by omega

/-- **Days**, counted from the start of the month, the first of which is day one. -/
def dayGrid : StepGrid where
  start i := monthStart i * 86400
  index t := (dateOf t).monthIndex
  size := 86400
  first := 1
  size_pos := by decide
  first_nonneg := by decide
  start_lt h := by
    have hlt := monthStart_lt h
    omega
  start_le t := by
    have hmem := Date.mem_month_ofDayNumber (t / 86400)
    unfold dateOf
    omega
  lt_start t := by
    have hmem := Date.mem_month_ofDayNumber (t / 86400)
    unfold dateOf
    omega
  le_start t := by
    have hmem := Date.mem_month_ofDayNumber (t / 86400)
    unfold dateOf
    omega

/-- The **grid** that the steps of a unit are counted on. -/
def stepGrid : CalendarUnit → StepGrid
  | minute => minuteGrid
  | hour => hourGrid
  | _ => dayGrid

/-- The stepped minute of a reading is **a step of minutes**. -/
theorem stepped_minute (width : Nat) (t : Int) :
    stepped width minute t = minuteGrid.step width t := by
  show t - t % 3600 + roundDown width (t % 3600 / 60) * 60
    = 3600 * (t / 3600) + roundDown width ((t - 3600 * (t / 3600)) / 60 + 0) * 60
  have hcount : (t - 3600 * (t / 3600)) / 60 + 0 = t % 3600 / 60 := by omega
  rw [hcount]
  omega

/-- The stepped hour of a reading is **a step of hours**. -/
theorem stepped_hour (width : Nat) (t : Int) : stepped width hour t = hourGrid.step width t := by
  show t - t % 86400 + roundDown width (t % 86400 / 3600) * 3600
    = 86400 * (t / 86400) + roundDown width ((t - 86400 * (t / 86400)) / 3600 + 0) * 3600
  have hcount : (t - 86400 * (t / 86400)) / 3600 + 0 = t % 86400 / 3600 := by omega
  rw [hcount]
  omega

/-- The stepped day of a reading is **a step of days**: they are counted by the day of the month. -/
theorem stepped_day (width : Nat) (t : Int) : stepped width day t = dayGrid.step width t := by
  have hfirst : (Date.mk (dateOf t).year (dateOf t).month 1).dayNumber
      = monthStart (dateOf t).monthIndex :=
    dayNumber_monthStart (Date.monthIndex_ofDayNumber (t / 86400)).1
  have hcount : (t - monthStart (dateOf t).monthIndex * 86400) / 86400 + 1 = (dateOf t).day := by
    have hday := Date.day_ofDayNumber (t / 86400)
    unfold dateOf
    omega
  show truncate month t + roundDown width (dateOf t).day * 86400
    = monthStart (dateOf t).monthIndex * 86400
      + roundDown width ((t - monthStart (dateOf t).monthIndex * 86400) / 86400 + 1) * 86400
  rw [truncate, hfirst, hcount]

/-- The stepped reading of a unit is **the step of its grid**. -/
theorem stepped_eq_step (unit : CalendarUnit) (width : Nat) :
    unit.stepped width = unit.stepGrid.step width := by
  funext t
  cases unit with
  | minute => exact stepped_minute width t
  | hour => exact stepped_hour width t
  | day => exact stepped_day width t
  | month => exact stepped_day width t
  | year => exact stepped_day width t

end CalendarUnit

end Calendar

/-! ## Rules -/

/-- **The buckets of a rule without a zone are in the order of time**, whatever its unit and its
width: it puts every instant into a bucket, and a later instant into no earlier one, across the
boundaries of hours, days, months and leap years. -/
theorem auto_buckets_are_monotone (rule : BucketRule) (auto : rule.zoneName = none) :
    ∃ bucketing, rule.bucketing = .ok bucketing ∧
      ∀ s t, s ≤ t → bucketing.bucket s ≤ bucketing.bucket t := by
  refine ⟨.stepped rule.unit rule.width, ?_, ?_⟩
  · rw [BucketRule.bucketing, auto]
  · intro s t h
    show rule.unit.stepped rule.width s ≤ rule.unit.stepped rule.width t
    rw [CalendarUnit.stepped_eq_step]
    exact rule.unit.stepGrid.step_le_step rule.width h

/-- Days from the middle of January to the middle of March of a leap year, one by one. -/
def winterDays : BucketRule :=
  ⟨⟨1705276800000000, some 0⟩, ⟨1710892800000000, some 0⟩, .day, 1, none⟩

/-- The last bucket of a leap February is the first of March, and the next one is the second. -/
theorem buckets_of_a_leap_february :
    winterDays.zoneName = none ∧
      ∃ bucketing, winterDays.bucketing = .ok bucketing ∧
        (∀ s t, s ≤ t → bucketing.bucket s ≤ bucketing.bucket t) ∧
        bucketing.bucket 1709208000 = 1709251200 ∧ bucketing.bucket 1709251200 = 1709337600 := by
  obtain ⟨bucketing, hb, hmonotone⟩ := auto_buckets_are_monotone winterDays rfl
  obtain rfl : .stepped .day 1 = bucketing := Except.ok.inj hb
  exact ⟨rfl, _, hb, hmonotone, by decide, by decide⟩

end ClusterMetrics
