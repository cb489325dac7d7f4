import ClusterMetrics.Proofs.PlannedWidths
import ClusterMetrics.Proofs.SteppedBuckets
import Mathlib.Data.Finset.Max
import Mathlib.Data.Finset.Prod
import Mathlib.Data.Int.Interval

/-! # The number of buckets

A planned range has about sixty steps, and up to twice as many as its width is rounded down.
Counting starts anew with every hour, day or month, which adds some buckets. No bucket is longer
than these, so a long range has a bucket a month, however wide its steps are.

* **`BucketRule.wholeSeconds`**: the whole seconds of a range.
* **`StepGrid.card_step_le`**, **`StepGrid.card_step_one_le`**: the steps of a stretch of time are
  counted by its starts, or by its units.
* **`planned_ranges_have_few_buckets`**: a planned range has at most 130 buckets as long as its
  steps have at most 64 days, and a bucket a month if they have 32 or more. -/

namespace ClusterMetrics

open ClusterMetrics.Calendar

/-! ## Whole seconds -/

/-- The **whole seconds** of a range, from its start on and before its end. -/
def BucketRule.wholeSeconds (rule : BucketRule) : Finset Int :=
  let first := -(-rule.start.instant / 1000000)
  let stop := -(-rule.stop.instant / 1000000)
  (Finset.range (stop - first).toNat).image fun k : Nat => first + (k : Int)

/-- The whole seconds of a range are those **in it**. -/
theorem BucketRule.mem_wholeSeconds {rule : BucketRule} {t : Int} :
    t ∈ rule.wholeSeconds ↔
      rule.start.instant ≤ t * 1000000 ∧ t * 1000000 < rule.stop.instant := by
  simp only [wholeSeconds, Finset.mem_image, Finset.mem_range]
  constructor
  · rintro ⟨k, hk, rfl⟩
    omega
  · intro h
    exact ⟨(t - -(-rule.start.instant / 1000000)).toNat, by omega, by omega⟩

/-! ## Steps of a stretch -/

namespace Calendar.StepGrid

variable (g : StepGrid) {width last : Nat} {a b : Int} {s : Finset Int}

/-- The steps of a stretch of time are told by **the start before them and their number**. -/
theorem card_step_le (hcount : ∀ t, g.count t ≤ last) (hmem : ∀ t ∈ s, a ≤ t ∧ t ≤ b) :
    (s.image (g.step width)).card
      ≤ (g.index b + 1 - g.index a).toNat * (last / width + 1) := by
  have htold : Set.SurjOn (fun p : Int × Int => g.start p.1 + p.2 * width * g.size)
      (Finset.Icc (g.index a) (g.index b) ×ˢ Finset.Icc (0 : Int) (last / width : Nat) : Finset _)
      (s.image (g.step width)) := by
    intro step hstep
    obtain ⟨t, ht, rfl⟩ := Finset.mem_image.1 (Finset.mem_coe.1 hstep)
    have hlower : 0 ≤ g.count t / width :=
      Int.ediv_nonneg (g.count_nonneg t) (Int.natCast_nonneg width)
    have hupper : g.count t / width ≤ (last / width : Nat) := by
      by_cases hwidth : width = 0
      · simp [hwidth]
      · exact Int.ediv_le_ediv (Int.natCast_pos.2 (Nat.pos_of_ne_zero hwidth)) (hcount t)
    have hindex : g.index a ≤ g.index t ∧ g.index t ≤ g.index b :=
      ⟨g.index_le (hmem t ht).1, g.index_le (hmem t ht).2⟩
    exact ⟨(g.index t, g.count t / width), Finset.mem_coe.2 (Finset.mem_product.2
      ⟨Finset.mem_Icc.2 hindex, Finset.mem_Icc.2 ⟨hlower, hupper⟩⟩), rfl⟩
  calc (s.image (g.step width)).card
      ≤ (Finset.Icc (g.index a) (g.index b) ×ˢ Finset.Icc (0 : Int) (last / width : Nat)).card :=
        Finset.card_le_card_of_surjOn _ htold
    _ = (g.index b + 1 - g.index a).toNat * (last / width + 1) := by
        rw [Finset.card_product, Int.card_Icc, Int.card_Icc, Int.sub_zero]
        rfl

/-- Steps of **width one** are told by their unit, if the starts are whole units. -/
theorem card_step_one_le (hstart : ∀ i, g.size ∣ g.start i) (hmem : ∀ t ∈ s, a ≤ t ∧ t ≤ b) :
    (s.image (g.step 1)).card ≤ (b / g.size + 1 - a / g.size).toNat := by
  have hstep : ∀ t, g.step 1 t = (t / g.size + g.first) * g.size := by
    intro t
    obtain ⟨k, hk⟩ := hstart (g.index t)
    have hquotient : (t - g.size * k) / g.size = t / g.size - k := by
      rw [Int.sub_mul_ediv_left _ _ g.size_pos.ne']
    rw [step, CalendarUnit.roundDown, count, hk, hquotient]
    simp only [Nat.cast_one, Int.ediv_one, Int.mul_one, Int.add_mul, Int.sub_mul,
      Int.mul_comm g.size k]
    omega
  have htold : Set.SurjOn (fun i => (i + g.first) * g.size)
      (Finset.Icc (a / g.size) (b / g.size) : Finset Int) (s.image (g.step 1)) := by
    intro step hmember
    obtain ⟨t, ht, rfl⟩ := Finset.mem_image.1 (Finset.mem_coe.1 hmember)
    have hunit : a / g.size ≤ t / g.size ∧ t / g.size ≤ b / g.size :=
      ⟨Int.ediv_le_ediv g.size_pos (hmem t ht).1, Int.ediv_le_ediv g.size_pos (hmem t ht).2⟩
    exact ⟨t / g.size, Finset.mem_coe.2 (Finset.mem_Icc.2 hunit), (hstep t).symm⟩
  calc (s.image (g.step 1)).card
      ≤ (Finset.Icc (a / g.size) (b / g.size)).card := Finset.card_le_card_of_surjOn _ htold
    _ = (b / g.size + 1 - a / g.size).toNat := Int.card_Icc _ _

/-- A stretch of less than sixty steps of one unit more has **at most 130 steps**, if those of width
one are whole units, and otherwise the starts and the steps from each of them are so few. -/
theorem card_step_le_130 {cells : Nat} (hstart : ∀ i, g.size ∣ g.start i)
    (hcount : ∀ t, g.count t ≤ last) (hmem : ∀ t ∈ s, a ≤ t ∧ t ≤ b)
    (hspan : b - a < 60 * (width + 1) * g.size) (hcells : g.index b + 1 - g.index a ≤ cells)
    (hfew : width = 1 ∨ cells * (last / width + 1) ≤ 130) :
    (s.image (g.step width)).card ≤ 130 := by
  rcases hfew with rfl | hfew
  · -- besides the unit of the first second there are at most 120
    have hle : b ≤ a + 120 * g.size := by
      rw [Nat.cast_one] at hspan
      omega
    have hquotient : b / g.size ≤ a / g.size + 120 :=
      calc b / g.size ≤ (a + 120 * g.size) / g.size := Int.ediv_le_ediv g.size_pos hle
        _ = a / g.size + 120 := Int.add_mul_ediv_right _ _ g.size_pos.ne'
    have hcard := g.card_step_one_le hstart hmem
    omega
  · have hstarts : (g.index b + 1 - g.index a).toNat ≤ cells := by omega
    calc (s.image (g.step width)).card
        ≤ (g.index b + 1 - g.index a).toNat * (last / width + 1) := g.card_step_le hcount hmem
      _ ≤ cells * (last / width + 1) := Nat.mul_le_mul_right _ hstarts
      _ ≤ 130 := hfew

end Calendar.StepGrid

/-! ## Minutes, hours and days -/

namespace Calendar

namespace CalendarUnit

variable {width : Nat} {a b : Int} {s : Finset Int}

/-- Steps of **minutes** are at most 130. -/
theorem card_minutes_le (hpos : 0 < width) (hwidth : width < 60) (hmem : ∀ t ∈ s, a ≤ t ∧ t ≤ b)
    (hspan : b - a < 60 * (width + 1) * 60) : (s.image (minuteGrid.step width)).card ≤ 130 := by
  have hfew : ∀ w < 60, 0 < w → w = 1 ∨ (w + 2) * (59 / w + 1) ≤ 130 := by decide
  refine minuteGrid.card_step_le_130 (fun i => ⟨60 * i, ?_⟩) (fun t => ?_) hmem hspan ?_
    (hfew width hwidth hpos)
  · show 3600 * i = 60 * (60 * i)
    omega
  · show (t - 3600 * (t / 3600)) / 60 + 0 ≤ (59 : Nat)
    omega
  · show b / 3600 + 1 - a / 3600 ≤ (width + 2 : Nat)
    omega

/-- Steps of **hours** are at most 130. -/
theorem card_hours_le (hpos : 0 < width) (hwidth : width < 24) (hmem : ∀ t ∈ s, a ≤ t ∧ t ≤ b)
    (hspan : b - a < 60 * (width + 1) * 3600) : (s.image (hourGrid.step width)).card ≤ 130 := by
  have hfew : ∀ w < 24, 0 < w → w = 1 ∨ ((60 * (w + 1) - 1) / 24 + 2) * (23 / w + 1) ≤ 130 := by
    decide
  refine hourGrid.card_step_le_130 (fun i => ⟨24 * i, ?_⟩) (fun t => ?_) hmem hspan ?_
    (hfew width hwidth hpos)
  · show 86400 * i = 3600 * (24 * i)
    omega
  · show (t - 86400 * (t / 86400)) / 3600 + 0 ≤ (23 : Nat)
    omega
  · show b / 86400 + 1 - a / 86400 ≤ ((60 * (width + 1) - 1) / 24 + 2 : Nat)
    omega

/-- Steps of **days** are at most 130, if they have at most 64 days. -/
theorem card_days_le (hpos : 0 < width) (hwidth : width < 65) (hmem : ∀ t ∈ s, a ≤ t ∧ t ≤ b)
    (hspan : b - a < 60 * (width + 1) * 86400) : (s.image (dayGrid.step width)).card ≤ 130 := by
  -- days of width one come to more by months than by days, and those of width 31 to 130
  have hfew : ∀ w < 65, 0 < w →
      w = 1 ∨ ((720 * (w + 1) + 17) / 365 + 2) * (31 / w + 1) ≤ 130 := by
    decide
  refine dayGrid.card_step_le_130 (fun i => ⟨monthStart i, ?_⟩) (fun t => ?_) hmem hspan ?_
    (hfew width hwidth hpos)
  · exact Int.mul_comm _ _
  · have hmonth := (monthStart_succ_bounds (dateOf t).monthIndex).2
    have hcount : dayGrid.start (dayGrid.index t) + dayGrid.count t * 86400
      ≤ dayGrid.start (dayGrid.index t + 1) := dayGrid.le_start t
    change monthStart (dateOf t).monthIndex * 86400 + dayGrid.count t * 86400
      ≤ monthStart ((dateOf t).monthIndex + 1) * 86400 at hcount
    omega
  · by_cases hle : (dateOf a).monthIndex + 1 ≤ (dateOf b).monthIndex
    · -- the months between the first and the last lie in the stretch
      have hmonths := mul_sub_le_monthStart hle
      have hfirst : a < monthStart ((dateOf a).monthIndex + 1) * 86400 := dayGrid.lt_start a
      have hlast : monthStart (dateOf b).monthIndex * 86400 ≤ b := dayGrid.start_le b
      show (dateOf b).monthIndex + 1 - (dateOf a).monthIndex
        ≤ ((720 * (width + 1) + 17) / 365 + 2 : Nat)
      omega
    · show (dateOf b).monthIndex + 1 - (dateOf a).monthIndex
        ≤ ((720 * (width + 1) + 17) / 365 + 2 : Nat)
      omega

/-- Steps of more days than any month has are **whole months**. -/
theorem stepped_day_eq_truncate {width : Nat} (h : 32 ≤ width) (t : Int) :
    stepped width day t = truncate month t := by
  have hday : (dateOf t).day < width := by
    have hcount := Date.day_ofDayNumber (t / 86400)
    have hend := (Date.mem_month_ofDayNumber (t / 86400)).2
    have hmonth := (monthStart_succ_bounds (Date.ofDayNumber (t / 86400)).monthIndex).2
    unfold dateOf
    omega
  have hzero : roundDown width (dateOf t).day = 0 := by
    rw [roundDown, Int.ediv_eq_zero_of_lt (Int.natCast_nonneg _) (Int.ofNat_lt.2 hday),
      Int.zero_mul]
  show truncate month t + roundDown width (dateOf t).day * 86400 = _
  rw [hzero, Int.zero_mul, Int.add_zero]

/-- The starts of months are **as many as the months**. -/
theorem card_truncate_month (s : Finset Int) :
    (s.image (truncate month)).card
      = (s.image fun t => ((dateOf t).year, (dateOf t).month)).card := by
  have hstart : s.image (truncate month)
      = (s.image fun t => ((dateOf t).year, (dateOf t).month)).image
        fun p => (Date.mk p.1 p.2 1).dayNumber * 86400 := by
    rw [Finset.image_image]
    rfl
  rw [hstart]
  refine Finset.card_image_of_injOn ?_
  intro p hp q hq heq
  obtain ⟨t, -, rfl⟩ := Finset.mem_image.1 (Finset.mem_coe.1 hp)
  obtain ⟨u, -, rfl⟩ := Finset.mem_image.1 (Finset.mem_coe.1 hq)
  have hsame := (truncate_eq_iff month t u).1 heq
  rw [ofSeconds_eq, ofSeconds_eq] at hsame
  exact Prod.ext hsame.1 hsame.2

end CalendarUnit

end Calendar

/-! ## Rules -/

/-- The whole seconds of a planned range lie **within sixty steps of one unit more**. -/
theorem BucketRule.IsPlanned.exists_span {rule : BucketRule} (h : rule.IsPlanned) :
    ∃ a b, (∀ t ∈ rule.wholeSeconds, a ≤ t ∧ t ≤ b) ∧
      b - a < 60 * (rule.width + 1) * rule.unit.seconds := by
  have hrange := h.range_lt
  have hseconds : 0 < rule.unit.seconds := by
    cases rule.unit <;> decide
  have hpos : 0 < 60 * ((rule.width : Int) + 1) * rule.unit.seconds :=
    Int.mul_pos (by omega) hseconds
  generalize 60 * ((rule.width : Int) + 1) * rule.unit.seconds = span at hrange hpos ⊢
  rcases rule.wholeSeconds.eq_empty_or_nonempty with hempty | hnonempty
  · exact ⟨0, 0, fun t ht => absurd (hempty ▸ ht) (Finset.notMem_empty t), by omega⟩
  · -- the first and the last second bound the others
    have hfirst := BucketRule.mem_wholeSeconds.1 (rule.wholeSeconds.min'_mem hnonempty)
    have hlast := BucketRule.mem_wholeSeconds.1 (rule.wholeSeconds.max'_mem hnonempty)
    refine ⟨rule.wholeSeconds.min' hnonempty, rule.wholeSeconds.max' hnonempty, fun t ht => ?_, ?_⟩
    · exact ⟨Finset.min'_le _ t ht, Finset.le_max' _ t ht⟩
    · omega

/-- **A range without a unit of its own has at most 130 buckets, as long as its steps are of at most
64 days.** The rule that is planned for it puts all its whole seconds into buckets; if these are of
minutes, hours, or at most 64 days, there are at most 130 of them. If they are of 32 days or more,
there are as many as the range has months, for no bucket is longer than a month. -/
theorem planned_ranges_have_few_buckets {range : List String} {zone granularity : String}
    {rule : BucketRule} (planned : planBuckets range zone granularity = .ok rule)
    (auto : CalendarUnit.ofName? granularity = none) :
    ∃ bucketing, rule.bucketing = .ok bucketing ∧
      ((rule.unit = .day → rule.width ≤ 64) →
        (rule.wholeSeconds.image bucketing.bucket).card ≤ 130) ∧
      (rule.unit = .day → 32 ≤ rule.width →
        (rule.wholeSeconds.image bucketing.bucket).card
          = (rule.wholeSeconds.image fun t =>
              ((CalendarUnit.dateOf t).year, (CalendarUnit.dateOf t).month)).card) := by
  have plan := isPlanned_of_planBuckets planned auto
  obtain ⟨a, b, hmem, hspan⟩ := plan.exists_span
  refine ⟨.stepped rule.unit rule.width, ?_, fun hdays => ?_, fun hunit hwidth => ?_⟩
  · rw [BucketRule.bucketing, plan.zoneName_eq]
  · show (rule.wholeSeconds.image (rule.unit.stepped rule.width)).card ≤ 130
    rw [CalendarUnit.stepped_eq_step]
    rcases plan.unit_width with ⟨hunit, hwidth⟩ | ⟨hunit, hwidth⟩ | hunit
    · rw [hunit] at hspan ⊢
      exact CalendarUnit.card_minutes_le plan.width_pos hwidth hmem hspan
    · rw [hunit] at hspan ⊢
      exact CalendarUnit.card_hours_le plan.width_pos hwidth hmem hspan
    · have hwidth := hdays hunit
      rw [hunit] at hspan ⊢
      exact CalendarUnit.card_days_le plan.width_pos (by omega) hmem hspan
  · rw [hunit, ← CalendarUnit.card_truncate_month]
    congr 1
    exact Finset.image_congr fun t _ => CalendarUnit.stepped_day_eq_truncate hwidth t

/-- Ten years in steps of 60 days. -/
def tenYears : BucketRule := ⟨⟨946684800000000, some 0⟩, ⟨1262304000000000, some 0⟩, .day, 60, none⟩

/-- The ten years from 2000 on are planned in steps of 60 days; they have a bucket a month, and so
at most 130. -/
theorem buckets_of_ten_years :
    planBuckets ["2000-01-01T00:00:00Z", "2010-01-01T00:00:00Z"] "UTC" "" = .ok tenYears ∧
      CalendarUnit.ofName? "" = none ∧
      ∃ bucketing, tenYears.bucketing = .ok bucketing ∧
        (tenYears.wholeSeconds.image bucketing.bucket).card ≤ 130 ∧
        (tenYears.wholeSeconds.image bucketing.bucket).card
          = (tenYears.wholeSeconds.image fun t =>
              ((CalendarUnit.dateOf t).year, (CalendarUnit.dateOf t).month)).card := by
  have hplanned : planBuckets ["2000-01-01T00:00:00Z", "2010-01-01T00:00:00Z"] "UTC" ""
      = .ok tenYears := rfl
  obtain ⟨bucketing, hb, hfew, hmonths⟩ := planned_ranges_have_few_buckets hplanned (by decide)
  exact ⟨hplanned, by decide, bucketing, hb, hfew (by decide), hmonths rfl (by decide)⟩

/-- Twenty years in steps of 121 days. -/
def twentyYears : BucketRule :=
  ⟨⟨946684800000000, some 0⟩, ⟨1577836800000000, some 0⟩, .day, 121, none⟩

/-- The twenty years from 2000 on are planned in steps of 121 days, but their buckets are **more
than 130**: days that are 31 days apart never share one. -/
theorem buckets_of_twenty_years :
    planBuckets ["2000-01-01T00:00:00Z", "2020-01-01T00:00:00Z"] "UTC" "" = .ok twentyYears ∧
      CalendarUnit.ofName? "" = none ∧
      ∃ bucketing, twentyYears.bucketing = .ok bucketing ∧
        130 < (twentyYears.wholeSeconds.image bucketing.bucket).card := by
  refine ⟨rfl, by decide, .stepped .day 121, rfl, ?_⟩
  have hdays : ((Finset.range 131).image fun k : Nat =>
      (Bucketing.stepped .day 121).bucket (946684800 + 31 * 86400 * (k : Int))).card = 131 := by
    decide +kernel
  -- these days all lie in the range
  refine Nat.lt_of_lt_of_le (by rw [hdays]; decide) (Finset.card_le_card ?_)
  intro bucket hbucket
  obtain ⟨k, hk, rfl⟩ := Finset.mem_image.1 hbucket
  have hk := Finset.mem_range.1 hk
  refine Finset.mem_image_of_mem _ (BucketRule.mem_wholeSeconds.2 ?_)
  show 946684800000000 - 0 ≤ (946684800 + 31 * 86400 * (k : Int)) * 1000000 ∧
    (946684800 + 31 * 86400 * (k : Int)) * 1000000 < 1577836800000000 - 0
  omega

end ClusterMetrics
