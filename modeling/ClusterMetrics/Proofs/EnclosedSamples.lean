import ClusterMetrics.Proofs.SteppedBuckets
import Mathlib.Algebra.Order.Group.Unbundled.Int
import Mathlib.Algebra.Order.Group.Abs

/-! # Buckets around their samples

A stepped bucket starts with its step, so a reading lies in the stretch of the bucket's width behind
it. Days are counted from one, and so the stretch of a bucket of days starts a day before the
bucket.

* **`StepGrid.step_le`**, **`StepGrid.lt_step_add`**: a reading lies in its step.
* **`Bucketing.Encloses`**: every instant lies in a stretch of one length at its bucket.
  **`Bucketing.encloses_of_stretch`**: instants that share a bucket are then less than this length
  apart.
* **`auto_buckets_enclose_their_samples`**: the stretches of the buckets of a rule without a zone.
  -/

namespace ClusterMetrics

open ClusterMetrics.Calendar

namespace Calendar

/-- A number is less than a width **beyond its rounding down**. -/
theorem CalendarUnit.lt_roundDown_add {width : Nat} (h : 0 < width) (n : Int) :
    n < roundDown width n + width := by
  have hlt := Int.lt_ediv_add_one_mul_self n (Int.natCast_pos.2 h)
  rw [Int.add_mul, Int.one_mul] at hlt
  exact hlt

namespace StepGrid

variable (g : StepGrid)

/-- A step, set back by the number that steps are counted from, starts **no later than its
readings**. -/
theorem step_le (width : Nat) (t : Int) : g.step width t ≤ t + g.first * g.size := by
  have hcount := CalendarUnit.roundDown_le width (g.count_nonneg t)
  have hrest : (t - g.start (g.index t)) / g.size * g.size ≤ t - g.start (g.index t) :=
    Int.ediv_mul_le _ g.size_pos.ne'
  calc g.step width t
      ≤ g.start (g.index t) + g.count t * g.size :=
        Int.add_le_add_left (Int.mul_le_mul_of_nonneg_right hcount g.size_pos.le) _
    _ = g.start (g.index t) + (t - g.start (g.index t)) / g.size * g.size + g.first * g.size := by
        rw [count, Int.add_mul, Int.add_assoc]
    _ ≤ t + g.first * g.size := by omega

/-- A reading comes before **the end of its step**. -/
theorem lt_step_add {width : Nat} (h : 0 < width) (t : Int) :
    t + g.first * g.size < g.step width t + width * g.size := by
  -- the unit of a reading ends after it, and no later than its step does
  have hcount : g.count t + 1 ≤ CalendarUnit.roundDown width (g.count t) + width :=
    CalendarUnit.lt_roundDown_add h (g.count t)
  have hrest : t - g.start (g.index t) < ((t - g.start (g.index t)) / g.size + 1) * g.size :=
    Int.lt_ediv_add_one_mul_self _ g.size_pos
  calc t + g.first * g.size
      < g.start (g.index t) + ((t - g.start (g.index t)) / g.size + 1) * g.size
          + g.first * g.size := by omega
    _ = g.start (g.index t) + (g.count t + 1) * g.size := by
        rw [count]
        simp only [Int.add_mul]
        omega
    _ ≤ g.start (g.index t) + (CalendarUnit.roundDown width (g.count t) + width) * g.size :=
        Int.add_le_add_left (Int.mul_le_mul_of_nonneg_right hcount g.size_pos.le) _
    _ = g.step width t + width * g.size := by rw [step, Int.add_mul, Int.add_assoc]

end StepGrid

end Calendar

/-! ## Rules -/

/-- Every instant lies in a **stretch of one length at its bucket**, which starts `lead` seconds
before the bucket; and instants that share a bucket are less than the length apart. -/
structure Bucketing.Encloses (bucketing : Bucketing) (lead length : Int) : Prop where
  start_le : ∀ t, bucketing.bucket t - lead ≤ t
  lt_stop : ∀ t, t < bucketing.bucket t - lead + length
  near : ∀ s t, bucketing.bucket s = bucketing.bucket t → |s - t| < length

/-- Stretches of one length at the buckets **enclose** what shares a bucket. -/
theorem Bucketing.encloses_of_stretch {bucketing : Bucketing} {lead length : Int}
    (hstart : ∀ t, bucketing.bucket t ≤ t + lead)
    (hstop : ∀ t, t + lead < bucketing.bucket t + length) : bucketing.Encloses lead length where
  start_le t := by
    have h := hstart t
    omega
  lt_stop t := by
    have h := hstop t
    omega
  near s t heq := by
    have hs := hstart s
    have hs' := hstop s
    have ht := hstart t
    have ht' := hstop t
    rw [abs_lt]
    omega

/-- Stepped buckets enclose instants **as the steps of their grid do**. -/
theorem Bucketing.encloses_stepped (unit : CalendarUnit) {width : Nat} (h : 0 < width) :
    (Bucketing.stepped unit width).Encloses (unit.stepGrid.first * unit.stepGrid.size)
      (width * unit.stepGrid.size) := by
  have hbucket : (Bucketing.stepped unit width).bucket = unit.stepGrid.step width :=
    CalendarUnit.stepped_eq_step unit width
  refine encloses_of_stretch (fun t => ?_) (fun t => ?_)
  · rw [hbucket]
    exact unit.stepGrid.step_le width t
  · rw [hbucket]
    exact unit.stepGrid.lt_step_add h t

/-- **The buckets of a rule without a zone enclose their samples.** The rule puts every instant into
a bucket. A bucket of minutes or hours starts no later than an instant in it, and the instant comes
before the end of its width. A bucket of days counts the days of the month from one: the day before
the bucket starts no later than an instant in it, and the instant comes before the end of the width
from there. Instants in one bucket are less than its width apart. -/
theorem auto_buckets_enclose_their_samples (rule : BucketRule) (auto : rule.zoneName = none)
    (hwidth : 1 ≤ rule.width) :
    ∃ bucketing, rule.bucketing = .ok bucketing ∧
      (rule.unit = .minute → bucketing.Encloses 0 (rule.width * 60)) ∧
      (rule.unit = .hour → bucketing.Encloses 0 (rule.width * 3600)) ∧
      (rule.unit = .day → bucketing.Encloses 86400 (rule.width * 86400)) := by
  refine ⟨.stepped rule.unit rule.width, ?_, ?_, ?_, ?_⟩
  · rw [BucketRule.bucketing, auto]
  · intro hunit
    rw [hunit]
    exact Bucketing.encloses_stepped .minute hwidth
  · intro hunit
    rw [hunit]
    exact Bucketing.encloses_stepped .hour hwidth
  · intro hunit
    rw [hunit]
    exact Bucketing.encloses_stepped .day hwidth

/-- Days of a leap winter in steps of seven: the last step of January and the first of February. -/
def winterWeeks : BucketRule :=
  ⟨⟨1705276800000000, some 0⟩, ⟨1710892800000000, some 0⟩, .day, 7, none⟩

/-- The buckets of the last and of the first week of a month enclose its samples: 31 January lies in
the bucket of the 29th, whose stretch starts on the 28th, and 1 February in that of the month. -/
theorem weeks_of_a_leap_february :
    winterWeeks.zoneName = none ∧ 1 ≤ winterWeeks.width ∧
      ∃ bucketing, winterWeeks.bucketing = .ok bucketing ∧
        bucketing.Encloses 86400 (7 * 86400) ∧
        bucketing.bucket 1706702400 = 1706486400 ∧ bucketing.bucket 1706745600 = 1706745600 := by
  obtain ⟨bucketing, hb, -, -, hday⟩ :=
    auto_buckets_enclose_their_samples winterWeeks rfl (by decide)
  obtain rfl : .stepped .day 7 = bucketing := Except.ok.inj hb
  exact ⟨rfl, by decide, _, hb, hday rfl, by decide, by decide⟩

end ClusterMetrics
