import ClusterMetrics.Bucket.Rule
import ClusterMetrics.Proofs.UnitBoundaries
import Mathlib.Order.Bounds.Basic

/-! # Calendar buckets

A rule with a zone truncates the local clock: a bucket is the last start of a unit that the clock
has shown. Readings are compared by the fields of the wall clock; a unit starts where its smaller
fields are least, and two readings lie in one unit if its field and all larger ones agree.

* **`CalendarUnit.StartsAt`**, **`CalendarUnit.SameUnit`**: starts of a unit, and readings in one
  unit, by the fields. **`CalendarUnit.isBoundary_iff`**: the starts are the boundaries of the unit.
* **`CalendarUnit.isGreatest_truncate`**: truncation finds the last start.
  **`CalendarUnit.truncate_eq_iff`**: it tells units apart.
* **`CalendarUnit.truncate_truncate`**: a coarser unit may be found from a finer one.
* **`explicit_buckets_truncate_the_clock`**: all this of the buckets of a rule with a zone. -/

namespace ClusterMetrics

open ClusterMetrics.Calendar

namespace Calendar

/-! ## The fields of a reading -/

namespace CalendarUnit

/-- Whether a reading is one at which a unit **starts**: the fields below the unit are least. -/
def StartsAt : CalendarUnit → WallClock → Prop
  | minute, w => w.second = 0
  | hour, w => w.minute = 0 ∧ w.second = 0
  | day, w => w.hour = 0 ∧ w.minute = 0 ∧ w.second = 0
  | month, w => w.date.day = 1 ∧ w.hour = 0 ∧ w.minute = 0 ∧ w.second = 0
  | year, w => w.date.month = 1 ∧ w.date.day = 1 ∧ w.hour = 0 ∧ w.minute = 0 ∧ w.second = 0

/-- Whether two readings lie in **the same unit**: its field and the larger ones agree. -/
def SameUnit : CalendarUnit → WallClock → WallClock → Prop
  | minute, v, w => v.date = w.date ∧ v.hour = w.hour ∧ v.minute = w.minute
  | hour, v, w => v.date = w.date ∧ v.hour = w.hour
  | day, v, w => v.date = w.date
  | month, v, w => v.date.year = w.date.year ∧ v.date.month = w.date.month
  | year, v, w => v.date.year = w.date.year

instance (unit : CalendarUnit) (w : WallClock) : Decidable (unit.StartsAt w) := by
  cases unit <;> unfold StartsAt <;> infer_instance

instance (unit : CalendarUnit) (v w : WallClock) : Decidable (unit.SameUnit v w) := by
  cases unit <;> unfold SameUnit <;> infer_instance

/-- The fields of a **whole second**. -/
theorem ofSeconds_eq (t : Int) :
    WallClock.ofSeconds t = ⟨dateOf t, (t % 86400).toNat / 3600, (t % 86400).toNat / 60 % 60,
      (t % 86400).toNat % 60, 0⟩ := by
  have hsecond : t * 1000000 / 1000000 = t := Int.mul_ediv_cancel t (by decide)
  have hmicro : (t * 1000000 % 1000000).toNat = 0 := by omega
  rw [WallClock.ofSeconds, WallClock.ofMicros, hsecond, hmicro, dateOf]

/-- A month starts at **midnight of its first day**. -/
theorem isBoundary_month_iff (t : Int) :
    month.IsBoundary t ↔ (dateOf t).day = 1 ∧ t % 86400 = 0 := by
  rw [dateOf, Date.day_eq_one_iff]
  constructor
  · rintro ⟨year, month, hlower, hupper, rfl⟩
    have hquotient : (Date.mk year month 1).dayNumber * 86400 / 86400
        = (Date.mk year month 1).dayNumber := Int.mul_ediv_cancel _ (by decide)
    rw [hquotient, dayNumber_monthStart ⟨hlower, hupper⟩, Date.monthIndex_monthStart]
    exact ⟨rfl, Int.mul_emod_left _ _⟩
  · rintro ⟨hday, hrest⟩
    obtain ⟨hlower, hupper⟩ := (Date.monthIndex_ofDayNumber (t / 86400)).1
    refine ⟨(Date.ofDayNumber (t / 86400)).year, _, hlower, hupper, ?_⟩
    rw [dayNumber_monthStart ⟨hlower, hupper⟩]
    have hindex : (Date.mk (Date.ofDayNumber (t / 86400)).year
        (Date.ofDayNumber (t / 86400)).month 1).monthIndex
        = (Date.ofDayNumber (t / 86400)).monthIndex := rfl
    rw [hindex, ← hday]
    omega

/-- A year starts **with its first month**. -/
theorem isBoundary_year_iff (t : Int) :
    year.IsBoundary t ↔ (dateOf t).month = 1 ∧ month.IsBoundary t := by
  constructor
  · rintro ⟨year, rfl⟩
    have hquotient : (Date.mk year 1 1).dayNumber * 86400 / 86400 = yearStart year :=
      Int.mul_ediv_cancel _ (by decide)
    have hindex := Date.monthIndex_monthStart (12 * year - 2)
    obtain ⟨hmonth, -⟩ := Date.monthIndex_ofDayNumber (monthStart (12 * year - 2))
    refine ⟨?_, year, 1, by decide, by decide, rfl⟩
    rw [dateOf, hquotient, yearStart_eq_monthStart]
    rw [Date.monthIndex] at hindex
    omega
  · rintro ⟨hmonth, year, month, hlower, hupper, rfl⟩
    have hquotient : (Date.mk year month 1).dayNumber * 86400 / 86400
        = (Date.mk year month 1).dayNumber := Int.mul_ediv_cancel _ (by decide)
    have hindex := Date.monthIndex_monthStart (Date.mk year month 1).monthIndex
    rw [dateOf, hquotient, dayNumber_monthStart ⟨hlower, hupper⟩] at hmonth
    simp only [Date.monthIndex] at hindex hmonth
    obtain rfl : month = 1 := by omega
    exact ⟨year, rfl⟩

/-- The boundaries of a unit are the readings at which it **starts**. -/
theorem isBoundary_iff (unit : CalendarUnit) (t : Int) :
    unit.IsBoundary t ↔ unit.StartsAt (WallClock.ofSeconds t) := by
  rw [ofSeconds_eq]
  cases unit with
  | minute =>
    show 60 ∣ t ↔ (t % 86400).toNat % 60 = 0
    omega
  | hour =>
    show 3600 ∣ t ↔ (t % 86400).toNat / 60 % 60 = 0 ∧ (t % 86400).toNat % 60 = 0
    omega
  | day =>
    show 86400 ∣ t ↔ (t % 86400).toNat / 3600 = 0 ∧ (t % 86400).toNat / 60 % 60 = 0 ∧
      (t % 86400).toNat % 60 = 0
    omega
  | month =>
    rw [isBoundary_month_iff]
    show _ ↔ (dateOf t).day = 1 ∧ (t % 86400).toNat / 3600 = 0 ∧ (t % 86400).toNat / 60 % 60 = 0 ∧
      (t % 86400).toNat % 60 = 0
    omega
  | year =>
    rw [isBoundary_year_iff, isBoundary_month_iff]
    show _ ↔ (dateOf t).month = 1 ∧ (dateOf t).day = 1 ∧ (t % 86400).toNat / 3600 = 0 ∧
      (t % 86400).toNat / 60 % 60 = 0 ∧ (t % 86400).toNat % 60 = 0
    omega

/-! ## The last start -/

/-- Truncation ends **at a boundary**. -/
theorem isBoundary_truncate (unit : CalendarUnit) (t : Int) :
    unit.IsBoundary (unit.truncate t) := by
  cases unit with
  | minute => exact Int.dvd_self_sub_emod
  | hour => exact Int.dvd_self_sub_emod
  | day => exact Int.dvd_self_sub_emod
  | month =>
    obtain ⟨hlower, hupper⟩ := (Date.monthIndex_ofDayNumber (t / 86400)).1
    exact ⟨(dateOf t).year, (dateOf t).month, hlower, hupper, rfl⟩
  | year => exact ⟨(dateOf t).year, rfl⟩

/-- A boundary is not after a reading exactly if it is **not after its unit**. -/
theorem le_truncate_iff {unit : CalendarUnit} {b : Int} (hb : unit.IsBoundary b) (t : Int) :
    b ≤ unit.truncate t ↔ b ≤ t := by
  rw [← Int.not_lt, truncate_lt_iff hb, Int.not_lt]

/-- Truncation finds **the last boundary** that is not after a reading. -/
theorem isGreatest_truncate (unit : CalendarUnit) (t : Int) :
    IsGreatest {b | unit.IsBoundary b ∧ b ≤ t} (unit.truncate t) := by
  constructor
  · have hboundary := isBoundary_truncate unit t
    exact ⟨hboundary, (le_truncate_iff hboundary t).1 le_rfl⟩
  · rintro b ⟨hb, hle⟩
    exact (le_truncate_iff hb t).2 hle

/-- Truncation **tells units apart**: it takes two readings to one if they lie in the same unit. -/
theorem truncate_eq_iff (unit : CalendarUnit) (s t : Int) :
    unit.truncate s = unit.truncate t ↔
      unit.SameUnit (WallClock.ofSeconds s) (WallClock.ofSeconds t) := by
  have hdate : dateOf s = dateOf t ↔ s / 86400 = t / 86400 := Date.ofDayNumber_inj
  rw [ofSeconds_eq, ofSeconds_eq]
  cases unit with
  | minute =>
    show s - s % 60 = t - t % 60 ↔ dateOf s = dateOf t ∧
      (s % 86400).toNat / 3600 = (t % 86400).toNat / 3600 ∧
      (s % 86400).toNat / 60 % 60 = (t % 86400).toNat / 60 % 60
    rw [hdate]
    omega
  | hour =>
    show s - s % 3600 = t - t % 3600 ↔ dateOf s = dateOf t ∧
      (s % 86400).toNat / 3600 = (t % 86400).toNat / 3600
    rw [hdate]
    omega
  | day =>
    show s - s % 86400 = t - t % 86400 ↔ dateOf s = dateOf t
    rw [hdate]
    omega
  | month =>
    have hs : 1 ≤ (dateOf s).month ∧ (dateOf s).month ≤ 12 :=
      (Date.monthIndex_ofDayNumber (s / 86400)).1
    have ht : 1 ≤ (dateOf t).month ∧ (dateOf t).month ≤ 12 :=
      (Date.monthIndex_ofDayNumber (t / 86400)).1
    show (Date.mk (dateOf s).year (dateOf s).month 1).dayNumber * 86400
        = (Date.mk (dateOf t).year (dateOf t).month 1).dayNumber * 86400 ↔
      (dateOf s).year = (dateOf t).year ∧ (dateOf s).month = (dateOf t).month
    -- months that start together have one index, and the index gives year and month
    rw [Int.mul_eq_mul_right_iff (by decide), dayNumber_monthStart hs, dayNumber_monthStart ht,
      (strictMono_int_of_lt_succ monthStart_lt_succ).injective.eq_iff]
    simp only [Date.monthIndex]
    omega
  | year =>
    have hmono : StrictMono yearStart := fun _ _ => yearStart_lt
    show yearStart (dateOf s).year * 86400 = yearStart (dateOf t).year * 86400 ↔
      (dateOf s).year = (dateOf t).year
    rw [Int.mul_eq_mul_right_iff (by decide), hmono.injective.eq_iff]

/-! ## Finer and coarser units -/

/-- Whether a unit is **no coarser** than another: it is listed no later. -/
def IsNoCoarser (fine coarse : CalendarUnit) : Prop := all.idxOf fine ≤ all.idxOf coarse

instance (fine coarse : CalendarUnit) : Decidable (IsNoCoarser fine coarse) := by
  unfold IsNoCoarser
  infer_instance

/-- The seconds that every boundary of a unit is **a multiple of**: those of a minute, an hour or a
day. -/
def seconds : CalendarUnit → Int
  | minute => 60
  | hour => 3600
  | _ => 86400

/-- A boundary is a **whole number** of minutes, hours or days. -/
theorem seconds_dvd {unit : CalendarUnit} {b : Int} (hb : unit.IsBoundary b) :
    unit.seconds ∣ b := by
  cases unit with
  | minute => exact hb
  | hour => exact hb
  | day => exact hb
  | month =>
    obtain ⟨year, month, -, -, rfl⟩ := hb
    exact Int.dvd_mul_left _ _
  | year =>
    obtain ⟨year, rfl⟩ := hb
    exact Int.dvd_mul_left _ _

/-- The boundaries of a unit are boundaries **of every finer one**. -/
theorem isBoundary_of_isNoCoarser {fine coarse : CalendarUnit} (h : IsNoCoarser fine coarse)
    {b : Int} (hb : coarse.IsBoundary b) : fine.IsBoundary b := by
  -- this is all there is to say of minutes, hours and days
  have hdvd : fine.seconds ∣ b := by
    refine Int.dvd_trans ?_ (seconds_dvd hb)
    revert h
    cases fine <;> cases coarse <;> decide
  cases fine with
  | minute => exact hdvd
  | hour => exact hdvd
  | day => exact hdvd
  | month =>
    cases coarse with
    | month => exact hb
    | year => exact ((isBoundary_year_iff b).1 hb).2
    | minute => exact absurd h (by decide)
    | hour => exact absurd h (by decide)
    | day => exact absurd h (by decide)
  | year =>
    cases coarse with
    | year => exact hb
    | minute => exact absurd h (by decide)
    | hour => exact absurd h (by decide)
    | day => exact absurd h (by decide)
    | month => exact absurd h (by decide)

/-- Truncating to a coarser unit **after a finer one** is truncating to the coarser one. -/
theorem truncate_truncate {fine coarse : CalendarUnit} (h : IsNoCoarser fine coarse) (t : Int) :
    coarse.truncate (fine.truncate t) = coarse.truncate t := by
  refine (isGreatest_truncate coarse (fine.truncate t)).unique ?_
  -- the boundaries of the coarser unit do not tell a reading from the start of its finer one
  have hsame : {b | coarse.IsBoundary b ∧ b ≤ fine.truncate t}
      = {b | coarse.IsBoundary b ∧ b ≤ t} := by
    ext b
    exact and_congr_right fun hb => le_truncate_iff (isBoundary_of_isNoCoarser h hb) t
  rw [hsame]
  exact isGreatest_truncate coarse t

end CalendarUnit

end Calendar

/-! ## Rules -/

/-- A rule with a zone puts instants into buckets exactly if **the zone exists**. -/
theorem BucketRule.bucketing_eq_ok_iff {rule : BucketRule} {name : String}
    (explicit : rule.zoneName = some name) {bucketing : Bucketing} :
    rule.bucketing = .ok bucketing ↔
      ∃ zone, Zone.find name = .zone zone ∧ bucketing = .calendar rule.unit zone := by
  simp only [BucketRule.bucketing, explicit]
  cases Zone.find name with
  | zone zone => simp [eq_comm]
  | obstructed obstacle => simp
  | missing => simp

/-- **The buckets of a rule with a zone truncate its clock.** Wherever such a rule puts instants
into buckets, the bucket of an instant is the last start of a unit that is not after what the clock
of the zone shows; so instants share a bucket exactly if the clock shows the same unit at both. The
bucket itself is truncated to itself, and truncating it to a coarser unit is truncating the clock.
-/
theorem explicit_buckets_truncate_the_clock {rule : BucketRule} {name : String}
    (explicit : rule.zoneName = some name) {bucketing : Bucketing}
    (answers : rule.bucketing = .ok bucketing) :
    ∃ zone, Zone.find name = .zone zone ∧
      (∀ t, IsGreatest {b | rule.unit.StartsAt (WallClock.ofSeconds b) ∧ b ≤ zone.localSeconds t}
        (bucketing.bucket t)) ∧
      (∀ s t, bucketing.bucket s = bucketing.bucket t ↔
        rule.unit.SameUnit (WallClock.ofSeconds (zone.localSeconds s))
          (WallClock.ofSeconds (zone.localSeconds t))) ∧
      (∀ t, rule.unit.truncate (bucketing.bucket t) = bucketing.bucket t) ∧
      ∀ coarse, CalendarUnit.IsNoCoarser rule.unit coarse → ∀ t,
        coarse.truncate (bucketing.bucket t) = coarse.truncate (zone.localSeconds t) := by
  obtain ⟨zone, hfind, rfl⟩ := (BucketRule.bucketing_eq_ok_iff explicit).1 answers
  refine ⟨zone, hfind, fun t => ?_, fun s t => ?_, fun t => ?_, fun coarse hcoarse t => ?_⟩
  · simp only [← CalendarUnit.isBoundary_iff]
    exact rule.unit.isGreatest_truncate (zone.localSeconds t)
  · exact rule.unit.truncate_eq_iff (zone.localSeconds s) (zone.localSeconds t)
  · exact CalendarUnit.truncate_truncate (Nat.le_refl _) (zone.localSeconds t)
  · exact CalendarUnit.truncate_truncate hcoarse (zone.localSeconds t)

/-- Hours of a clock that is five and a half hours ahead of UTC. -/
def hoursOfKolkata : BucketRule :=
  ⟨⟨0, some 0⟩, ⟨86400000000, some 0⟩, .hour, 1, some "Asia/Kolkata"⟩

/-- The clock of Kolkata starts an hour at the half hour of UTC: from 23:30 to 23:59:59 UTC it shows
the hour from five, which is one bucket and lies in the next day, and at 00:30 the hour from six. -/
theorem hours_of_a_half_hour_zone :
    hoursOfKolkata.zoneName = some "Asia/Kolkata" ∧
      ∃ bucketing, hoursOfKolkata.bucketing = .ok bucketing ∧
        bucketing.bucket 1704065400 = bucketing.bucket 1704067199 ∧
        bucketing.bucket 1704067199 ≠ bucketing.bucket 1704069000 ∧
        CalendarUnit.day.truncate (bucketing.bucket 1704067199) = 1704067200 := by
  -- all readings in one evaluation, as each has to read the history of the zone
  have hreadings : (Zone.find "Asia/Kolkata").zone?.map
      (fun z => [z.localSeconds 1704065400, z.localSeconds 1704067199, z.localSeconds 1704069000])
      = some [1704085200, 1704086999, 1704088800] := by decide +kernel
  obtain ⟨zone, hzone, hreadings⟩ := Option.map_eq_some_iff.1 hreadings
  have hfind := Zone.Lookup.zone?_eq_some_iff.1 hzone
  simp only [List.cons.injEq, and_true] at hreadings
  obtain ⟨hfirst, hlast, hnext⟩ := hreadings
  have hb : hoursOfKolkata.bucketing = .ok (.calendar .hour zone) :=
    (BucketRule.bucketing_eq_ok_iff rfl).2 ⟨zone, hfind, rfl⟩
  obtain ⟨zone', hfind', -, hsame, -, hcoarse⟩ := explicit_buckets_truncate_the_clock rfl hb
  obtain rfl : zone = zone' := Zone.Lookup.zone.inj (hfind.symm.trans hfind')
  refine ⟨rfl, _, hb, ?_, ?_, ?_⟩
  · rw [hsame, hfirst, hlast]
    decide
  · rw [Ne, hsame, hlast, hnext]
    decide
  · rw [hcoarse .day (by decide), hlast]
    decide

end ClusterMetrics
