import ClusterMetrics.Bucket.Rule
import ClusterMetrics.Calendar.Timestamp
import ClusterMetrics.Proofs.MonthStarts
import ClusterMetrics.Proofs.NearestRatios

/-! # The seconds of a range

The bounds of a range are instants in microseconds. They are rounded to the nearest double of
seconds, and then up to a whole second. A bound that is not after a whole second below `2 ^ 53` is
not rounded past it, nor is one that is not before it; the seconds of dates lie far below.

* **`ceilSecond_le`**, **`le_ceilSecond`**: the second of a bound does not pass a whole second.
* **`Moment.IsDated`**: whether a moment has a date of four digits. **`Timestamp.isDated_of_parse?`**:
  texts denote such moments. **`Moment.IsDated.second_lt`**: their seconds are below `2 ^ 53`. -/

namespace ClusterMetrics

open ClusterMetrics.Decimal ClusterMetrics.Decimal.Binary

/-! ## Bounds -/

/-- The second of a bound is rounded up, so **down in magnitude** before 1970. -/
theorem ceilSecond_eq (instant : Int) :
    ceilSecond instant
      = if instant < 0 then -((ofRatio instant 1000000).floorMagnitude : Int)
        else (((ofRatio instant 1000000).numerator + ((ofRatio instant 1000000).denominator - 1))
          / (ofRatio instant 1000000).denominator : Nat) := by
  have hnegative : (ofRatio instant 1000000).negative = decide (instant < 0) := rfl
  rw [ceilSecond, ceil, hnegative]
  simp only [decide_eq_true_eq]

variable {instant second : Int} (hsecond : second.natAbs < twoTo 53)
include hsecond

/-- A bound that is **not after** a whole second is not rounded past it. -/
theorem ceilSecond_le (h : instant ≤ second * 1000000) : ceilSecond instant ≤ second := by
  rw [ceilSecond_eq]
  by_cases hinstant : instant < 0
  · rw [if_pos hinstant]
    by_cases hnegative : second < 0
    · have hle : second.natAbs * 1000000 ≤ instant.natAbs := by omega
      have hfloor := (le_div_of_le_numerator
        (le_numerator_ofRatio (by omega) hsecond hle)).1
      omega
    · omega
  · rw [if_neg hinstant]
    have hle : instant.natAbs ≤ second.natAbs * 1000000 := by omega
    have hceil := (div_le_of_numerator_le (numerator_ofRatio_le (by omega) hsecond hle)).2
    omega

/-- A bound that is **not before** a whole second is not rounded before it. -/
theorem le_ceilSecond (h : second * 1000000 ≤ instant) : second ≤ ceilSecond instant := by
  rw [ceilSecond_eq]
  by_cases hinstant : instant < 0
  · rw [if_pos hinstant]
    have hle : instant.natAbs ≤ second.natAbs * 1000000 := by omega
    have hfloor := (div_le_of_numerator_le (numerator_ofRatio_le (by omega) hsecond hle)).1
    omega
  · rw [if_neg hinstant]
    by_cases hnegative : second < 0
    · exact hnegative.le.trans (Int.natCast_nonneg _)
    · have hle : second.natAbs * 1000000 ≤ instant.natAbs := by omega
      have hceil := (le_div_of_le_numerator
        (le_numerator_ofRatio (by omega) hsecond hle)).2
      omega

/-- A whole second is **the second of itself**. -/
theorem ceilSecond_mul : ceilSecond (second * 1000000) = second :=
  Int.le_antisymm (ceilSecond_le hsecond le_rfl) (le_ceilSecond hsecond le_rfl)

end ClusterMetrics

/-! ## Dated moments -/

namespace ClusterMetrics.Calendar

/-- Whether a moment has **a date** in the years 1 to 9999, on a clock that is less than a day ahead
of UTC or behind it. -/
def Moment.IsDated (m : Moment) : Prop :=
  (∃ w : WallClock, w.IsValid ∧ m.wall = w.micros) ∧
    (m.offset.getD 0).natAbs < Timestamp.dayMicros

/-- A date of four digits is **a few million days** from 1970. -/
theorem dayNumber_bounds {d : Date} (hvalid : d.IsValid) (hlower : 1 ≤ d.year)
    (hupper : d.year ≤ 9999) : -1000000 ≤ d.dayNumber ∧ d.dayNumber ≤ 3000000 := by
  obtain ⟨hmonth, hmonth', hday, hday'⟩ := hvalid
  have hlength := Date.monthLength_le d.year d.month
  have hfirst : monthStart 10 ≤ monthStart d.monthIndex := monthStart_le (by
    rw [Date.monthIndex]
    omega)
  have hlast : monthStart d.monthIndex ≤ monthStart 119997 := monthStart_le (by
    rw [Date.monthIndex]
    omega)
  have hbounds : -1000000 ≤ monthStart 10 ∧ monthStart 119997 ≤ 2999000 := by decide
  rw [Date.dayNumber_eq_monthStart hmonth hmonth']
  omega

/-- The second of a dated moment is **below `2 ^ 53`**. -/
theorem Moment.IsDated.second_lt {m : Moment} (h : m.IsDated) {second : Int}
    (hsecond : m.instant = second * 1000000) : second.natAbs < Decimal.twoTo 53 := by
  obtain ⟨⟨w, ⟨hyear, hyear', hdate, hhour, hminute, hwhole, hmicro⟩, hwall⟩, hoffset⟩ := h
  have hday := dayNumber_bounds hdate hyear hyear'
  have htwo : Decimal.twoTo 53 = 9007199254740992 := rfl
  rw [Moment.instant, hwall, WallClock.micros, WallClock.seconds] at hsecond
  have hoffset' : (m.offset.getD 0).natAbs < 86400000000 := hoffset
  omega

namespace Timestamp

/-- An offset that is read is **less than a day**. -/
theorem natAbs_lt_of_readOffset? {s : List Char} {offset : Int} (h : readOffset? s = some offset) :
    offset.natAbs < dayMicros := by
  cases s with
  | nil => simp [readOffset?] at h
  | cons sign rest =>
    rw [readOffset?] at h
    split at h
    · obtain rfl := Option.some.inj h
      decide
    · split at h
      · obtain ⟨n, -, hn⟩ := Option.bind_eq_some_iff.1 h
        split at hn
        · obtain rfl := Option.some.inj hn
          split <;> omega
        · cases hn
      · cases h

/-- A timestamp with an offset has one of **less than a day**. -/
theorem natAbs_lt_of_readWithOffset? {s : List Char} {r : WallClock × Int}
    (h : readWithOffset? s = some r) : r.2.natAbs < dayMicros := by
  simp only [readWithOffset?, Option.bind_eq_bind] at h
  obtain ⟨_, -, h⟩ := Option.bind_eq_some_iff.1 h
  obtain ⟨_, -, h⟩ := Option.bind_eq_some_iff.1 h
  obtain ⟨_, -, h⟩ := Option.bind_eq_some_iff.1 h
  simp only [readRest?.eq_def, Option.bind_eq_bind, Option.pure_def] at h
  split at h
  · obtain ⟨_, -, h⟩ := Option.bind_eq_some_iff.1 h
    obtain ⟨offset, hoffset, h⟩ := Option.bind_eq_some_iff.1 h
    cases h
    exact natAbs_lt_of_readOffset? hoffset
  · obtain ⟨offset, hoffset, h⟩ := Option.bind_eq_some_iff.1 h
    cases h
    exact natAbs_lt_of_readOffset? hoffset

/-- The literal form is read **as UTC**. -/
theorem eq_zero_of_readLiteral? {s : List Char} {r : WallClock × Int}
    (h : readLiteral? s = some r) : r.2 = 0 := by
  simp only [readLiteral?, Option.bind_eq_bind, Option.pure_def] at h
  obtain ⟨_, -, h⟩ := Option.bind_eq_some_iff.1 h
  obtain ⟨_, -, h⟩ := Option.bind_eq_some_iff.1 h
  obtain ⟨_, -, h⟩ := Option.bind_eq_some_iff.1 h
  split at h
  · cases h
    rfl
  · cases h

/-- A reading that a clock can show makes **a dated moment**. -/
theorem isDated_of_moment? {r : WallClock × Int} (hoffset : r.2.natAbs < dayMicros) {m : Moment}
    (h : moment? r = some m) : m.IsDated := by
  obtain ⟨w, offset⟩ := r
  rw [moment?] at h
  split at h
  · rename_i hvalid
    obtain rfl := Option.some.inj h
    exact ⟨⟨w, hvalid, rfl⟩, hoffset⟩
  · cases h

/-- A text denotes **dated moments** only. -/
theorem isDated_of_parse? {text : String} {m : Moment} (h : parse? text = some m) : m.IsDated := by
  rw [parse?] at h
  split at h
  · rename_i hread
    obtain rfl := Option.some.inj h
    obtain ⟨r, hr, hm⟩ := Option.bind_eq_some_iff.1 hread
    exact isDated_of_moment? (natAbs_lt_of_readWithOffset? hr) hm
  · obtain ⟨r, hr, hm⟩ := Option.bind_eq_some_iff.1 h
    refine isDated_of_moment? ?_ hm
    rw [eq_zero_of_readLiteral? hr]
    decide

end Timestamp

end ClusterMetrics.Calendar
