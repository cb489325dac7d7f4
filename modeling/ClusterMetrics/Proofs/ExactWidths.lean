import ClusterMetrics.Proofs.PlannedWidths

/-! # Exact widths

The hours of a range are counted by two divisions in doubles. For a range in whole seconds none of
the three roundings passes the next hour: a range that ends before it ends a second before it at
least, and a part by `2 ^ 12` of an hour is less than a second. So the width is the one that whole
numbers give, and it is the same for all spellings of the bounds.

* **`Binary.numerator_divNat_le_part`**: dividing a double does not pass a part of a whole number.
* **`rangeHours_eq`**: the hours of a range in whole seconds.
* **`BucketRule.HasStepsFor`**: the steps for a number of hours.
* **`widths_are_exact`**: which rule a range in whole seconds has. -/

namespace ClusterMetrics

open ClusterMetrics.Calendar ClusterMetrics.Decimal ClusterMetrics.Decimal.Binary

/-! ## Hours -/

/-- The quotient of a double by a number is **not above** a part by `2 ^ m` of a whole number below
`2 ^ 53` that holds the double as many times. -/
theorem Decimal.Binary.numerator_divNat_le_part {b : Binary} {j k m : Nat} (hj : 0 < j)
    (hk : k < twoTo 53) (hm : m ≤ 1074) (h : b.numerator * twoTo m ≤ k * j * b.denominator) :
    (b.divNat j).numerator * twoTo m ≤ k * (b.divNat j).denominator := by
  refine numerator_ofRatio_le_part (Nat.mul_pos b.denominator_pos hj) hk hm ?_
  calc _ = b.numerator * twoTo m := by rw [natAbs_value]
    _ ≤ k * j * b.denominator := h
    _ = k * (b.denominator * j) := by rw [Nat.mul_comm b.denominator, Nat.mul_assoc]

/-- A range of some whole seconds has **no more hours** than the seconds. -/
theorem rangeHours_le {seconds : Nat} (hsmall : seconds < twoTo 42) :
    rangeHours (seconds * 1000000) ≤ max 1 (seconds / 3600) := by
  have hforty : twoTo 42 = 4398046511104 := rfl
  have hfifty : twoTo 53 = 9007199254740992 := rfl
  have hsix : twoTo 6 = 64 := rfl
  have htwelve : twoTo 12 = 4096 := rfl
  -- the range ends a second before its next hour at the latest
  have hshort : seconds + 1 ≤ 3600 * (seconds / 3600 + 1) := by omega
  have hquotient : seconds / 3600 * 3600 ≤ seconds := Nat.div_mul_le_self _ _
  have hseconds : (ofRatio (seconds * 1000000) 1000000).numerator
      ≤ seconds * (ofRatio (seconds * 1000000) 1000000).denominator :=
    numerator_ofRatio_le (by decide) (by omega) (by omega)
  rw [rangeHours]
  generalize ofRatio (seconds * 1000000) 1000000 = inSeconds at hseconds ⊢
  generalize seconds / 3600 = hours at hshort hquotient ⊢
  -- the minutes end a part by `2 ^ 6` before the next hour, and the hours a part by `2 ^ 12`
  have hminutes : (inSeconds.divNat 60).numerator * twoTo 6
      ≤ (3840 * hours + 3839) * (inSeconds.divNat 60).denominator := by
    apply numerator_divNat_le_part (by decide) (by omega) (by decide)
    calc inSeconds.numerator * twoTo 6
        ≤ seconds * inSeconds.denominator * twoTo 6 := Nat.mul_le_mul_right _ hseconds
      _ = seconds * 64 * inSeconds.denominator := by rw [hsix, Nat.mul_right_comm]
      _ ≤ (3840 * hours + 3839) * 60 * inSeconds.denominator :=
        Nat.mul_le_mul_right _ (by omega)
  generalize inSeconds.divNat 60 = inMinutes at hminutes ⊢
  have hhours : (inMinutes.divNat 60).numerator * twoTo 12
      ≤ (4096 * hours + 4095) * (inMinutes.divNat 60).denominator := by
    apply numerator_divNat_le_part (by decide) (by omega) (by decide)
    calc inMinutes.numerator * twoTo 12
        = inMinutes.numerator * twoTo 6 * 64 := by rw [Nat.mul_assoc]; rfl
      _ ≤ (3840 * hours + 3839) * inMinutes.denominator * 64 := Nat.mul_le_mul_right _ hminutes
      _ = (3840 * hours + 3839) * 64 * inMinutes.denominator := Nat.mul_right_comm _ _ _
      _ ≤ (4096 * hours + 4095) * 60 * inMinutes.denominator :=
        Nat.mul_le_mul_right _ (by omega)
  generalize inMinutes.divNat 60 = inHours at hhours ⊢
  have hless : inHours.floorMagnitude < hours + 1 := by
    refine (Nat.div_lt_iff_lt_mul inHours.denominator_pos).2 ?_
    refine Nat.lt_of_mul_lt_mul_right (a := twoTo 12) (hhours.trans_lt ?_)
    have hpos := inHours.denominator_pos
    rw [htwelve, Nat.mul_right_comm]
    exact Nat.mul_lt_mul_of_pos_right (by omega) hpos
  omega

/-- The hours of a range in whole seconds are **those that end in it**, or one. -/
theorem rangeHours_eq {seconds : Nat} (hsmall : seconds < twoTo 42) :
    rangeHours (seconds * 1000000) = max 1 (seconds / 3600) := by
  have hforty : twoTo 42 = 4398046511104 := rfl
  have hfifty : twoTo 53 = 9007199254740992 := rfl
  refine Nat.le_antisymm (rangeHours_le hsmall) (Nat.max_le.2 ⟨Nat.le_max_right _ _, ?_⟩)
  exact le_rangeHours (by omega) (by omega)

/-! ## Rules -/

/-- A name that **no unit has** asks for none. -/
theorem Calendar.CalendarUnit.ofName?_eq_none {name : String}
    (unnamed : ∀ unit : CalendarUnit, unit.name ≠ name) : ofName? name = none :=
  List.find?_eq_none.2 fun unit _ => by simpa using unnamed unit

/-- The **steps for a number of hours**: as many minutes below sixty hours, hours below sixty days, and
days beyond, each a sixtieth of the hours rounded down. -/
structure BucketRule.HasStepsFor (rule : BucketRule) (hours : Nat) : Prop where
  in_minutes : hours < 60 → rule.unit = .minute ∧ rule.width = hours
  in_hours : 60 ≤ hours → hours < 1440 → rule.unit = .hour ∧ rule.width = hours / 60
  in_days : 1440 ≤ hours → rule.unit = .day ∧ rule.width = hours / 1440

/-- A rule without a unit of its own has **the steps for its hours**. -/
theorem hasStepsFor_ruleBetween (start stop : Moment) (zone : String) (hours : Nat) :
    (ruleBetween start stop zone none (autoUnit hours)).HasStepsFor hours where
  in_minutes hminutes := by
    rw [autoUnit, if_pos hminutes]
    exact ⟨rfl, rfl⟩
  in_hours hlower hupper := by
    rw [autoUnit, if_neg (Nat.not_lt.2 hlower), if_pos hupper]
    exact ⟨rfl, rfl⟩
  in_days hdays := by
    rw [autoUnit, if_neg (by omega), if_neg (Nat.not_lt.2 hdays)]
    exact ⟨rfl, rfl⟩

/-- Steps are **never empty**, and never as long as the next unit. -/
theorem BucketRule.HasStepsFor.width_bounds {rule : BucketRule} {hours : Nat}
    (h : rule.HasStepsFor hours) (hpos : 0 < hours) :
    0 < rule.width ∧ (rule.unit = .minute → rule.width < 60) ∧
      (rule.unit = .hour → rule.width < 24) := by
  by_cases hminutes : hours < 60
  · obtain ⟨hunit, hwidth⟩ := h.in_minutes hminutes
    rw [hunit, hwidth]
    exact ⟨hpos, fun _ => hminutes, nofun⟩
  · by_cases hhours : hours < 1440
    · obtain ⟨hunit, hwidth⟩ := h.in_hours (Nat.not_lt.1 hminutes) hhours
      rw [hunit, hwidth]
      exact ⟨by omega, nofun, fun _ => by omega⟩
    · obtain ⟨hunit, hwidth⟩ := h.in_days (Nat.not_lt.1 hhours)
      rw [hunit, hwidth]
      exact ⟨by omega, nofun, nofun⟩

section Spellings

variable {first last granularity : String} {start stop : Moment}
  (hstart : parseBound first = .ok start) (hstop : parseBound last = .ok stop)
  (unnamed : ∀ unit : CalendarUnit, unit.name ≠ granularity)
include hstart hstop unnamed

/-- A range without a unit of its own whose bounds are in order is planned **in steps** of its
hours. -/
theorem planBuckets_of_unnamed (zone : String) (hle : start.instant ≤ stop.instant) :
    planBuckets [first, last] zone granularity = .ok
      (ruleBetween start stop zone none (autoUnit (rangeHours (stop.instant - start.instant)))) :=
  planBuckets_eq_ok_iff.2 ⟨first, last, start, stop, rfl, hstart, hstop, hle, by
    rw [CalendarUnit.ofName?_eq_none unnamed]⟩

/-- **Widths are exact.** A range in whole seconds without a unit of its own always has a rule. The
rule has no zone, and the steps for the hours that end in the range, or for one hour; so its width is
never zero, its minutes are fewer than an hour and its hours fewer than a day. Whatever else denotes
the same two instants, with whatever zone and granularity without a unit, has a rule of the same
steps and seconds. -/
theorem widths_are_exact (zone : String) (seconds : Nat)
    (hseconds : stop.instant = start.instant + seconds * 1000000) :
    ∃ rule, planBuckets [first, last] zone granularity = .ok rule ∧
      rule.start = start ∧ rule.stop = stop ∧ rule.zoneName = none ∧
      rule.bucketing = .ok (.stepped rule.unit rule.width) ∧
      rule.HasStepsFor (max 1 (seconds / 3600)) ∧
      0 < rule.width ∧ (rule.unit = .minute → rule.width < 60) ∧
      (rule.unit = .hour → rule.width < 24) ∧
      ∀ {first' last' granularity' : String} {start' stop' : Moment} (zone' : String),
        parseBound first' = .ok start' → parseBound last' = .ok stop' →
        (∀ unit : CalendarUnit, unit.name ≠ granularity') →
        start'.instant = start.instant → stop'.instant = stop.instant →
        ∃ rule', planBuckets [first', last'] zone' granularity' = .ok rule' ∧
          rule'.unit = rule.unit ∧ rule'.width = rule.width ∧
          rule'.startSecond = rule.startSecond ∧ rule'.endSecond = rule.endSecond := by
  have hfirst := (isDated_of_parseBound hstart).instant_bounds
  have hlast := (isDated_of_parseBound hstop).instant_bounds
  have hforty : twoTo 42 = 4398046511104 := rfl
  have hhours : rangeHours (stop.instant - start.instant) = max 1 (seconds / 3600) := by
    rw [show stop.instant - start.instant = seconds * 1000000 by omega]
    exact rangeHours_eq (by omega)
  have hplan := planBuckets_of_unnamed hstart hstop unnamed zone (by omega)
  rw [hhours] at hplan
  have hsteps := hasStepsFor_ruleBetween start stop zone (max 1 (seconds / 3600))
  obtain ⟨hwidth, hminute, hhour⟩ := hsteps.width_bounds (Nat.le_max_left _ _)
  refine ⟨_, hplan, rfl, rfl, rfl, rfl, hsteps, hwidth, hminute, hhour, ?_⟩
  intro first' last' granularity' start' stop' zone' hstart' hstop' unnamed' hsame hsame'
  have hplan' := planBuckets_of_unnamed hstart' hstop' unnamed' zone' (by omega)
  rw [hsame, hsame', hhours] at hplan'
  exact ⟨_, hplan', rfl, rfl, congrArg ceilSecond hsame, congrArg ceilSecond hsame'⟩

end Spellings

/-- Sixty hours are planned **in steps of an hour**, a second less in steps of 59 minutes, and the sixty
hours alike if they are written on the clock of UTC. -/
theorem widths_of_sixty_hours :
    (∃ rule, planBuckets ["2024-01-15T09:00:00+09:00", "2024-01-17 12:00:00"] "" "" = .ok rule ∧
        rule.unit = .hour ∧ rule.width = 1 ∧
        ∃ rule', planBuckets ["2024-01-15 00:00:00", "2024-01-17T12:00:00Z"] "Asia/Seoul" "week"
            = .ok rule' ∧
          rule'.unit = .hour ∧ rule'.width = 1 ∧ rule'.startSecond = rule.startSecond ∧
          rule'.endSecond = rule.endSecond) ∧
      ∃ rule, planBuckets ["2024-01-15T09:00:00+09:00", "2024-01-17 11:59:59"] "" "" = .ok rule ∧
        rule.unit = .minute ∧ rule.width = 59 := by
  have hstart : parseBound "2024-01-15T09:00:00+09:00"
      = .ok ⟨1705309200000000, some 32400000000⟩ := rfl
  have hstart' : parseBound "2024-01-15 00:00:00" = .ok ⟨1705276800000000, some 0⟩ := rfl
  have hstop : parseBound "2024-01-17 12:00:00" = .ok ⟨1705492800000000, some 0⟩ := rfl
  have hstop' : parseBound "2024-01-17T12:00:00Z" = .ok ⟨1705492800000000, some 0⟩ := rfl
  have hearlier : parseBound "2024-01-17 11:59:59" = .ok ⟨1705492799000000, some 0⟩ := rfl
  have hempty : ∀ unit : CalendarUnit, unit.name ≠ "" := by rintro (_ | _ | _ | _ | _) <;> decide
  have hweek : ∀ unit : CalendarUnit, unit.name ≠ "week" := by
    rintro (_ | _ | _ | _ | _) <;> decide
  constructor
  · obtain ⟨rule, hplan, -, -, -, -, hsteps, -, -, -, hsame⟩ :=
      widths_are_exact hstart hstop hempty "" 216000 (by decide)
    obtain ⟨hunit, hwidth⟩ := hsteps.in_hours (by decide) (by decide)
    obtain ⟨rule', hplan', hunit', hwidth', hfirst, hlast⟩ :=
      hsame "Asia/Seoul" hstart' hstop' hweek (by decide) (by decide)
    exact ⟨rule, hplan, hunit, hwidth, rule', hplan', hunit'.trans hunit, hwidth'.trans hwidth,
      hfirst, hlast⟩
  · obtain ⟨rule, hplan, -, -, -, -, hsteps, -⟩ :=
      widths_are_exact hstart hearlier hempty "" 215999 (by decide)
    obtain ⟨hunit, hwidth⟩ := hsteps.in_minutes (by decide)
    exact ⟨rule, hplan, hunit, hwidth⟩

end ClusterMetrics
