import ClusterMetrics.Bucket.Plan
import ClusterMetrics.Proofs.CalendarBuckets
import ClusterMetrics.Proofs.RangeSeconds
import ClusterMetrics.Proofs.ResolvedScopes

/-! # Planned widths

A range without a unit of its own is planned in steps of a sixtieth of its length, rounded down to
whole minutes, hours or days; so it is shorter than sixty steps of one unit more. Its hours are
counted in doubles, and none is lost, as rounding does not pass a whole number.

* **`Binary.le_numerator_divNat`**: dividing a double does not pass a whole number.
* **`lt_rangeHours_add_one`**: a range is shorter than one hour more than its hours.
* **`planBuckets_eq_ok_iff`**: which ranges have a rule, and which.
* **`BucketRule.IsPlanned`**: a rule without a zone whose range is shorter than sixty steps of one
  unit more. **`isPlanned_of_planBuckets`**: rules for requests without a unit are planned so. -/

namespace ClusterMetrics

open ClusterMetrics.Calendar ClusterMetrics.Decimal ClusterMetrics.Decimal.Binary

/-! ## Hours -/

/-- The value of a double has **its magnitude**. -/
theorem Decimal.Binary.natAbs_value (b : Binary) :
    (if b.negative then -(b.numerator : Int) else b.numerator).natAbs = b.numerator := by
  split <;> simp

/-- The quotient of a double by a number is **not below** a whole number below `2 ^ 53` that the
double holds as many times. -/
theorem Decimal.Binary.le_numerator_divNat {b : Binary} {j k : Nat} (hj : 0 < j)
    (hk : k < twoTo 53) (h : k * j * b.denominator ≤ b.numerator) :
    k * (b.divNat j).denominator ≤ (b.divNat j).numerator := by
  refine le_numerator_ofRatio (Nat.mul_pos b.denominator_pos hj) hk ?_
  calc k * (b.denominator * j) = k * j * b.denominator := by
        rw [Nat.mul_comm b.denominator, Nat.mul_assoc]
    _ ≤ b.numerator := h
    _ = _ := b.natAbs_value.symm

/-- A range of so many whole hours **has these hours**. -/
theorem le_rangeHours {micros : Int} {hours : Nat} (hsmall : hours * 3600 < twoTo 53)
    (h : hours * 3600000000 ≤ micros) : hours ≤ rangeHours micros := by
  have hseconds : hours * 60 * 60 * (ofRatio micros 1000000).denominator
      ≤ (ofRatio micros 1000000).numerator :=
    le_numerator_ofRatio (by decide) (by omega) (by omega)
  have hminutes := le_numerator_divNat (by decide) (by omega) hseconds
  have hhours := le_numerator_divNat (by decide) (by omega) hminutes
  exact (le_div_of_le_numerator hhours).1.trans (Nat.le_max_left _ _)

/-- A range of less than `2 ^ 53` seconds is **shorter than one hour more** than its hours. -/
theorem lt_rangeHours_add_one {micros : Int} (hsmall : micros < twoTo 53 * 1000000) :
    micros < (rangeHours micros + 1) * 3600000000 := by
  have htwo : twoTo 53 = 9007199254740992 := rfl
  by_cases hneg : micros < 0
  · have hzero : (0 : Int) ≤ rangeHours micros := Int.natCast_nonneg _
    omega
  · have hle : (micros / 3600000000).toNat ≤ rangeHours micros :=
      le_rangeHours (by omega) (by omega)
    omega

/-- The instant of a dated moment is **less than `10 ^ 12` seconds** from 1970. -/
theorem Calendar.Moment.IsDated.instant_bounds {m : Moment} (h : m.IsDated) :
    -1000000000000000000 < m.instant ∧ m.instant < 1000000000000000000 := by
  obtain ⟨⟨w, ⟨hyear, hyear', hdate, hhour, hminute, hsecond, hmicro⟩, hwall⟩, hoffset⟩ := h
  have hday := dayNumber_bounds hdate hyear hyear'
  have hoffset' : (m.offset.getD 0).natAbs < 86400000000 := hoffset
  rw [Moment.instant, hwall, WallClock.micros, WallClock.seconds]
  omega

/-! ## Rules -/

/-- A rule without a zone whose range is **shorter than sixty steps of one unit more**, the steps
being of less than an hour in minutes, of less than a day in hours, or of days. -/
structure BucketRule.IsPlanned (rule : BucketRule) : Prop where
  zoneName_eq : rule.zoneName = none
  width_pos : 0 < rule.width
  unit_width : (rule.unit = .minute ∧ rule.width < 60) ∨ (rule.unit = .hour ∧ rule.width < 24) ∨
    rule.unit = .day
  range_lt : rule.stop.instant - rule.start.instant
    < 60 * (rule.width + 1) * rule.unit.seconds * 1000000

/-- The width for some hours is **at least one**, and sixty steps of one unit more are longer than
the hours. -/
theorem autoUnit_spec {hours : Nat} (hpos : 1 ≤ hours) {unit : CalendarUnit} {width : Nat}
    (h : autoUnit hours = (unit, width)) :
    0 < width ∧ ((unit = .minute ∧ width < 60) ∨ (unit = .hour ∧ width < 24) ∨ unit = .day) ∧
      ((hours : Int) + 1) * 3600 ≤ 60 * (width + 1) * unit.seconds := by
  unfold autoUnit at h
  by_cases hminutes : hours < 60
  · rw [if_pos hminutes] at h
    obtain ⟨rfl, rfl⟩ := Prod.mk.inj h
    refine ⟨hpos, .inl ⟨rfl, hminutes⟩, ?_⟩
    show ((hours : Int) + 1) * 3600 ≤ 60 * (hours + 1) * 60
    omega
  · rw [if_neg hminutes] at h
    by_cases hhours : hours < 1440
    · rw [if_pos hhours] at h
      obtain ⟨rfl, rfl⟩ := Prod.mk.inj h
      refine ⟨by omega, .inr (.inl ⟨rfl, by omega⟩), ?_⟩
      show ((hours : Int) + 1) * 3600 ≤ 60 * ((hours / 60 : Nat) + 1) * 3600
      omega
    · rw [if_neg hhours] at h
      obtain ⟨rfl, rfl⟩ := Prod.mk.inj h
      refine ⟨by omega, .inr (.inr rfl), ?_⟩
      show ((hours : Int) + 1) * 3600 ≤ 60 * ((hours / 1440 : Nat) + 1) * 86400
      omega

/-- A bound that is accepted is **dated**. -/
theorem isDated_of_parseBound {text : String} {m : Moment} (h : parseBound text = .ok m) :
    m.IsDated := by
  rw [parseBound] at h
  split at h
  · rename_i hparse
    obtain rfl := Except.ok.inj h
    exact Timestamp.isDated_of_parse? hparse
  · cases h

/-- The **rule between two moments**: of a unit that was asked for on the clock of a zone, or else of
some steps. -/
def ruleBetween (start stop : Moment) (zone : String) (asked : Option CalendarUnit)
    (step : CalendarUnit × Nat) : BucketRule :=
  match asked with
  | some unit => ⟨start, stop, unit, 1, some (if zone = "" then "UTC" else zone)⟩
  | none => ⟨start, stop, step.1, step.2, none⟩

section RuleBetween

variable (start stop : Moment) (zone : String) (asked : Option CalendarUnit)
  (step : CalendarUnit × Nat)

@[simp] theorem ruleBetween_start : (ruleBetween start stop zone asked step).start = start := by
  cases asked <;> rfl

@[simp] theorem ruleBetween_stop : (ruleBetween start stop zone asked step).stop = stop := by
  cases asked <;> rfl

end RuleBetween

/-- A range has a rule if it consists of **two bounds in order**, and then it is the rule between
them. -/
theorem planBuckets_eq_ok_iff {range : List String} {zone granularity : String}
    {rule : BucketRule} :
    planBuckets range zone granularity = .ok rule ↔
      ∃ first last start stop, range = [first, last] ∧ parseBound first = .ok start ∧
        parseBound last = .ok stop ∧ start.instant ≤ stop.instant ∧
          rule = ruleBetween start stop zone (CalendarUnit.ofName? granularity)
            (autoUnit (rangeHours (stop.instant - start.instant))) := by
  constructor
  · intro h
    unfold planBuckets at h
    split at h
    · rename_i first last
      obtain ⟨start, hstart, h⟩ := bind_eq_ok_iff.1 h
      obtain ⟨stop, hstop, h⟩ := bind_eq_ok_iff.1 h
      refine ⟨first, last, start, stop, rfl, hstart, hstop, ?_⟩
      -- the steps are of no account, and reducing them would be
      generalize autoUnit (rangeHours (stop.instant - start.instant)) = step at h ⊢
      by_cases hreversed : stop.instant < start.instant
      · rw [if_pos hreversed] at h
        cases h
      · rw [if_neg hreversed] at h
        refine ⟨Int.not_lt.1 hreversed, ?_⟩
        obtain ⟨unit, width⟩ := step
        cases hunit : CalendarUnit.ofName? granularity with
        | none =>
          rw [hunit] at h
          exact (Except.ok.inj h).symm
        | some asked =>
          rw [hunit] at h
          exact (Except.ok.inj h).symm
    · cases h
  · rintro ⟨first, last, start, stop, rfl, hstart, hstop, hle, rfl⟩
    refine bind_eq_ok_iff.2 ⟨start, hstart, bind_eq_ok_iff.2 ⟨stop, hstop, ?_⟩⟩
    generalize autoUnit (rangeHours (stop.instant - start.instant)) = step
    obtain ⟨unit, width⟩ := step
    rw [if_neg (Int.not_lt.2 hle)]
    cases CalendarUnit.ofName? granularity <;> rfl

/-- A rule for a request without a unit of its own is **planned** from the length of the range. -/
theorem isPlanned_of_planBuckets {range : List String} {zone granularity : String}
    {rule : BucketRule} (planned : planBuckets range zone granularity = .ok rule)
    (auto : CalendarUnit.ofName? granularity = none) : rule.IsPlanned := by
  obtain ⟨first, last, start, stop, -, hstart, hstop, -, rfl⟩ := planBuckets_eq_ok_iff.1 planned
  have hstart := (isDated_of_parseBound hstart).instant_bounds
  have hstop := (isDated_of_parseBound hstop).instant_bounds
  have htwo : twoTo 53 = 9007199254740992 := rfl
  have hlt := @lt_rangeHours_add_one (stop.instant - start.instant) (by omega)
  have hpos : 1 ≤ rangeHours (stop.instant - start.instant) := Nat.le_max_right _ _
  -- from here on the hours are a number like any other
  generalize rangeHours (stop.instant - start.instant) = hours at hlt hpos ⊢
  rw [auto]
  cases hauto : autoUnit hours with
  | mk unit width =>
    obtain ⟨hwidth, hunit, hspan⟩ := autoUnit_spec hpos hauto
    refine ⟨rfl, hwidth, hunit, ?_⟩
    show stop.instant - start.instant < 60 * (width + 1) * unit.seconds * 1000000
    omega

end ClusterMetrics
