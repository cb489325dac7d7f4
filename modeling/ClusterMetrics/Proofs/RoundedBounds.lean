import ClusterMetrics.Proofs.PlannedWidths

/-! # Bounds that are rounded off

A bound of a range is rounded to a double of seconds before it is compared with whole seconds. There
are `2 ^ 52` doubles between a power of two and the next, so they lie the further apart the further
an instant is from 1970. A bound that exceeds a whole second by less than half their distance is
taken for that second. Up to `2 ^ 34` seconds from 1970, half the distance is less than a microsecond.

* **`IsRoundedOff`**: whether an instant loses its fraction of a second.
  **`not_isRoundedOff_of_near`**: those near 1970 do not.
* **`ceilSecond_of_isRoundedOff`**, **`ceilSecond_of_not_isRoundedOff`**: the second of a bound.
* **`range_filter_misses_only_rounded_fractions`**: the whole seconds that a range filters. -/

namespace ClusterMetrics

open ClusterMetrics.Calendar ClusterMetrics.Decimal ClusterMetrics.Decimal.Binary

/-- Whether the **fraction of a second is rounded off** an instant: it is positive, and less than half
the distance of doubles between the powers of two that the seconds lie between. -/
def IsRoundedOff (instant : Int) : Prop :=
  0 < instant % 1000000 ∧
    instant % 1000000 * twoTo (53 - (instant.natAbs / 1000000).log2) < 1000000

instance (instant : Int) : Decidable (IsRoundedOff instant) := by
  unfold IsRoundedOff
  infer_instance

/-- A **whole second** has no fraction to lose. -/
theorem not_isRoundedOff_of_whole {instant : Int} (h : instant % 1000000 = 0) :
    ¬IsRoundedOff instant := fun hoff => hoff.1.ne' h

/-- **Within `2 ^ 34` seconds** of 1970 no fraction is lost. -/
theorem not_isRoundedOff_of_near {instant : Int} (h : instant.natAbs < twoTo 34 * 1000000) :
    ¬IsRoundedOff instant := by
  rintro ⟨hpos, hless⟩
  have hlog : (instant.natAbs / 1000000).log2 < 34 := by
    by_cases hzero : instant.natAbs / 1000000 = 0
    · rw [hzero, Nat.log2_zero]
      decide
    · exact (Nat.log2_lt hzero).2 ((Nat.div_lt_iff_lt_mul (by decide)).2 h)
  have hpower : twoTo 20 ≤ twoTo (53 - (instant.natAbs / 1000000).log2) :=
    twoTo_le_twoTo (by omega)
  have htwo : twoTo 20 = 1048576 := rfl
  have hproduct : 1 * (twoTo 20 : Int)
      ≤ instant % 1000000 * twoTo (53 - (instant.natAbs / 1000000).log2) :=
    Int.mul_le_mul (by omega) (by exact_mod_cast hpower) (Int.natCast_nonneg _) hpos.le
  omega

/-! ## Parts of a second -/

section Parts

variable {n d q f u : Nat}

/-- The middle **between two whole numbers**. -/
theorem two_mul_add_one_mul (k d : Nat) : (2 * k + 1) * d = 2 * (k * d) + d := by
  rw [Nat.add_mul, Nat.mul_assoc, Nat.one_mul]

/-- A ratio above a whole number by **less than half a part** is rounded to it. -/
theorem roundDiv_parts_le (hn : n = q * d + f) (h : 2 * (f * u) < d) :
    roundDiv (n * u) d ≤ q * u := by
  have hparts : n * u = q * u * d + f * u := by rw [hn, Nat.add_mul, Nat.mul_right_comm]
  apply roundDiv_le_of_two_mul_lt
  rw [two_mul_add_one_mul]
  omega

/-- A ratio above a whole number by **more than half a part** stays above it. -/
theorem lt_roundDiv_parts (hd : 0 < d) (hn : n = q * d + f) (h : d < 2 * (f * u)) :
    q * u < roundDiv (n * u) d := by
  have hparts : n * u = q * u * d + f * u := by rw [hn, Nat.add_mul, Nat.mul_right_comm]
  apply lt_roundDiv_of_lt_two_mul hd
  rw [two_mul_add_one_mul]
  omega

/-- A ratio below a whole number by **less than half a part** is rounded to it. -/
theorem le_roundDiv_parts (hd : 0 < d) (hn : n + f = q * d) (h : 2 * (f * u) < d) :
    q * u ≤ roundDiv (n * u) d := by
  have hparts : n * u + f * u = q * u * d := by rw [← Nat.add_mul, hn, Nat.mul_right_comm]
  cases hwhole : q * u with
  | zero => exact Nat.zero_le _
  | succ k =>
    rw [hwhole, Nat.succ_mul] at hparts
    apply lt_roundDiv_of_lt_two_mul hd
    rw [two_mul_add_one_mul]
    omega

/-- A ratio below a whole number by **more than half a part** stays below it. -/
theorem roundDiv_parts_lt (hn : n + f = q * d) (h : d < 2 * (f * u)) :
    roundDiv (n * u) d < q * u := by
  have hparts : n * u + f * u = q * u * d := by rw [← Nat.add_mul, hn, Nat.mul_right_comm]
  cases hwhole : q * u with
  | zero =>
    rw [hwhole, Nat.zero_mul] at hparts
    omega
  | succ k =>
    rw [hwhole, Nat.succ_mul] at hparts
    apply Nat.lt_succ_of_le
    apply roundDiv_le_of_two_mul_lt
    rw [two_mul_add_one_mul]
    omega

end Parts

/-! ## The second of a bound -/

section Ceiling

variable {instant : Int} {k : Nat}

/-- Before 1970, the second of a bound is **not after** a whole second that its double reaches. -/
theorem ceilSecond_le_neg (hnegative : instant < 0)
    (h : k * (ofRatio instant 1000000).denominator ≤ (ofRatio instant 1000000).numerator) :
    ceilSecond instant ≤ -(k : Int) := by
  rw [ceilSecond_eq, if_pos hnegative]
  exact Int.neg_le_neg (Int.ofNat_le.2 (le_div_of_le_numerator h).1)

/-- From 1970 on, the second of a bound is **not after** a whole second that its double does not
pass. -/
theorem ceilSecond_le_natCast (hnegative : ¬instant < 0)
    (h : (ofRatio instant 1000000).numerator ≤ k * (ofRatio instant 1000000).denominator) :
    ceilSecond instant ≤ k := by
  rw [ceilSecond_eq, if_neg hnegative]
  exact Int.ofNat_le.2 (div_le_of_numerator_le h).2

/-- Before 1970, the second of a bound is **after** a whole second that its double does not reach. -/
theorem neg_lt_ceilSecond (hnegative : instant < 0)
    (h : (ofRatio instant 1000000).numerator < k * (ofRatio instant 1000000).denominator) :
    -(k : Int) < ceilSecond instant := by
  rw [ceilSecond_eq, if_pos hnegative]
  exact Int.neg_lt_neg (Int.ofNat_lt.2
    ((Nat.div_lt_iff_lt_mul (ofRatio instant 1000000).denominator_pos).2 h))

/-- From 1970 on, the second of a bound is **after** a whole second that its double passes. -/
theorem natCast_lt_ceilSecond (hnegative : ¬instant < 0)
    (h : k * (ofRatio instant 1000000).denominator < (ofRatio instant 1000000).numerator) :
    k < ceilSecond instant := by
  have hpos := (ofRatio instant 1000000).denominator_pos
  rw [ceilSecond_eq, if_neg hnegative]
  refine Int.ofNat_lt.2 ((Nat.le_div_iff_mul_le hpos).2 ?_)
  rw [Nat.succ_mul]
  omega

end Ceiling

section Bounds

variable {instant : Int} (hsmall : instant.natAbs < twoTo 40 * 1000000)
include hsmall

/-- The seconds of an instant have **less than forty** binary digits after the first. -/
theorem log2_seconds_lt : (instant.natAbs / 1000000).log2 < 40 := by
  by_cases hzero : instant.natAbs / 1000000 = 0
  · rw [hzero, Nat.log2_zero]
    decide
  · exact (Nat.log2_lt hzero).2 ((Nat.div_lt_iff_lt_mul (by decide)).2 hsmall)

/-- The double of an instant counts the parts of a second that its **whole seconds leave** of 53
binary digits. -/
theorem numerator_denominator_of_seconds (hone : 1000000 ≤ instant.natAbs) :
    (ofRatio instant 1000000).numerator
        = roundDiv (instant.natAbs * twoTo (52 - (instant.natAbs / 1000000).log2)) 1000000 ∧
      (ofRatio instant 1000000).denominator = twoTo (52 - (instant.natAbs / 1000000).log2) := by
  have hlog := log2_seconds_lt hsmall
  have hlower : twoTo (instant.natAbs / 1000000).log2 ≤ instant.natAbs / 1000000 :=
    Nat.log2_self_le (by omega)
  have hupper : instant.natAbs < twoTo ((instant.natAbs / 1000000).log2 + 1) * 1000000 :=
    (Nat.div_lt_iff_lt_mul (by decide)).1 Nat.lt_log2_self
  generalize (instant.natAbs / 1000000).log2 = l at *
  -- the whole seconds take `l + 1` binary digits, and the fraction the others of 53
  have hexponent : ratioExponent instant.natAbs 1000000 = -((52 - l : Nat) : Int) := by
    apply ratioExponent_eq (by omega)
    · calc twoTo 52 * 1000000 = twoTo l * 1000000 * twoTo (52 - l) := by
            rw [Nat.mul_right_comm, ← twoTo_add, Nat.add_sub_of_le (by omega)]
        _ ≤ instant.natAbs * twoTo (52 - l) := Nat.mul_le_mul_right _ (by omega)
    · calc instant.natAbs * twoTo (52 - l)
          < twoTo (l + 1) * 1000000 * twoTo (52 - l) :=
            Nat.mul_lt_mul_of_pos_right hupper (twoTo_pos _)
        _ = twoTo (l + 1 + (52 - l)) * 1000000 := by rw [Nat.mul_right_comm, ← twoTo_add]
        _ = twoTo 53 * 1000000 := by rw [show l + 1 + (52 - l) = 53 by omega]
  have hzero : (-((52 - l : Nat) : Int)).toNat = 0 := by omega
  have hshift : (-(-((52 - l : Nat) : Int))).toNat = 52 - l := by omega
  constructor
  · show roundDiv (instant.natAbs * twoTo (-ratioExponent instant.natAbs 1000000).toNat)
      (1000000 * twoTo (ratioExponent instant.natAbs 1000000).toNat)
        * twoTo (ratioExponent instant.natAbs 1000000).toNat = _
    rw [hexponent, hzero, hshift, twoTo_zero, Nat.mul_one, Nat.mul_one]
  · show twoTo (-ratioExponent instant.natAbs 1000000).toNat = _
    rw [hexponent, hshift]

/-- A fraction is rounded off if it is **less than half a part**. -/
theorem isRoundedOff_iff_parts :
    IsRoundedOff instant ↔ 0 < instant % 1000000 ∧
        2 * ((instant % 1000000).toNat * twoTo (52 - (instant.natAbs / 1000000).log2)) < 1000000 := by
  have hlog := log2_seconds_lt hsmall
  obtain ⟨f, hf⟩ :=
    Int.eq_ofNat_of_zero_le (Int.emod_nonneg instant (by decide : (1000000 : Int) ≠ 0))
  have hdouble : f * twoTo (53 - (instant.natAbs / 1000000).log2)
      = 2 * (f * twoTo (52 - (instant.natAbs / 1000000).log2)) := by
    rw [Nat.mul_left_comm, Nat.mul_comm 2, ← twoTo_succ, show 53 - (instant.natAbs / 1000000).log2
      = 52 - (instant.natAbs / 1000000).log2 + 1 by omega]
  rw [IsRoundedOff, hf, Int.toNat_natCast, ← hdouble]
  norm_cast

/-- No fraction is **half a part**, as a second is not divisible by so great a power of two. -/
theorem two_mul_parts_ne (f : Nat) :
    2 * (f * twoTo (52 - (instant.natAbs / 1000000).log2)) ≠ 1000000 := by
  have hlog := log2_seconds_lt hsmall
  -- a million is divisible by `2 ^ 6`, and no more
  have hpower : twoTo (52 - (instant.natAbs / 1000000).log2)
      = 128 * twoTo (45 - (instant.natAbs / 1000000).log2) := by
    rw [show 52 - (instant.natAbs / 1000000).log2
      = 7 + (45 - (instant.natAbs / 1000000).log2) by omega, twoTo_add]
    rfl
  rw [hpower, Nat.mul_left_comm f]
  omega

/-- A bound whose fraction is rounded off is taken for **the whole second before it**. -/
theorem ceilSecond_of_isRoundedOff (h : IsRoundedOff instant) :
    ceilSecond instant = instant / 1000000 := by
  have hforty : twoTo 40 = 1099511627776 := rfl
  have hfifty : twoTo 53 = 9007199254740992 := rfl
  refine Int.le_antisymm ?_ (le_ceilSecond (by omega) (by omega))
  -- within a second of 1970 no fraction is lost
  have hone : 1000000 ≤ instant.natAbs := by
    by_contra hlt
    exact not_isRoundedOff_of_near ((Nat.not_le.1 hlt).trans_le (by decide)) h
  obtain ⟨hpos, hless⟩ := (isRoundedOff_iff_parts hsmall).1 h
  obtain ⟨hnumerator, hdenominator⟩ := numerator_denominator_of_seconds hsmall hone
  by_cases hnegative : instant < 0
  · have hsecond : instant / 1000000 = -((instant.natAbs / 1000000 + 1 : Nat) : Int) := by
      clear hnumerator hdenominator
      omega
    rw [hsecond]
    apply ceilSecond_le_neg hnegative
    rw [hnumerator, hdenominator]
    exact le_roundDiv_parts (by decide) (by omega) hless
  · have hsecond : instant / 1000000 = (instant.natAbs / 1000000 : Nat) := by
      clear hnumerator hdenominator
      omega
    rw [hsecond]
    apply ceilSecond_le_natCast hnegative
    rw [hnumerator, hdenominator]
    exact roundDiv_parts_le (by omega) hless

/-- A bound whose fraction is not rounded off has its second **after the whole second before it**. -/
theorem lt_ceilSecond_of_not_isRoundedOff (hone : 1000000 ≤ instant.natAbs)
    (hfraction : 0 < instant % 1000000) (h : ¬IsRoundedOff instant) :
    instant / 1000000 < ceilSecond instant := by
  have hmore : 1000000 < 2 * ((instant % 1000000).toNat
      * twoTo (52 - (instant.natAbs / 1000000).log2)) := by
    have hne := two_mul_parts_ne hsmall (instant % 1000000).toNat
    rw [isRoundedOff_iff_parts hsmall] at h
    omega
  obtain ⟨hnumerator, hdenominator⟩ := numerator_denominator_of_seconds hsmall hone
  by_cases hnegative : instant < 0
  · have hsecond : instant / 1000000 = -((instant.natAbs / 1000000 + 1 : Nat) : Int) := by
      clear hnumerator hdenominator
      omega
    rw [hsecond]
    apply neg_lt_ceilSecond hnegative
    rw [hnumerator, hdenominator]
    exact roundDiv_parts_lt (by omega) hmore
  · have hsecond : instant / 1000000 = (instant.natAbs / 1000000 : Nat) := by
      clear hnumerator hdenominator
      omega
    rw [hsecond]
    apply natCast_lt_ceilSecond hnegative
    rw [hnumerator, hdenominator]
    exact lt_roundDiv_parts (by decide) (by omega) hmore

omit hsmall in
/-- Within a second of 1970, doubles are **less than a microsecond** apart. -/
theorem lt_ceilSecond_of_near (hone : ¬1000000 ≤ instant.natAbs)
    (hfraction : 0 < instant % 1000000) : instant / 1000000 < ceilSecond instant := by
  have hpos := (ofRatio instant 1000000).denominator_pos
  have htwenty : twoTo 20 = 1048576 := rfl
  -- a part of `2 ^ 20` is less than a microsecond, and no rounding passes it
  by_cases hnegative : instant < 0
  · have hpart : (ofRatio instant 1000000).numerator * twoTo 20
        ≤ 1048575 * (ofRatio instant 1000000).denominator :=
      numerator_ofRatio_le_part (by decide) (by decide) (by decide) (by rw [htwenty]; omega)
    have hsecond : instant / 1000000 = -((1 : Nat) : Int) := by omega
    rw [hsecond]
    apply neg_lt_ceilSecond hnegative
    rw [htwenty] at hpart
    omega
  · have hpart : 1 * (ofRatio instant 1000000).denominator
        ≤ (ofRatio instant 1000000).numerator * twoTo 20 :=
      part_le_numerator_ofRatio (by decide) (by decide) (by decide) (by rw [htwenty]; omega)
    have hsecond : instant / 1000000 = ((0 : Nat) : Int) := by omega
    rw [hsecond]
    apply natCast_lt_ceilSecond hnegative
    rw [htwenty] at hpart
    omega

/-- Any other bound is rounded up to **the whole second after it**. -/
theorem ceilSecond_of_not_isRoundedOff (h : ¬IsRoundedOff instant) :
    ceilSecond instant = -(-instant / 1000000) := by
  have hforty : twoTo 40 = 1099511627776 := rfl
  have hfifty : twoTo 53 = 9007199254740992 := rfl
  refine Int.le_antisymm (ceilSecond_le (by omega) (by omega)) ?_
  by_cases hwhole : instant % 1000000 = 0
  · exact le_ceilSecond (by omega) (by omega)
  · have hlt : instant / 1000000 < ceilSecond instant := by
      by_cases hone : 1000000 ≤ instant.natAbs
      · exact lt_ceilSecond_of_not_isRoundedOff hsmall hone (by omega) h
      · exact lt_ceilSecond_of_near hone (by omega)
    omega

/-- A bound is not after a whole second, as it is compared, if it **is not after it**, or if it
exceeds it by a fraction that is rounded off. -/
theorem ceilSecond_le_iff (t : Int) :
    ceilSecond instant ≤ t ↔
      instant ≤ t * 1000000 ∨ IsRoundedOff instant ∧ t = instant / 1000000 := by
  by_cases h : IsRoundedOff instant
  · have hpos := h.1
    rw [ceilSecond_of_isRoundedOff hsmall h]
    simp only [h, true_and]
    omega
  · rw [ceilSecond_of_not_isRoundedOff hsmall h]
    simp only [h, false_and, or_false]
    omega

end Bounds

/-! ## Ranges -/

/-- The instant of a dated moment is **less than `2 ^ 40` seconds** from 1970. -/
theorem Calendar.Moment.IsDated.natAbs_instant_lt {m : Moment} (h : m.IsDated) :
    m.instant.natAbs < twoTo 40 * 1000000 := by
  have hbounds := h.instant_bounds
  have hforty : twoTo 40 = 1099511627776 := rfl
  rw [hforty]
  omega

/-- The bounds of an accepted range are **less than `2 ^ 40` seconds** from 1970. -/
theorem natAbs_bounds_lt {range : List String} {zone granularity : String} {rule : BucketRule}
    (planned : planBuckets range zone granularity = .ok rule) :
    rule.start.instant.natAbs < twoTo 40 * 1000000 ∧
      rule.stop.instant.natAbs < twoTo 40 * 1000000 := by
  obtain ⟨_, _, start, stop, -, hstart, hstop, -, rfl⟩ := planBuckets_eq_ok_iff.1 planned
  rw [ruleBetween_start, ruleBetween_stop]
  exact ⟨(isDated_of_parseBound hstart).natAbs_instant_lt,
    (isDated_of_parseBound hstop).natAbs_instant_lt⟩

/-- **A range filters its seconds, but for fractions that are rounded off.** A whole second passes the
filter of an accepted range exactly if it lies in the range, or is the last second before a start
whose fraction is rounded off; but not if it is the last second before an end whose fraction is
rounded off. So the filter is exact for bounds in whole seconds and for bounds within `2 ^ 34`
seconds of 1970. -/
theorem range_filter_misses_only_rounded_fractions {range : List String}
    {zone granularity : String} {rule : BucketRule}
    (planned : planBuckets range zone granularity = .ok rule) :
    (∀ t : Int, rule.startSecond ≤ t ∧ t < rule.endSecond ↔
      (rule.start.instant ≤ t * 1000000 ∨
        IsRoundedOff rule.start.instant ∧ t = rule.start.instant / 1000000) ∧
      t * 1000000 < rule.stop.instant ∧
        ¬(IsRoundedOff rule.stop.instant ∧ t = rule.stop.instant / 1000000)) ∧
    ((∀ bound ∈ [rule.start.instant, rule.stop.instant],
        bound % 1000000 = 0 ∨ bound.natAbs < twoTo 34 * 1000000) →
      ∀ t : Int, rule.startSecond ≤ t ∧ t < rule.endSecond ↔
        rule.start.instant ≤ t * 1000000 ∧ t * 1000000 < rule.stop.instant) := by
  obtain ⟨hfirst, hlast⟩ := natAbs_bounds_lt planned
  have hfilter : ∀ t : Int, rule.startSecond ≤ t ∧ t < rule.endSecond ↔
      (rule.start.instant ≤ t * 1000000 ∨
        IsRoundedOff rule.start.instant ∧ t = rule.start.instant / 1000000) ∧
      t * 1000000 < rule.stop.instant ∧
        ¬(IsRoundedOff rule.stop.instant ∧ t = rule.stop.instant / 1000000) := by
    intro t
    rw [BucketRule.startSecond, BucketRule.endSecond, ceilSecond_le_iff hfirst, ← Int.not_le,
      ceilSecond_le_iff hlast, not_or, Int.not_le]
  refine ⟨hfilter, fun hbounds t => ?_⟩
  have hkept : ∀ bound ∈ [rule.start.instant, rule.stop.instant], ¬IsRoundedOff bound :=
    fun bound hbound => (hbounds bound hbound).elim not_isRoundedOff_of_whole
      not_isRoundedOff_of_near
  rw [hfilter]
  obtain ⟨hstart, hstop⟩ := List.forall_mem_cons.1 hkept
  have hstop := hstop _ (List.mem_singleton_self _)
  simp only [hstart, hstop, false_and, or_false, not_false_eq_true, and_true]

/-- A day of the year 2600 up to a microsecond after midnight, from a quarter of a second after
midnight on. -/
def upToMidnight : BucketRule :=
  ⟨⟨19880899200250000, some 0⟩, ⟨19880985600000001, some 0⟩, .minute, 23, none⟩

/-- The quarter of a second is kept, and the microsecond is rounded off, so midnight at the end is in
the range and does not pass the filter. -/
theorem last_second_up_to_midnight :
    planBuckets ["2600-01-01T00:00:00.25Z", "2600-01-02T00:00:00.000001Z"] "UTC" ""
        = .ok upToMidnight ∧
      19880985600 * 1000000 < upToMidnight.stop.instant ∧
      ¬(upToMidnight.startSecond ≤ 19880985600 ∧ 19880985600 < upToMidnight.endSecond) ∧
      (upToMidnight.startSecond ≤ 19880985599 ∧ 19880985599 < upToMidnight.endSecond) ∧
      ¬(upToMidnight.startSecond ≤ 19880899200 ∧ 19880899200 < upToMidnight.endSecond) := by
  have hplanned : planBuckets ["2600-01-01T00:00:00.25Z", "2600-01-02T00:00:00.000001Z"] "UTC" ""
      = .ok upToMidnight := rfl
  obtain ⟨hfilter, -⟩ := range_filter_misses_only_rounded_fractions hplanned
  have hkept : ¬IsRoundedOff upToMidnight.start.instant := by decide
  have hlost : IsRoundedOff upToMidnight.stop.instant := by decide
  simp only [hfilter, hkept, hlost]
  decide

/-- A day of the year 2600 from a microsecond after midnight on. -/
def fromMidnight : BucketRule :=
  ⟨⟨19880899200000001, some 0⟩, ⟨19880985600000000, some 0⟩, .minute, 23, none⟩

/-- Midnight is **before the range**, and passes the filter. -/
theorem second_before_a_range_passes :
    planBuckets ["2600-01-01T00:00:00.000001Z", "2600-01-02T00:00:00Z"] "UTC" ""
        = .ok fromMidnight ∧
      (fromMidnight.startSecond ≤ 19880899200 ∧ 19880899200 < fromMidnight.endSecond) ∧
      ¬fromMidnight.start.instant ≤ 19880899200 * 1000000 := by
  refine ⟨rfl, ?_, by decide⟩
  decide +kernel

end ClusterMetrics
