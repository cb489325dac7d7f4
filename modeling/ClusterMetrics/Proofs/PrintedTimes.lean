import ClusterMetrics.Proofs.UptimeFields

/-! # Printed times

The unit of a printed time is chosen before its number is rounded, and rounding does not carry. So the
number stays below that of the next unit but for the times in the last half digit, which are printed as
`60.0s`, `1000µs` or `1000.000ms`.

* **`unitsOf`**: a time in a smaller unit. **`unitsOf_mono`**: it grows with the time.
  **`unitsOf_lt_iff`**: it stays below a bound exactly for the times before the double that reaches it.
* **`durationText_micro`**, **`durationText_milli`**: the two smaller units of a duration.
* **`toPlaces_restBy`**: the seconds of an uptime.
* **`printed_times_reach_the_next_unit_only_by_rounding`**: the fields of uptimes and durations. -/

namespace ClusterMetrics.Status

open ClusterMetrics.Decimal

/-! ## Durations in a smaller unit -/

/-- A time **in a smaller unit**, of which `factor` make a second, in units of a decimal place. -/
def unitsOf (seconds factor : Float) (places : Nat) : Nat :=
  match finite? (seconds * factor) with
  | some b => b.toPlaces places
  | none => 0

section Units

variable {x y factor : Float} {a b : Binary} {p q : ℚ} {places : Nat}

/-- A time up to one second is **multiplied within the range** of doubles. -/
theorem isRounded_units (hx : finite? x = some a) (hfactor : Holds factor q) (ha : a.magnitude ≤ 1) :
    IsRounded (x * factor) a.negative (a.magnitude * q) := by
  have hlimit := (hfactor.nearest_le (mul_nonneg a.magnitude_nonneg hfactor.nonneg)
    (mul_le_of_le_one_left hfactor.nonneg ha)).trans_lt hfactor.lt_limit
  obtain ⟨f, hf, hsign, rfl⟩ := hfactor
  have hproduct := isRounded_mul hx hf hlimit
  rwa [hsign, Bool.xor_false] at hproduct

/-- A time in a smaller unit is printed **with its sign**. -/
theorem fixed_units (hx : finite? x = some a) (hfactor : Holds factor q) (ha : a.magnitude ≤ 1) :
    fixed places (x * factor)
      = (if a.negative then "-" else "") ++ placesText places (unitsOf x factor places) := by
  obtain ⟨r, hr, hsign, -⟩ := isRounded_units hx hfactor ha
  simp only [fixed, finite?_eq_some_iff.1 hr, Binary.fixed, unitsOf, hr, hsign]

/-- The number of units **grows with the time**. -/
theorem unitsOf_mono (hx : finite? x = some a) (hy : finite? y = some b) (hfactor : Holds factor q)
    (hle : a.magnitude ≤ b.magnitude) (hb : b.magnitude ≤ 1) (places : Nat) :
    unitsOf x factor places ≤ unitsOf y factor places := by
  obtain ⟨r, hr, -, hrmagnitude⟩ := isRounded_units hx hfactor (hle.trans hb)
  obtain ⟨t, ht, -, htmagnitude⟩ := isRounded_units hy hfactor hb
  simp only [unitsOf, hr, ht]
  refine Binary.toPlaces_le_toPlaces ?_ places
  rw [hrmagnitude, htmagnitude]
  exact nearest_mono (mul_nonneg a.magnitude_nonneg hfactor.nonneg)
    (mul_le_mul_of_nonneg_right hle hfactor.nonneg)

/-- The number of units stays **below a bound** exactly for the times before the double that reaches it,
if the double with one unit less of the same mantissa does not reach it. -/
theorem unitsOf_lt_iff {t t' : Float} {m k : Nat} {e : Int} (ht : finite? t = some ⟨false, m + 1, e⟩)
    (ht' : finite? t' = some ⟨false, m, e⟩) (hfactor : Holds factor q)
    (hreached : k ≤ unitsOf t factor places) (hbefore : unitsOf t' factor places < k)
    (hx : finite? x = some a) (ha : 0 ≤ a.value) (hone : a.magnitude ≤ 1)
    (htone : Binary.magnitude ⟨false, m + 1, e⟩ ≤ 1) :
    unitsOf x factor places < k ↔ x < t := by
  have hless : x < t ↔ a.magnitude < Binary.magnitude ⟨false, m + 1, e⟩ := by
    rw [lt_iff hx ht, Binary.value_of_nonneg ha, Binary.value_eq_magnitude rfl]
  rw [hless]
  constructor
  · intro hunits
    by_contra hpast
    exact absurd (hreached.trans (unitsOf_mono ht hx hfactor (not_lt.1 hpast) hone places)) hunits.not_ge
  · -- a time before the double is no later than the next one below, which does not reach the bound
    intro hlt
    have hle := Binary.magnitude_le_of_lt_succ (isStored_of_finite? hx) (isStored_of_finite? ht)
      (isStored_of_finite? ht') hlt
    have hnext : Binary.magnitude ⟨false, m, e⟩ ≤ Binary.magnitude ⟨false, m + 1, e⟩ :=
      mul_le_mul_of_nonneg_right (Nat.cast_le.2 (Nat.le_succ m)) (zpow_two_pos e).le
    exact (unitsOf_mono hx ht' hfactor hle (hnext.trans htone) places).trans_lt hbefore

/-- The times before a double up to one second **in their smaller unit**: the number of units is at most
that of the double, and below it exactly for the times before the one that reaches it. -/
theorem fixed_units_of_lt {top t t' : Float} {m : Nat} {e : Int} (places k : Nat) (htop : Holds top p) (hp : p ≤ 1)
    (hmost : unitsOf top factor places = k) (ht : finite? t = some ⟨false, m + 1, e⟩)
    (ht' : finite? t' = some ⟨false, m, e⟩) (hreached : unitsOf t factor places = k)
    (hbefore : unitsOf t' factor places < k) (htone : Binary.magnitude ⟨false, m + 1, e⟩ ≤ 1)
    (hfactor : Holds factor q) (hx : finite? x = some a) (ha : 0 ≤ a.value) (hless : x < top) :
    fixed places (x * factor)
        = (if a.negative then "-" else "") ++ placesText places (unitsOf x factor places) ∧
      unitsOf x factor places ≤ k ∧ (unitsOf x factor places < k ↔ x < t) := by
  obtain ⟨c, hc, hsign, rfl⟩ := htop
  have hle : a.magnitude ≤ c.magnitude := by
    have hlt := (lt_iff hx hc).1 hless
    rw [Binary.value_of_nonneg ha, Binary.value_eq_magnitude hsign] at hlt
    exact hlt.le
  refine ⟨fixed_units hx hfactor (hle.trans hp), ?_, ?_⟩
  · rw [← hmost]
    exact unitsOf_mono hx hc hfactor hle hp places
  · exact unitsOf_lt_iff ht ht' hfactor hreached.ge hbefore hx ha (hle.trans hp) htone

end Units

/-! ## The two smaller units -/

theorem holds_million : Holds 1000000.0 1000000 :=
  ⟨⟨false, 8589934592000000, -33⟩, by decide +kernel, rfl, by norm_num [Binary.magnitude]⟩

theorem holds_thousand : Holds 1000.0 1000 :=
  ⟨⟨false, 8796093022208000, -43⟩, by decide +kernel, rfl, by norm_num [Binary.magnitude]⟩

section Durations

variable {x : Float} {b : Binary}

/-- The **microseconds** of a duration are at most 1000, and below that exactly for times before the
double that is half a microsecond less than a thousandth of a second. -/
theorem durationText_micro (hx : finite? x = some b) (h : 0 ≤ b.value) (hless : x < 0.001) :
    durationText x
        = (if b.negative then "-" else "") ++ placesText 0 (unitsOf x 1000000.0 0) ++ "µs" ∧
      unitsOf x 1000000.0 0 ≤ 1000 ∧ (unitsOf x 1000000.0 0 < 1000 ↔ x < 0.0009995) := by
  have hmilli : Holds 0.001 (Binary.magnitude ⟨false, 4611686018427388, -62⟩) :=
    ⟨_, by decide +kernel, rfl, rfl⟩
  have hreached : finite? 0.0009995 = some ⟨false, 4609380175418173 + 1, -62⟩ := by decide +kernel
  have hbefore : finite? 0.0009994999999999997 = some ⟨false, 4609380175418173, -62⟩ := by
    decide +kernel
  obtain ⟨htext, hunits⟩ := fixed_units_of_lt 0 1000 hmilli (by norm_num [Binary.magnitude])
    (by decide +kernel) hreached hbefore (by decide +kernel) (by decide +kernel)
    (by norm_num [Binary.magnitude]) holds_million hx h hless
  rw [durationText, if_pos hless, htext]
  exact ⟨rfl, hunits⟩

/-- The **milliseconds** of a duration are at most 1000.000, and below that exactly for times before the
double that is half a microsecond less than a second. -/
theorem durationText_milli (hx : finite? x = some b) (h : 0 ≤ b.value) (hmicro : ¬ x < 0.001)
    (hless : x < 1.0) :
    durationText x
        = (if b.negative then "-" else "") ++ placesText 3 (unitsOf x 1000.0 3) ++ "ms" ∧
      unitsOf x 1000.0 3 ≤ 1000000 ∧ (unitsOf x 1000.0 3 < 1000000 ↔ x < 0.9999995) := by
  have hreached : finite? 0.9999995 = some ⟨false, 9007194751141364 + 1, -53⟩ := by decide +kernel
  have hbefore : finite? 0.9999994999999999 = some ⟨false, 9007194751141364, -53⟩ := by decide +kernel
  obtain ⟨htext, hunits⟩ := fixed_units_of_lt 3 1000000 holds_one le_rfl (by decide +kernel)
    hreached hbefore (by decide +kernel) (by decide +kernel) (by norm_num [Binary.magnitude])
    holds_thousand hx h hless
  rw [durationText, if_neg hmicro, if_pos hless, htext]
  exact ⟨rfl, hunits⟩

end Durations

/-! ## Seconds of an uptime -/

/-- The **seconds left by the minutes** are printed as at most 60.0, and below that exactly if they are
less than 59.95. -/
theorem toPlaces_restBy {q : ℚ} {rest : Binary} (hq : 0 ≤ q) (hrest : rest.magnitude = restBy q 60) :
    rest.toPlaces 1 ≤ 600 ∧ (rest.toPlaces 1 < 600 ↔ restBy q 60 < 59.95) := by
  constructor
  · have hsixty : Binary.magnitude ⟨false, 60, 0⟩ = 60 := by norm_num [Binary.magnitude]
    have hle : rest.magnitude ≤ Binary.magnitude ⟨false, 60, 0⟩ := by
      rw [hrest, hsixty]
      exact (restBy_lt hq (by decide)).le
    exact Binary.toPlaces_le_toPlaces hle 1
  · have hten : (tenTo 1 : ℚ) = 10 := by norm_num [tenTo]
    -- 600 is even, so the middle before it is already rounded to it
    rw [Nat.lt_succ_iff (n := 599), Binary.toPlaces_le_iff (by decide), hrest, hten]
    constructor <;> intro h <;> norm_num at h ⊢ <;> linarith

end ClusterMetrics.Status

namespace ClusterMetrics

open Decimal Status

/-- **Printed times reach the next unit only by rounding.** The minutes of an uptime are
below 60, and its seconds are below 60.0 exactly if those that the minutes leave are less than 59.95. A
duration in microseconds is below 1000 exactly before 0.0009995 seconds, and one in milliseconds is below
1000.000 exactly before 0.9999995 seconds. Beyond that, 60.0, 1000 or 1000.000 is printed. -/
theorem printed_times_reach_the_next_unit_only_by_rounding {seconds : Float} {b : Binary}
    (hfinite : finite? seconds = some b) (hnonneg : 0.0 ≤ seconds) :
    (∃ (hours : Nat) (rest : Binary),
      uptimeText? seconds
          = some (uptimeLayout hours (⌊b.magnitude⌋₊ / 60 % 60) (rest.toPlaces 1)) ∧
        rest.magnitude = restBy b.magnitude 60 ∧ ⌊b.magnitude⌋₊ / 60 % 60 < 60 ∧
        rest.toPlaces 1 ≤ 600 ∧ (rest.toPlaces 1 < 600 ↔ restBy b.magnitude 60 < 59.95)) ∧
    (seconds < 0.001 → ∃ n,
      durationText seconds = (if b.negative then "-" else "") ++ placesText 0 n ++ "µs" ∧
        n ≤ 1000 ∧ (n < 1000 ↔ seconds < 0.0009995)) ∧
    (¬ seconds < 0.001 → seconds < 1.0 → ∃ n,
      durationText seconds = (if b.negative then "-" else "") ++ placesText 3 n ++ "ms" ∧
        n ≤ 1000000 ∧ (n < 1000000 ↔ seconds < 0.9999995)) := by
  have hvalue : 0 ≤ b.value := by
    obtain ⟨zero, hzero, hsign, hmagnitude⟩ := holds_zero
    have hle := (le_iff hzero hfinite).1 hnonneg
    rwa [Binary.value_eq_magnitude hsign, hmagnitude] at hle
  refine ⟨?_, fun hless => ?_, fun hmicro hless => ?_⟩
  · obtain ⟨hours, rest, htext, hrest, -⟩ := uptimeText?_eq hfinite hvalue
    exact ⟨hours, rest, htext, hrest, Nat.mod_lt _ (by decide), toPlaces_restBy b.magnitude_nonneg hrest⟩
  · exact ⟨_, durationText_micro hfinite hvalue hless⟩
  · exact ⟨_, durationText_milli hfinite hvalue hmicro hless⟩

/-- An uptime of 119.96 seconds, which has one minute **and sixty seconds**. -/
theorem printed_times_of_two_minutes :
    finite? 119.96 = some ⟨false, 8441434551552573, -46⟩ ∧ (0.0 : Float) ≤ 119.96 ∧
      ∃ (hours : Nat) (rest : Binary),
        uptimeText? 119.96 = some (uptimeLayout hours 1 (rest.toPlaces 1)) ∧ rest.toPlaces 1 = 600 := by
  have hfinite : finite? 119.96 = some ⟨false, 8441434551552573, -46⟩ := by decide +kernel
  have hnonneg : (0.0 : Float) ≤ 119.96 := by decide +kernel
  obtain ⟨⟨hours, rest, htext, -, -, hmost, hless⟩, -⟩ :=
    printed_times_reach_the_next_unit_only_by_rounding hfinite hnonneg
  have hfloor : ⌊Binary.magnitude ⟨false, 8441434551552573, -46⟩⌋₊ = 119 := by
    rw [Binary.floor_magnitude]
    decide +kernel
  have hreached : ¬ restBy (Binary.magnitude ⟨false, 8441434551552573, -46⟩) 60 < 59.95 := by
    rw [restBy, hfloor]
    norm_num [Binary.magnitude]
  rw [hfloor] at htext
  exact ⟨hfinite, hnonneg, hours, rest, htext, le_antisymm hmost (not_lt.1 (mt hless.1 hreached))⟩

/-- **Nothing is carried**: an uptime of one minute and sixty seconds, one of sixty seconds, and durations
of 1000 microseconds and of 1000 milliseconds. -/
theorem sixty_seconds_are_not_carried :
    (0.0 : Float) ≤ 119.96 ∧ uptimeText? 119.96 = some "1m60.0s" ∧
      (0.0 : Float) ≤ 59.96 ∧ uptimeText? 59.96 = some "60.0s" ∧
      (0.0 : Float) ≤ 0.0009996 ∧ durationText 0.0009996 = "1000µs" ∧
      (0.0 : Float) ≤ 0.9999996 ∧ durationText 0.9999996 = "1000.000ms" := by
  decide +kernel

end ClusterMetrics
