import ClusterMetrics.Decimal.Fixed
import ClusterMetrics.Proofs.NearestRatios
import Mathlib.Algebra.Order.Floor.Semifield
import Mathlib.Data.Int.Log
import Mathlib.Data.Rat.Floor
import Mathlib.Tactic.Linarith
import Mathlib.Tactic.Positivity

/-! # Magnitudes and the doubles nearest to them

The magnitude of a binary value is a rational number, and every positive rational number has a double
nearest to it. The distance of doubles around a number is a power of two, found from its logarithm.

* **`Binary.magnitude`**: the magnitude as a rational number.
  **`Binary.toPlaces_le_toPlaces`**: the larger of two is not printed as less.
  **`Binary.toPlaces_le_iff`**: the magnitudes that are printed as no more than an odd number.
* **`unitExponent`**: the exponent of the distance of doubles around a number.
  **`Binary.ratioExponent_eq_unitExponent`**: the exponent of a ratio is that of the number it is.
* **`nearest`**: the magnitude of the double nearest to a number. **`nearest_mono`**: it grows with the
  number. **`nearest_mul_zpow`**: it is the number itself if that is a double. -/

namespace ClusterMetrics.Decimal

theorem cast_twoTo (n : Nat) : (twoTo n : ℚ) = 2 ^ n := by
  show ((2 ^ n : Nat) : ℚ) = 2 ^ n
  push_cast
  rfl

theorem zpow_two_pos (e : Int) : (0 : ℚ) < 2 ^ e := zpow_pos (by norm_num) e

/-- A power of two as a **quotient of natural powers**. -/
theorem zpow_two_eq_div (e : Int) : (2 : ℚ) ^ e = twoTo e.toNat / twoTo (-e).toNat := by
  rw [cast_twoTo, cast_twoTo, ← zpow_natCast, ← zpow_natCast, ← zpow_sub₀ (by norm_num)]
  congr 1
  omega

/-! ## Rounding of equal and of growing ratios -/

section Rounding

variable {n m d n' d' : Nat}

/-- Rounding to a whole number **grows** with the numerator. -/
theorem roundDiv_le_of_le (hd : 0 < d) (h : n ≤ m) : roundDiv n d ≤ roundDiv m d := by
  by_contra hless
  have hupper : 2 * m ≤ (2 * roundDiv m d + 1) * d := by
    by_contra hpast
    exact absurd (lt_roundDiv_of_lt_two_mul hd (Nat.not_le.1 hpast)) (Nat.lt_irrefl _)
  rcases Nat.lt_or_ge (2 * n) ((2 * roundDiv m d + 1) * d) with hlt | hge
  · exact hless (roundDiv_le_of_two_mul_lt hlt)
  · -- both are the middle between two whole numbers, so they are one number
    obtain rfl : n = m := by omega
    exact hless (Nat.le_refl _)

/-- A ratio may be **expanded** before it is rounded. -/
theorem roundDiv_mul_mul (n d : Nat) {k : Nat} (hk : 0 < k) :
    roundDiv (n * k) (d * k) = roundDiv n d := by
  have hless : ∀ a b : Nat, a * k < b * k ↔ a < b := fun _ _ => Nat.mul_lt_mul_right hk
  simp only [roundDiv, Nat.mul_div_mul_right _ _ hk, Nat.mul_mod_mul_right, ← Nat.mul_assoc, hless]

/-- Rounding to a whole number **grows with the ratio**. -/
theorem roundDiv_le_roundDiv (hd : 0 < d) (hd' : 0 < d') (h : (n : ℚ) / d ≤ n' / d') :
    roundDiv n d ≤ roundDiv n' d' := by
  have hcross : n * d' ≤ n' * d := by
    rw [div_le_div_iff₀ (by exact_mod_cast hd) (by exact_mod_cast hd')] at h
    exact_mod_cast h
  calc roundDiv n d = roundDiv (n * d') (d * d') := (roundDiv_mul_mul n d hd').symm
    _ ≤ roundDiv (n' * d) (d * d') := roundDiv_le_of_le (Nat.mul_pos hd hd') hcross
    _ = roundDiv (n' * d) (d' * d) := by rw [Nat.mul_comm d]
    _ = roundDiv n' d' := roundDiv_mul_mul n' d' hd

/-- **Equal ratios** are rounded to one whole number. -/
theorem roundDiv_congr (hd : 0 < d) (hd' : 0 < d') (h : (n : ℚ) / d = n' / d') :
    roundDiv n d = roundDiv n' d' :=
  Nat.le_antisymm (roundDiv_le_roundDiv hd hd' h.le) (roundDiv_le_roundDiv hd' hd h.ge)

/-- A ratio is rounded to **no more than an odd number** exactly if it is below the middle between it
and the next; the middle goes to the next. -/
theorem roundDiv_le_iff {n d k : Nat} (hd : 0 < d) (hk : k % 2 = 1) :
    roundDiv n d ≤ k ↔ 2 * n < (2 * k + 1) * d := by
  refine ⟨fun hle => ?_, roundDiv_le_of_two_mul_lt⟩
  by_contra hpast
  rcases (Nat.not_lt.1 hpast).lt_or_eq with hlt | heq
  · exact absurd (lt_roundDiv_of_lt_two_mul hd hlt) (Nat.not_lt.2 hle)
  · have hexpand : (2 * k + 1) * d = 2 * (k * d) + d := by ring
    have hquotient : n / d = k := by
      refine Nat.div_eq_of_lt_le (by omega) ?_
      rw [Nat.succ_mul]
      omega
    have hrest : 2 * (n % d) = d := by
      have hsplit := Nat.div_add_mod' n d
      rw [hquotient] at hsplit
      omega
    rw [roundDiv] at hle
    simp only [hquotient, hrest, hk, lt_irrefl, if_false] at hle
    omega

end Rounding

/-! ## Magnitudes -/

namespace Binary

/-- The **magnitude** of a binary value, as a rational number. -/
def magnitude (b : Binary) : ℚ := b.mantissa * 2 ^ b.exponent

theorem magnitude_nonneg (b : Binary) : 0 ≤ b.magnitude :=
  mul_nonneg (Nat.cast_nonneg _) (zpow_two_pos _).le

theorem magnitude_eq_zero_iff {b : Binary} : b.magnitude = 0 ↔ b.mantissa = 0 := by
  rw [magnitude, mul_eq_zero, or_iff_left (zpow_two_pos _).ne', Nat.cast_eq_zero]

theorem cast_denominator_pos (b : Binary) : (0 : ℚ) < b.denominator :=
  Nat.cast_pos.2 b.denominator_pos

/-- The magnitude is **numerator by denominator**. -/
theorem magnitude_eq_div (b : Binary) : b.magnitude = b.numerator / b.denominator := by
  rw [magnitude, numerator, denominator, zpow_two_eq_div, Nat.cast_mul, mul_div_assoc]

/-- The magnitude in units of a decimal place, before it is rounded. -/
theorem cast_numerator_mul_div (b : Binary) (k : Nat) :
    ((b.numerator * k : Nat) : ℚ) / b.denominator = b.magnitude * k := by
  rw [Nat.cast_mul, mul_div_right_comm, ← magnitude_eq_div]

/-- The **larger** of two magnitudes is not printed as less. -/
theorem toPlaces_le_toPlaces {b c : Binary} (h : b.magnitude ≤ c.magnitude) (places : Nat) :
    b.toPlaces places ≤ c.toPlaces places := by
  refine roundDiv_le_roundDiv b.denominator_pos c.denominator_pos ?_
  rw [cast_numerator_mul_div, cast_numerator_mul_div]
  exact mul_le_mul_of_nonneg_right h (Nat.cast_nonneg _)

/-- A magnitude **rounded down** to a whole number. -/
theorem floor_magnitude (b : Binary) : ⌊b.magnitude⌋₊ = b.floorMagnitude := by
  rw [magnitude_eq_div, Nat.floor_div_eq_div]
  rfl

/-- A magnitude is printed as **no more than an odd number** of units exactly if it is below the middle
between it and the next. -/
theorem toPlaces_le_iff {b : Binary} {places k : Nat} (hk : k % 2 = 1) :
    b.toPlaces places ≤ k ↔ b.magnitude * tenTo places < k + 1 / 2 := by
  have hcast : (2 * (b.numerator * tenTo places) < (2 * k + 1) * b.denominator)
      ↔ (2 : ℚ) * (b.numerator * tenTo places : Nat) < (2 * k + 1) * b.denominator := by
    exact_mod_cast Iff.rfl
  rw [toPlaces, roundDiv_le_iff b.denominator_pos hk, hcast, ← cast_numerator_mul_div,
    div_lt_iff₀ b.cast_denominator_pos]
  constructor <;> intro h <;> linarith

end Binary

/-! ## The distance of doubles -/

/-- The exponent of the **distance of doubles** around a positive number: doubles have 53 binary
digits, but none of less than `2 ^ -1074`. -/
def unitExponent (q : ℚ) : Int := max (Int.log 2 q - 52) (-1074)

theorem unitExponent_mono {p q : ℚ} (hp : 0 < p) (h : p ≤ q) : unitExponent p ≤ unitExponent q := by
  have hlog := @Int.log_mono_right _ _ _ _ _ 2 _ _ hp h
  simp only [unitExponent]
  omega

/-- A positive number is **less than `2 ^ 53`** units. -/
theorem div_unit_lt {q : ℚ} (hq : 0 < q) : q / 2 ^ unitExponent q < 2 ^ 53 := by
  have hlog : q < (2 : ℚ) ^ (53 + unitExponent q) := by
    refine (Int.lt_zpow_iff_log_lt (b := 2) (by decide) hq).2 ?_
    simp only [unitExponent]
    omega
  rw [div_lt_iff₀ (zpow_two_pos _)]
  rwa [zpow_add₀ (by norm_num)] at hlog

/-- A number with units above the least is **no less than `2 ^ 52`** of them. -/
theorem le_div_unit {q : ℚ} (hq : 0 < q) (h : -1074 < unitExponent q) :
    2 ^ 52 ≤ q / 2 ^ unitExponent q := by
  have hlog : (2 : ℚ) ^ (52 + unitExponent q) ≤ q := by
    refine (Int.zpow_le_iff_le_log (b := 2) (by decide) hq).2 ?_
    simp only [unitExponent] at h ⊢
    omega
  rw [le_div_iff₀ (zpow_two_pos _)]
  rwa [zpow_add₀ (by norm_num)] at hlog

/-- The logarithm of a number **between two powers** of two. -/
theorem log_eq {q : ℚ} {e : Int} (hlower : 2 ^ e ≤ q) (hupper : q < 2 ^ (e + 1)) :
    Int.log 2 q = e := by
  have hq : 0 < q := (zpow_two_pos e).trans_le hlower
  have hle := (Int.zpow_le_iff_le_log (b := 2) (by decide) hq).1 hlower
  have hlt := (Int.lt_zpow_iff_log_lt (b := 2) (by decide) hq).1 hupper
  omega

/-- A natural number lies **between two powers of two**, those around its logarithm. -/
theorem zpow_log2_le {n : Nat} (hn : n ≠ 0) : (2 : ℚ) ^ (n.log2 : Int) ≤ n := by
  rw [zpow_natCast]
  exact_mod_cast Nat.log2_self_le hn

theorem lt_zpow_log2_succ (n : Nat) : (n : ℚ) < 2 ^ (n.log2 + 1 : Int) := by
  exact_mod_cast @Nat.lt_log2_self n

/-- The **exponent of a ratio** is that of the number that it is. -/
theorem Binary.ratioExponent_eq_unitExponent {n d : Nat} (hn : n ≠ 0) (hd : d ≠ 0) :
    ratioExponent n d = unitExponent (n / d) := by
  have htwo : (2 : ℚ) ≠ 0 := by norm_num
  have hdpos : (0 : ℚ) < d := by positivity
  -- the ratio lies around the power of two that the digits of its parts suggest
  have hleast : (2 : ℚ) ^ ((n.log2 : Int) - d.log2 - 1) ≤ n / d := by
    rw [le_div_iff₀ hdpos]
    calc (2 : ℚ) ^ ((n.log2 : Int) - d.log2 - 1) * d
        ≤ 2 ^ ((n.log2 : Int) - d.log2 - 1) * 2 ^ (d.log2 + 1 : Int) :=
          mul_le_mul_of_nonneg_left (lt_zpow_log2_succ d).le (zpow_two_pos _).le
      _ = 2 ^ (n.log2 : Int) := by rw [← zpow_add₀ htwo]; congr 1; omega
      _ ≤ n := zpow_log2_le hn
  have hmost : (n : ℚ) / d < 2 ^ ((n.log2 : Int) - d.log2 + 1) := by
    rw [div_lt_iff₀ hdpos]
    calc (n : ℚ) < 2 ^ (n.log2 + 1 : Int) := lt_zpow_log2_succ n
      _ = 2 ^ ((n.log2 : Int) - d.log2 + 1) * 2 ^ (d.log2 : Int) := by
        rw [← zpow_add₀ htwo]; congr 1; omega
      _ ≤ 2 ^ ((n.log2 : Int) - d.log2 + 1) * d :=
        mul_le_mul_of_nonneg_left (zpow_log2_le hd) (zpow_two_pos _).le
  -- and the test tells on which side
  have htest : n * twoTo (-((n.log2 : Int) - d.log2 - 52)).toNat
        < d * twoTo ((n.log2 : Int) - d.log2 - 52).toNat * twoTo 52
      ↔ (n : ℚ) / d < 2 ^ ((n.log2 : Int) - d.log2) := by
    obtain ⟨e, he⟩ : ∃ e : Int, (n.log2 : Int) - d.log2 - 52 = e := ⟨_, rfl⟩
    have hsplit : (2 : ℚ) ^ ((n.log2 : Int) - d.log2)
        = twoTo e.toNat / twoTo (-e).toNat * twoTo 52 := by
      rw [← zpow_two_eq_div, cast_twoTo, ← zpow_natCast (2 : ℚ) 52, ← zpow_add₀ htwo]
      congr 1
      omega
    have hpos : (0 : ℚ) < twoTo (-e).toNat := Nat.cast_pos.2 (twoTo_pos _)
    rw [he, hsplit, div_mul_eq_mul_div, div_lt_div_iff₀ hdpos hpos, Nat.mul_assoc d, Nat.mul_comm d]
    exact_mod_cast Iff.rfl
  simp only [ratioExponent]
  by_cases hless : (n : ℚ) / d < 2 ^ ((n.log2 : Int) - d.log2)
  · have hlog := log_eq hleast (by rwa [sub_add_cancel])
    rw [if_pos (htest.2 hless), unitExponent, hlog]
    omega
  · have hlog := log_eq (not_lt.1 hless) hmost
    rw [if_neg (mt htest.1 hless), unitExponent, hlog]

/-! ## The nearest double -/

/-- The magnitude of the **double nearest** to a number that is not negative. -/
def nearest (q : ℚ) : ℚ := (Binary.ofRatio q.num q.den).magnitude

theorem nearest_zero : nearest 0 = 0 := Binary.magnitude_eq_zero_iff.2 (by decide +kernel)

theorem nearest_nonneg (q : ℚ) : 0 ≤ nearest q := Binary.magnitude_nonneg _

/-- The nearest double is found by **rounding the number of units** to a whole one. -/
theorem nearest_eq {q : ℚ} (hq : 0 < q) {n d : Nat} (hd : 0 < d)
    (h : (n : ℚ) / d = q / 2 ^ unitExponent q) :
    nearest q = roundDiv n d * 2 ^ unitExponent q := by
  have hnum : (q.num.natAbs : ℚ) / q.den = q := by
    have habs : (q.num.natAbs : Int) = q.num := Int.natAbs_of_nonneg (Rat.num_nonneg.2 hq.le)
    rw [← Int.cast_natCast, habs, Rat.num_div_den]
  have hexponent : Binary.ratioExponent q.num.natAbs q.den = unitExponent q := by
    have hne : q.num.natAbs ≠ 0 := Int.natAbs_ne_zero.2 (Rat.num_pos.2 hq).ne'
    rw [Binary.ratioExponent_eq_unitExponent hne q.den_nz, hnum]
  have hmantissa : (Binary.ofRatio q.num q.den).mantissa = roundDiv n d := by
    show roundDiv (q.num.natAbs * twoTo (-Binary.ratioExponent q.num.natAbs q.den).toNat)
      (q.den * twoTo (Binary.ratioExponent q.num.natAbs q.den).toNat) = roundDiv n d
    rw [hexponent]
    refine roundDiv_congr (Nat.mul_pos q.den_pos (twoTo_pos _)) hd ?_
    rw [h, zpow_two_eq_div, Nat.cast_mul, Nat.cast_mul, mul_div_mul_comm, hnum, div_div_eq_mul_div,
      mul_div_assoc]
  show ((Binary.ofRatio q.num q.den).mantissa : ℚ) * 2 ^ Binary.ratioExponent q.num.natAbs q.den
    = roundDiv n d * 2 ^ unitExponent q
  rw [hmantissa, hexponent]

/-- A positive number has a whole ratio to **its unit**. -/
theorem exists_ratio_to_unit {q : ℚ} (hq : 0 < q) :
    ∃ n d : Nat, 0 < d ∧ (n : ℚ) / d = q / 2 ^ unitExponent q ∧
      nearest q = roundDiv n d * 2 ^ unitExponent q := by
  have hpos : 0 < q / 2 ^ unitExponent q := div_pos hq (zpow_two_pos _)
  obtain ⟨r, hr⟩ : ∃ r : ℚ, q / 2 ^ unitExponent q = r := ⟨_, rfl⟩
  have habs : (r.num.natAbs : Int) = r.num := Int.natAbs_of_nonneg (Rat.num_nonneg.2 (hr ▸ hpos.le))
  have hratio : (r.num.natAbs : ℚ) / r.den = q / 2 ^ unitExponent q := by
    rw [← Int.cast_natCast, habs, Rat.num_div_den, hr]
  exact ⟨r.num.natAbs, r.den, r.den_pos, hratio, nearest_eq hq r.den_pos hratio⟩

section Units

variable {q : ℚ} {n d : Nat}

/-- A positive number is rounded to **no more than `2 ^ 53`** units. -/
theorem roundDiv_unit_le (hq : 0 < q) (hd : 0 < d) (h : (n : ℚ) / d = q / 2 ^ unitExponent q) :
    roundDiv n d ≤ twoTo 53 := by
  refine roundDiv_le hd ?_
  have hlt := div_unit_lt hq
  rw [← h, div_lt_iff₀ (by exact_mod_cast hd), ← cast_twoTo] at hlt
  exact_mod_cast hlt.le

/-- A number with units above the least is rounded to **no less than `2 ^ 52`** of them. -/
theorem le_roundDiv_unit (hq : 0 < q) (hd : 0 < d) (h : (n : ℚ) / d = q / 2 ^ unitExponent q)
    (hunit : -1074 < unitExponent q) : twoTo 52 ≤ roundDiv n d := by
  refine le_roundDiv hd ?_
  have hle := le_div_unit hq hunit
  rw [← h, le_div_iff₀ (by exact_mod_cast hd), ← cast_twoTo] at hle
  exact_mod_cast hle

end Units

/-- The nearest double **grows with the number**. -/
theorem nearest_mono {p q : ℚ} (hp : 0 ≤ p) (h : p ≤ q) : nearest p ≤ nearest q := by
  rcases hp.eq_or_lt with rfl | hpos
  · rw [nearest_zero]
    exact nearest_nonneg q
  have hqpos : 0 < q := hpos.trans_le h
  obtain ⟨n, d, hd, hratio, hnearest⟩ := exists_ratio_to_unit hpos
  obtain ⟨n', d', hd', hratio', hnearest'⟩ := exists_ratio_to_unit hqpos
  rw [hnearest, hnearest']
  rcases (unitExponent_mono hpos h).eq_or_lt with hunit | hunit
  · have hround : roundDiv n d ≤ roundDiv n' d' := by
      refine roundDiv_le_roundDiv hd hd' ?_
      rw [hratio, hratio', hunit]
      exact div_le_div_of_nonneg_right h (zpow_two_pos _).le
    rw [hunit]
    exact mul_le_mul_of_nonneg_right (by exact_mod_cast hround) (zpow_two_pos _).le
  · -- the larger unit is that of a number beyond a power of two that the smaller number stays below
    have hmost : (roundDiv n d : ℚ) ≤ 2 ^ 53 := by
      rw [← cast_twoTo]
      exact_mod_cast roundDiv_unit_le hpos hd hratio
    have hleast : 2 ^ 52 ≤ (roundDiv n' d' : ℚ) := by
      rw [← cast_twoTo]
      exact_mod_cast le_roundDiv_unit hqpos hd' hratio' ((le_max_right _ _).trans_lt hunit)
    calc (roundDiv n d : ℚ) * 2 ^ unitExponent p
        ≤ 2 ^ 53 * 2 ^ unitExponent p :=
          mul_le_mul_of_nonneg_right hmost (zpow_two_pos _).le
      _ = 2 ^ 52 * 2 ^ (unitExponent p + 1) := by rw [zpow_add_one₀ (by norm_num)]; ring
      _ ≤ 2 ^ 52 * 2 ^ unitExponent q :=
        mul_le_mul_of_nonneg_left (zpow_le_zpow_right₀ (by norm_num) hunit) (by positivity)
      _ ≤ roundDiv n' d' * 2 ^ unitExponent q :=
        mul_le_mul_of_nonneg_right hleast (zpow_two_pos _).le

/-- **A double is nearest to itself**: a whole number below `2 ^ 53` of units of no less than
`2 ^ -1074`. -/
theorem nearest_mul_zpow {k : Nat} {e : Int} (hk : k < 2 ^ 53) (he : -1074 ≤ e) :
    nearest (k * 2 ^ e) = k * 2 ^ e := by
  rcases Nat.eq_zero_or_pos k with rfl | hkpos
  · rw [Nat.cast_zero, zero_mul, nearest_zero]
  have hpos : (0 : ℚ) < k * 2 ^ e := mul_pos (by exact_mod_cast hkpos) (zpow_two_pos e)
  obtain ⟨u, hu⟩ : ∃ u, unitExponent ((k : ℚ) * 2 ^ e) = u := ⟨_, rfl⟩
  have hle : u ≤ e := by
    have hlog : Int.log 2 ((k : ℚ) * 2 ^ e) < 53 + e := by
      refine (Int.lt_zpow_iff_log_lt (b := 2) (by decide) hpos).1 ?_
      rw [zpow_add₀ (by norm_num)]
      exact mul_lt_mul_of_pos_right (by exact_mod_cast hk) (zpow_two_pos e)
    rw [← hu, unitExponent]
    omega
  -- the number is a whole number of units, which rounding leaves as it is
  obtain ⟨j, rfl⟩ : ∃ j : Nat, e = u + j := ⟨(e - u).toNat, by omega⟩
  have hunits : ((k * 2 ^ j : Nat) : ℚ) / (1 : Nat) = k * 2 ^ (u + j : Int) / 2 ^ u := by
    rw [zpow_add₀ (by norm_num), mul_left_comm, mul_div_cancel_left₀ _ (zpow_two_pos u).ne',
      zpow_natCast]
    push_cast
    exact div_one _
  have hround := roundDiv_mul_right Nat.one_pos (k * 2 ^ j)
  rw [Nat.mul_one] at hround
  rw [nearest_eq hpos Nat.one_pos (by rw [hu, hunits]), hround, hu]
  rw [Nat.cast_one, div_one] at hunits
  rw [hunits, div_mul_cancel₀ _ (zpow_two_pos u).ne']

/-- The double nearest to a **natural number** below `2 ^ 53`. -/
theorem nearest_natCast {k : Nat} (hk : k < 2 ^ 53) : nearest k = k := by
  have hself := nearest_mul_zpow (e := 0) hk (by decide)
  rwa [zpow_zero, mul_one] at hself

/-- A **power of two** is a double. -/
theorem nearest_zpow {e : Int} (h : -1074 ≤ e) : nearest (2 ^ e) = 2 ^ e := by
  have hself := nearest_mul_zpow (k := 1) (by decide) h
  rwa [Nat.cast_one, one_mul] at hself

end ClusterMetrics.Decimal
