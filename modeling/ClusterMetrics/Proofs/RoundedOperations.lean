import ClusterMetrics.Proofs.RepresentedRatios

/-! # Operations on doubles

Multiplying, dividing, adding and subtracting doubles gives the double nearest to the exact result,
unless that is beyond the range of doubles.

* **`isRounded_mul`**, **`isRounded_div`**, **`isRounded_sub`**, **`isRounded_add`**: the operations.
  **`isRounded_ofNat`**: the double of a natural number.
* **`Holds`**: a double of positive sign has a given magnitude. **`Holds.sub`**, **`Holds.add`**,
  **`Holds.div`**, **`Holds.lt_iff`**: the operations and the order in terms of what doubles hold. -/

namespace ClusterMetrics.Decimal

open Float.Model (UnpackedFloat Format totalExponent)
open Float.Model.UnpackedFloat

variable {x y : Float} {a b : Binary}

/-! ## Products and quotients -/

theorem isNegative_mul (s s' : Sign) : isNegative (s * s') = (isNegative s ^^ isNegative s') := by
  cases s <;> cases s' <;> rfl

theorem isNegative_div (s s' : Sign) : isNegative (s / s') = (isNegative s ^^ isNegative s') := by
  cases s <;> cases s' <;> rfl

theorem isRounded_zero (s : Sign) : IsRounded (.ofModel (.pack (.zero s))) (isNegative s) 0 :=
  ⟨_, finite?_pack_zero s, rfl, (Binary.magnitude_eq_zero_iff.2 rfl).trans nearest_zero.symm⟩

theorem magnitude_zero (negative : Bool) : Binary.magnitude ⟨negative, 0, -1074⟩ = 0 :=
  Binary.magnitude_eq_zero_iff.2 rfl

/-- The exponents of two stored values add up to no more than **the unit of their product**. -/
theorem add_exponent_le (ha : a.IsStored) (hb : b.IsStored) (hm : 0 < a.mantissa)
    (hm' : 0 < b.mantissa) :
    a.exponent + b.exponent ≤ unitExponent (a.magnitude * b.magnitude) := by
  by_cases hlead : twoTo 52 ≤ a.mantissa * b.mantissa
  · refine le_unitExponent ?_
    rw [zpow_add₀ (by norm_num), Binary.magnitude, Binary.magnitude, mul_mul_mul_comm, ← cast_twoTo]
    exact mul_le_mul_of_nonneg_right (by exact_mod_cast hlead)
      (mul_pos (zpow_two_pos _) (zpow_two_pos _)).le
  · -- both mantissas are short, so both exponents are least
    have hleft : a.mantissa ≤ a.mantissa * b.mantissa := Nat.le_mul_of_pos_right _ hm'
    have hright : b.mantissa ≤ a.mantissa * b.mantissa := Nat.le_mul_of_pos_left _ hm
    have hleast := ha.leads.resolve_left (by omega)
    have hleast' := hb.leads.resolve_left (by omega)
    have hunit : -1074 ≤ unitExponent (a.magnitude * b.magnitude) := le_max_right _ _
    omega

/-- The product of doubles is the double nearest to **the product**. -/
theorem isRounded_mul (hx : finite? x = some a) (hy : finite? y = some b)
    (hlimit : nearest (a.magnitude * b.magnitude) < 2 ^ 1024) :
    IsRounded (x * y) (a.negative ^^ b.negative) (a.magnitude * b.magnitude) := by
  have ha := isStored_of_finite? hx
  have hb := isStored_of_finite? hy
  show IsRounded (.ofModel (.pack (.mul .binary64 x.toModel.unpack y.toModel.unpack))) _ _
  rcases unpack_of_finite? hx with ⟨s, hs, rfl⟩ | ⟨s, m, e, hm, hs, rfl⟩
  · -- a product with a zero is a zero, with the sign of a product
    rcases unpack_of_finite? hy with ⟨s', hs', rfl⟩ | ⟨s', m', e', hm', hs', rfl⟩ <;>
      rw [hs, hs', magnitude_zero, zero_mul, ← isNegative_mul] <;> exact isRounded_zero _
  · rcases unpack_of_finite? hy with ⟨s', hs', rfl⟩ | ⟨s', m', e', hm', hs', rfl⟩
    · rw [hs, hs', magnitude_zero, mul_zero, ← isNegative_mul]
      exact isRounded_zero _
    · rw [hs, hs', ← isNegative_mul]
      refine isRounded_roundWithAccuracy Nat.one_pos (represents_exact (m * m')) ?_ ?_
        (add_exponent_le ha hb hm hm') hlimit
      · exact mul_pos (mul_pos (Nat.cast_pos.2 hm) (zpow_two_pos e))
          (mul_pos (Nat.cast_pos.2 hm') (zpow_two_pos e'))
      · rw [Nat.cast_one, div_one, zpow_add₀ (by norm_num), Nat.cast_mul, mul_mul_mul_comm]
        rfl

/-- A quotient of mantissas is **shifted far enough** to hold the digits of a double. -/
theorem targetExponent_sub_le {m m' : Nat} {e e' : Int} (hm : 0 < m) (hm' : 0 < m') :
    Format.binary64.targetExponent (totalExponent m e - totalExponent m' e')
      ≤ unitExponent (m * 2 ^ e / (m' * 2 ^ e')) := by
  have hdivisor : (0 : ℚ) < m' * 2 ^ e' := mul_pos (Nat.cast_pos.2 hm') (zpow_two_pos e')
  have hpos : (0 : ℚ) < m * 2 ^ e / (m' * 2 ^ e') :=
    div_pos (mul_pos (Nat.cast_pos.2 hm) (zpow_two_pos e)) hdivisor
  have hleast : (2 : ℚ) ^ ((m.log2 + e) - (m'.log2 + 1 + e')) ≤ m * 2 ^ e / (m' * 2 ^ e') := by
    rw [le_div_iff₀ hdivisor, zpow_sub₀ (by norm_num), div_mul_eq_mul_div,
      div_le_iff₀ (zpow_two_pos _), zpow_add₀ (by norm_num), zpow_add₀ (by norm_num) (_ + 1)]
    refine mul_le_mul ?_ ?_ hdivisor.le ?_
    · exact mul_le_mul_of_nonneg_right (zpow_log2_le hm.ne') (zpow_two_pos e).le
    · exact mul_le_mul_of_nonneg_right (lt_zpow_log2_succ m').le (zpow_two_pos e').le
    · exact (mul_pos (Nat.cast_pos.2 hm) (zpow_two_pos e)).le
  have hlog := (Int.zpow_le_iff_le_log (b := 2) (by decide) hpos).1 hleast
  show max ((m.log2 : Int) + 1 + e - (m'.log2 + 1 + e') - 53) (-1074) ≤ _
  rw [unitExponent]
  omega

/-- The quotient of doubles is the double nearest to **the quotient**. -/
theorem isRounded_div (hx : finite? x = some a) (hy : finite? y = some b) (hpos : 0 < b.magnitude)
    (hlimit : nearest (a.magnitude / b.magnitude) < 2 ^ 1024) :
    IsRounded (x / y) (a.negative ^^ b.negative) (a.magnitude / b.magnitude) := by
  show IsRounded (.ofModel (.pack (.div .binary64 x.toModel.unpack y.toModel.unpack))) _ _
  rcases unpack_of_finite? hy with ⟨s', hs', rfl⟩ | ⟨s', m', e', hm', hs', rfl⟩
  · rw [magnitude_zero] at hpos
    exact absurd hpos (lt_irrefl _)
  · rcases unpack_of_finite? hx with ⟨s, hs, rfl⟩ | ⟨s, m, e, hm, hs, rfl⟩
    · rw [hs, hs', magnitude_zero, zero_div, ← isNegative_div]
      exact isRounded_zero _
    · -- the dividend is shifted until the quotient has all digits of a double
      rw [hs, hs', ← isNegative_div]
      obtain ⟨t, ht⟩ : ∃ t, min (e - e') (Format.binary64.targetExponent
        (totalExponent m e - totalExponent m' e')) = t := ⟨_, rfl⟩
      have hcore : divCore .binary64 m e m' e' = (m <<< (e - e' - t).toNat / m', t,
          accuracyOfFraction (m <<< (e - e' - t).toNat % m') m') := by
        simp only [divCore, ht]
      have hdiv : UnpackedFloat.div .binary64 (.finite s m e hm) (.finite s' m' e' hm')
          = roundWithAccuracy .binary64 (s / s') (m <<< (e - e' - t).toNat / m') t
            (accuracyOfFraction (m <<< (e - e' - t).toNat % m') m') := by
        simp only [UnpackedFloat.div, hcore]
      rw [hdiv]
      refine isRounded_roundWithAccuracy hm' (represents_fraction hm') ?_ ?_ ?_ hlimit
      · exact div_pos (mul_pos (Nat.cast_pos.2 hm) (zpow_two_pos e)) hpos
      · have hshift : ((e - e' - t).toNat : Int) = e - e' - t := by
          have hle : t ≤ e - e' := ht ▸ min_le_left _ _
          omega
        rw [Nat.shiftLeft_eq, Nat.cast_mul, Nat.cast_pow, Nat.cast_ofNat, ← zpow_natCast, hshift,
          mul_div_right_comm, mul_assoc, ← zpow_add₀ (by norm_num), sub_add_cancel,
          zpow_sub₀ (by norm_num), ← mul_div_mul_comm]
        rfl
      · exact (ht ▸ min_le_right _ _ : t ≤ _).trans (targetExponent_sub_le hm hm')

/-! ## Sums and differences -/

/-- A mantissa is **shifted to a smaller exponent** without loss. -/
theorem shiftLeft_mul_zpow (m : Nat) {e t : Int} (h : t ≤ e) :
    ((m <<< (e - t).toNat : Nat) : ℚ) * 2 ^ t = m * 2 ^ e := by
  have hshift : ((e - t).toNat : Int) = e - t := by omega
  rw [Nat.shiftLeft_eq, Nat.cast_mul, Nat.cast_pow, Nat.cast_ofNat, ← zpow_natCast, hshift, mul_assoc,
    ← zpow_add₀ (by norm_num), sub_add_cancel]

/-- A number of units is rounded to **the nearest double**, at whatever exponent they are. -/
theorem isRounded_round {m : Nat} {e : Int} (hm : 0 < m) (hlimit : nearest (m * 2 ^ e) < 2 ^ 1024) :
    IsRounded (.ofModel (.pack (UnpackedFloat.round .binary64 .positive m e))) false (m * 2 ^ e) := by
  have hpos : (0 : ℚ) < m * 2 ^ e := mul_pos (Nat.cast_pos.2 hm) (zpow_two_pos e)
  obtain ⟨u, hu⟩ : ∃ u, unitExponent (m * 2 ^ e) = u := ⟨_, rfl⟩
  have htarget : Format.binary64.targetExponent (totalExponent m e) = u := by
    rw [targetExponent_eq, ← hu, unitExponent, log_mul_zpow hm.ne' le_rfl (lt_add_one _)]
  -- units above those of the nearest double are counted in these first
  have hround : UnpackedFloat.round .binary64 .positive m e
      = roundWithAccuracy .binary64 .positive (m <<< (e - u).toNat) (e - (e - u).toNat) .exact := by
    simp only [UnpackedFloat.round, htarget, decreaseExponent]
  have hexponent : e - ((e - u).toNat : Int) = min e u := by omega
  have hsame : ((m <<< (e - u).toNat : Nat) : ℚ) * 2 ^ min e u = m * 2 ^ e := by
    rcases le_total u e with hle | hle
    · rw [min_eq_right hle]
      exact shiftLeft_mul_zpow m hle
    · have hnone : (e - u).toNat = 0 := by omega
      rw [min_eq_left hle, hnone, Nat.shiftLeft_zero]
  rw [hround, hexponent]
  refine isRounded_roundWithAccuracy Nat.one_pos (represents_exact _) hpos ?_ ?_ hlimit
  · rw [Nat.cast_one, div_one, hsame]
  · rw [hu]
    exact min_le_right e u

/-- A whole number of units is normalised to **the nearest double**. -/
theorem isRounded_normalize {z : Int} {e : Int} {q : ℚ} (hq : 0 ≤ q) (heq : (z : ℚ) * 2 ^ e = q)
    (hlimit : nearest q < 2 ^ 1024) :
    IsRounded (.ofModel (.pack (UnpackedFloat.normalize .binary64 z e .positive))) false q := by
  have hz : 0 ≤ z := by
    rw [← heq] at hq
    exact_mod_cast nonneg_of_mul_nonneg_left hq (zpow_two_pos e)
  obtain ⟨m, rfl⟩ := Int.eq_ofNat_of_zero_le hz
  rw [Int.cast_natCast] at heq
  subst heq
  rcases Nat.eq_zero_or_pos m with rfl | hm
  · have hzero : ((0 : Nat) : ℚ) * 2 ^ e = 0 := by rw [Nat.cast_zero, zero_mul]
    rw [hzero]
    exact isRounded_zero .positive
  · have hcompare : compare (m : Int) 0 = .gt := compare_gt_iff_gt.2 (by omega)
    have hnormalize : UnpackedFloat.normalize .binary64 (m : Int) e .positive
        = UnpackedFloat.round .binary64 .positive m e := by
      simp only [UnpackedFloat.normalize, hcompare, Int.toNat_natCast]
    rw [hnormalize]
    exact isRounded_round hm hlimit

/-- A positive double is **nearest to its own magnitude**. -/
theorem isRounded_self (hx : finite? x = some a) (ha : a.negative = false) :
    IsRounded x false a.magnitude := by
  have hstored := isStored_of_finite? hx
  exact ⟨a, hx, ha, (nearest_mul_zpow hstored.mantissa_lt hstored.le_exponent).symm⟩

theorem eq_positive {s : Sign} (h : isNegative s = false) : s = .positive := by
  cases s with
  | positive => rfl
  | negative => cases h

/-- The difference of doubles is the double nearest to **the difference**, if that is not negative. -/
theorem isRounded_sub (hx : finite? x = some a) (hy : finite? y = some b) (ha : a.negative = false)
    (hb : b.negative = false) (hle : b.magnitude ≤ a.magnitude)
    (hlimit : nearest (a.magnitude - b.magnitude) < 2 ^ 1024) :
    IsRounded (x - y) false (a.magnitude - b.magnitude) := by
  show IsRounded (.ofModel (.pack (.sub .binary64 x.toModel.unpack y.toModel.unpack))) _ _
  rcases unpack_of_finite? hx with ⟨s, hs, rfl⟩ | ⟨s, m, e, hm, hs, rfl⟩ <;>
    obtain rfl := eq_positive ha <;>
    rcases unpack_of_finite? hy with ⟨s', hs', rfl⟩ | ⟨s', m', e', hm', hs', rfl⟩ <;>
    obtain rfl := eq_positive hb <;> rw [hs, hs']
  · rw [magnitude_zero, sub_zero]
    exact isRounded_zero .positive
  · rw [magnitude_zero] at hle
    exact absurd hle (not_le.2 (mul_pos (Nat.cast_pos.2 hm') (zpow_two_pos e')))
  · rw [magnitude_zero, sub_zero]
    exact isRounded_self (finite?_pack hm (isStored_of_finite? hx)) rfl
  · -- both mantissas are shifted to the smaller exponent
    refine isRounded_normalize (sub_nonneg.2 hle) ?_ hlimit
    rw [Sign.apply, Sign.apply, Int.cast_sub, Int.cast_natCast, Int.cast_natCast, sub_mul,
      shiftLeft_mul_zpow m (min_le_left e e'), shiftLeft_mul_zpow m' (min_le_right e e')]
    rfl

/-- The sum of doubles that are not negative is the double nearest to **the sum**. -/
theorem isRounded_add (hx : finite? x = some a) (hy : finite? y = some b) (ha : a.negative = false)
    (hb : b.negative = false) (hlimit : nearest (a.magnitude + b.magnitude) < 2 ^ 1024) :
    IsRounded (x + y) false (a.magnitude + b.magnitude) := by
  show IsRounded (.ofModel (.pack (.add .binary64 x.toModel.unpack y.toModel.unpack))) _ _
  rcases unpack_of_finite? hx with ⟨s, hs, rfl⟩ | ⟨s, m, e, hm, hs, rfl⟩ <;>
    obtain rfl := eq_positive ha <;>
    rcases unpack_of_finite? hy with ⟨s', hs', rfl⟩ | ⟨s', m', e', hm', hs', rfl⟩ <;>
    obtain rfl := eq_positive hb <;> rw [hs, hs']
  · rw [magnitude_zero, add_zero]
    exact isRounded_zero .positive
  · rw [magnitude_zero, zero_add]
    exact isRounded_self (finite?_pack hm' (isStored_of_finite? hy)) rfl
  · rw [magnitude_zero, add_zero]
    exact isRounded_self (finite?_pack hm (isStored_of_finite? hx)) rfl
  · -- both mantissas are shifted to the smaller exponent
    refine isRounded_normalize (add_nonneg (Binary.magnitude_nonneg _) (Binary.magnitude_nonneg _)) ?_ hlimit
    rw [Sign.apply, Sign.apply, Int.cast_add, Int.cast_natCast, Int.cast_natCast, add_mul,
      shiftLeft_mul_zpow m (min_le_left e e'), shiftLeft_mul_zpow m' (min_le_right e e')]
    rfl

/-- A finite double less **itself** is zero. -/
theorem sub_self_of_finite? (hx : finite? x = some a) : x - x = 0.0 := by
  have hzero : (0.0 : Float) = .ofModel (.pack (.zero .positive)) := by decide +kernel
  rw [hzero]
  show Float.ofModel (.pack (.sub .binary64 x.toModel.unpack x.toModel.unpack)) = _
  rcases unpack_of_finite? hx with ⟨s, hs, -⟩ | ⟨s, m, e, hm, hs, -⟩ <;> rw [hs]
  · cases s <;> rfl
  · simp only [UnpackedFloat.sub, sub_self]
    rfl

/-! ## Whole numbers -/

/-- A **short number** is a double, which is multiplied by one. -/
theorem isRounded_ofNat_of_lt {n : Nat} (hshort : n < 2 ^ 53) (hlimit : nearest n < 2 ^ 1024) :
    IsRounded (.ofNat n) false n := by
  show IsRounded (Float.ofScientific n false 0) false n
  rw [Float.ofScientific, dif_pos ⟨hshort, by decide⟩, if_neg Bool.false_ne_true]
  have hone : finite? (Float.ofBits 0x3FF0000000000000) = some ⟨false, 4503599627370496, -52⟩ := by
    decide +kernel
  have hunit : Binary.magnitude ⟨false, 4503599627370496, -52⟩ = 1 := by norm_num [Binary.magnitude]
  have hword : n.toUInt64.toNat = n := UInt64.toNat_ofNat_of_lt' (hshort.trans (by decide))
  have hself : IsRounded n.toUInt64.toFloat false n := by
    show IsRounded (.ofModel (.pack
      (UnpackedFloat.normalize .binary64 (n.toUInt64.toNat : Int) 0 .positive))) _ _
    rw [hword]
    exact isRounded_normalize (Nat.cast_nonneg n) (by rw [zpow_zero, mul_one, Int.cast_natCast]) hlimit
  obtain ⟨a, ha, hsign, hmagnitude⟩ := hself
  have hsame : a.magnitude * Binary.magnitude ⟨false, 4503599627370496, -52⟩ = n := by
    rw [hunit, mul_one, hmagnitude, nearest_natCast hshort]
  have hproduct := isRounded_mul ha hone (by rwa [hsame])
  rw [hsame, hsign] at hproduct
  exact hproduct

/-- A **longer number** is given 53 digits more and rounded. -/
theorem isRounded_ofNat_of_le {n : Nat} (hlong : 2 ^ 53 ≤ n) (hlimit : nearest n < 2 ^ 1024) :
    IsRounded (.ofNat n) false n := by
  have hpos : 0 < n := (Nat.two_pow_pos 53).trans_le hlong
  have hdigits : Float.Model.ofScientific n (Int.ofNat 0)
      = .pack (roundWithAccuracy .binary64 .positive (n <<< 53 * 10 ^ 0) (-53 + 0) .exact) := by
    have hnot : ¬ Int.ofNat 0 < -((2 ^ Format.binary64.exponentBits : Int) + n.log2) := by
      have hpower : (0 : Int) ≤ 2 ^ Format.binary64.exponentBits := by positivity
      rw [Int.ofNat_eq_natCast]
      omega
    rw [Float.Model.ofScientific, UnpackedFloat.ofScientific,
      dif_neg hpos.ne', if_neg (by decide), if_neg hnot, if_pos (by decide)]
    rfl
  show IsRounded (Float.ofScientific n false 0) false n
  rw [Float.ofScientific, dif_neg fun h => absurd h.1 (Nat.not_lt.2 hlong)]
  show IsRounded (.ofModel (Float.Model.ofScientific n (Int.ofNat 0))) false n
  rw [hdigits]
  refine isRounded_roundWithAccuracy Nat.one_pos (represents_exact _) (Nat.cast_pos.2 hpos) ?_ ?_ hlimit
  · rw [pow_zero, Nat.mul_one, Nat.cast_one, div_one, Nat.shiftLeft_eq]
    norm_num
    ring
  · refine le_unitExponent ?_
    have hone : (1 : ℚ) ≤ n := Nat.one_le_cast.2 hpos
    norm_num
    linarith

/-- The double of a natural number is the double **nearest** to it. -/
theorem isRounded_ofNat {n : Nat} (hlimit : nearest n < 2 ^ 1024) : IsRounded (.ofNat n) false n := by
  rcases Nat.lt_or_ge n (2 ^ 53) with hshort | hlong
  · exact isRounded_ofNat_of_lt hshort hlimit
  · exact isRounded_ofNat_of_le hlong hlimit

/-! ## Magnitudes held by doubles -/

/-- A double of positive sign **holds** a number that is its magnitude. -/
def Holds (x : Float) (q : ℚ) : Prop :=
  ∃ b, finite? x = some b ∧ b.negative = false ∧ b.magnitude = q

theorem holds_zero : Holds 0.0 0 :=
  ⟨⟨false, 0, -1074⟩, by decide +kernel, rfl, magnitude_zero false⟩

theorem holds_half : Holds 0.5 (1 / 2) :=
  ⟨⟨false, 4503599627370496, -53⟩, by decide +kernel, rfl, by norm_num [Binary.magnitude]⟩

theorem holds_one : Holds 1.0 1 :=
  ⟨⟨false, 4503599627370496, -52⟩, by decide +kernel, rfl, by norm_num [Binary.magnitude]⟩

/-- Short **whole numbers** are held by their doubles. -/
theorem holds_ofNat {n : Nat} (h : n < 2 ^ 53) : Holds (.ofNat n) n := by
  have hself := nearest_natCast h
  obtain ⟨b, hb, hsign, hmagnitude⟩ := isRounded_ofNat (n := n) (by
    rw [hself]
    exact (Nat.cast_lt.2 h).trans_le (by exact_mod_cast Nat.pow_le_pow_right (by decide) (by decide)))
  exact ⟨b, hb, hsign, hmagnitude.trans hself⟩

namespace Holds

variable {p q : ℚ}

theorem nonneg (h : Holds x q) : 0 ≤ q := by
  obtain ⟨b, -, -, rfl⟩ := h
  exact b.magnitude_nonneg

/-- A number that is held is **the nearest double** to itself. -/
theorem nearest_eq (h : Holds x q) : nearest q = q := by
  obtain ⟨b, hb, -, rfl⟩ := h
  have hstored := isStored_of_finite? hb
  exact nearest_mul_zpow hstored.mantissa_lt hstored.le_exponent

theorem lt_limit (h : Holds x q) : q < 2 ^ 1024 := by
  obtain ⟨b, hb, -, rfl⟩ := h
  exact (isStored_of_finite? hb).magnitude_lt

/-- What is **no more** than a held number is rounded to no more than it. -/
theorem nearest_le (h : Holds x q) (hp : 0 ≤ p) (hle : p ≤ q) : nearest p ≤ q :=
  (nearest_mono hp hle).trans h.nearest_eq.le

/-- What is **no less** than a held number is rounded to no less than it. -/
theorem le_nearest (h : Holds x q) (hle : q ≤ p) : q ≤ nearest p :=
  h.nearest_eq.ge.trans (nearest_mono h.nonneg hle)

theorem sub (hx : Holds x p) (hy : Holds y q) (hle : q ≤ p) : Holds (x - y) (nearest (p - q)) := by
  have hlimit := (hx.nearest_le (sub_nonneg.2 hle) (sub_le_self p hy.nonneg)).trans_lt hx.lt_limit
  obtain ⟨a, ha, hasign, rfl⟩ := hx
  obtain ⟨b, hb, hbsign, rfl⟩ := hy
  exact isRounded_sub ha hb hasign hbsign hle hlimit

theorem add (hx : Holds x p) (hy : Holds y q) (hlimit : nearest (p + q) < 2 ^ 1024) :
    Holds (x + y) (nearest (p + q)) := by
  obtain ⟨a, ha, hasign, rfl⟩ := hx
  obtain ⟨b, hb, hbsign, rfl⟩ := hy
  exact isRounded_add ha hb hasign hbsign hlimit

theorem div (hx : Holds x p) (hy : Holds y q) (hq : 1 ≤ q) : Holds (x / y) (nearest (p / q)) := by
  have hlimit := (hx.nearest_le (div_nonneg hx.nonneg hy.nonneg) (div_le_self hx.nonneg hq)).trans_lt
    hx.lt_limit
  obtain ⟨a, ha, hasign, rfl⟩ := hx
  obtain ⟨b, hb, hbsign, rfl⟩ := hy
  have hquotient := isRounded_div ha hb (zero_lt_one.trans_le hq) hlimit
  rwa [hasign, hbsign] at hquotient

theorem beq_iff (hx : Holds x p) (hy : Holds y q) : (x == y) = true ↔ p = q := by
  obtain ⟨a, ha, hasign, rfl⟩ := hx
  obtain ⟨b, hb, hbsign, rfl⟩ := hy
  rw [Decimal.beq_iff ha hb, Binary.value_eq_magnitude hasign, Binary.value_eq_magnitude hbsign]

theorem lt_iff (hx : Holds x p) (hy : Holds y q) : x < y ↔ p < q := by
  obtain ⟨a, ha, hasign, rfl⟩ := hx
  obtain ⟨b, hb, hbsign, rfl⟩ := hy
  rw [Decimal.lt_iff ha hb, Binary.value_eq_magnitude hasign, Binary.value_eq_magnitude hbsign]

end Holds

/-- A double that is not negative is held, once its zero is **made positive**. -/
theorem holds_of_nonneg (hx : finite? x = some b) (h : 0 ≤ b.value) :
    Holds (if x == 0.0 then 0.0 else x) b.magnitude := by
  have hzero : (x == 0.0) = true ↔ b.magnitude = 0 := by
    obtain ⟨c, hc, hsign, hmagnitude⟩ := holds_zero
    rw [beq_iff hx hc, Binary.value_eq_magnitude hsign, hmagnitude, Binary.value_of_nonneg h]
  by_cases hmagnitude : b.magnitude = 0
  · rw [if_pos (hzero.2 hmagnitude), hmagnitude]
    exact holds_zero
  · rw [if_neg (mt hzero.1 hmagnitude)]
    have hpos := lt_of_le_of_ne b.magnitude_nonneg (Ne.symm hmagnitude)
    exact ⟨b, hx, Binary.negative_eq_false h hpos, rfl⟩

/-- A **short ratio** by a power of two is held by the double made of it. -/
theorem holds_toFloat (hsign : b.negative = false) (hmantissa : b.mantissa < 2 ^ 53)
    (hexponent : -1074 ≤ b.exponent) (hnumerator : b.numerator < 2 ^ 53)
    (hdenominator : b.denominator < 2 ^ 53) : Holds b.toFloat b.magnitude := by
  have hone : (1 : ℚ) ≤ b.denominator := Nat.one_le_cast.2 b.denominator_pos
  have hdiv := (holds_ofNat hnumerator).div (holds_ofNat hdenominator) hone
  rw [← Binary.magnitude_eq_div, Binary.magnitude, nearest_mul_zpow hmantissa hexponent] at hdiv
  rw [Binary.toFloat, if_neg (by rw [hsign]; decide)]
  exact hdiv

end ClusterMetrics.Decimal
