import ClusterMetrics.Decimal.Binary
import Mathlib.Algebra.Order.Ring.Nat

/-! # Ratios as doubles

A ratio is rounded to the nearest double. Whole numbers below `2 ^ 53` are doubles, and so are their
parts by a power of two. A ratio that does not exceed such a number is not rounded above it, and one
that it does not exceed is not rounded below it.

* **`roundDiv_le`**, **`le_roundDiv`**: rounding to a whole number does not pass a whole number.
  **`roundDiv_le_of_two_mul_lt`**, **`lt_roundDiv_of_lt_two_mul`**: it finds the nearest.
* **`Binary.le_of_lt_ratioExponent`**: the mantissa of a ratio has 53 binary digits, unless its
  exponent is least. **`Binary.ratioExponent_eq`**: this determines the exponent.
* **`Binary.numerator_ofRatio_le_part`**, **`Binary.part_le_numerator_ofRatio`**: rounding to a double
  does not pass a part of a whole number below `2 ^ 53`. -/

namespace ClusterMetrics.Decimal

theorem twoTo_add (m n : Nat) : twoTo (m + n) = twoTo m * twoTo n := Nat.pow_add 2 m n

theorem twoTo_le_twoTo {m n : Nat} (h : m ≤ n) : twoTo m ≤ twoTo n :=
  Nat.pow_le_pow_right (by decide) h

theorem lt_of_twoTo_lt {m n : Nat} (h : twoTo m < twoTo n) : m < n :=
  Nat.lt_of_not_le fun hle => Nat.not_lt.2 (twoTo_le_twoTo hle) h

theorem two_le_twoTo {n : Nat} (h : 0 < n) : 2 ≤ twoTo n := by
  obtain ⟨m, rfl⟩ : ∃ m, n = m + 1 := ⟨n - 1, by omega⟩
  have hpos := twoTo_pos m
  rw [twoTo_succ]
  omega

/-- A ratio is not rounded **above** a whole number that it does not exceed. -/
theorem roundDiv_le {n d k : Nat} (hd : 0 < d) (h : n ≤ k * d) : roundDiv n d ≤ k := by
  have hquotient : n / d ≤ k := Nat.div_le_of_le_mul (by rwa [Nat.mul_comm])
  simp only [roundDiv]
  by_cases heq : n / d = k
  · -- the ratio is the whole number itself, so nothing is left to round
    have hrest : n % d = 0 := by
      have hsplit := Nat.div_add_mod n d
      rw [heq, Nat.mul_comm] at hsplit
      omega
    rw [hrest, if_pos (by omega), heq]
  · split
    · omega
    · split <;> omega

/-- A ratio is not rounded **below** a whole number that does not exceed it. -/
theorem le_roundDiv {n d k : Nat} (hd : 0 < d) (h : k * d ≤ n) : k ≤ roundDiv n d := by
  have hquotient : k ≤ n / d := (Nat.le_div_iff_mul_le hd).2 h
  simp only [roundDiv]
  split
  · exact hquotient
  · split <;> omega

/-- A ratio is not rounded **above** the whole number that it exceeds by less than a half. -/
theorem roundDiv_le_of_two_mul_lt {n d k : Nat} (h : 2 * n < (2 * k + 1) * d) :
    roundDiv n d ≤ k := by
  have hsplit := Nat.div_add_mod n d
  rw [Nat.add_mul, Nat.mul_assoc, Nat.one_mul] at h
  have hquotient : n / d ≤ k := by
    by_contra hlt
    have hle : (k + 1) * d ≤ d * (n / d) := by
      rw [Nat.mul_comm d]
      exact Nat.mul_le_mul_right d (Nat.not_le.1 hlt)
    rw [Nat.add_mul] at hle
    omega
  simp only [roundDiv]
  by_cases heq : n / d = k
  · -- the rest is less than a half, so it is dropped
    have hrest : 2 * (n % d) < d := by
      rw [heq, Nat.mul_comm d] at hsplit
      omega
    rw [if_pos hrest, heq]
  · split
    · omega
    · split <;> omega

/-- A ratio that exceeds a whole number by more than a half is rounded **above** it. -/
theorem lt_roundDiv_of_lt_two_mul {n d k : Nat} (hd : 0 < d) (h : (2 * k + 1) * d < 2 * n) :
    k < roundDiv n d := by
  have hsplit := Nat.div_add_mod n d
  rw [Nat.add_mul, Nat.mul_assoc, Nat.one_mul] at h
  have hquotient : k ≤ n / d := by
    refine (Nat.le_div_iff_mul_le hd).2 ?_
    omega
  simp only [roundDiv]
  by_cases heq : n / d = k
  · -- the rest is more than a half, so it counts as one
    have hrest : d < 2 * (n % d) := by
      rw [heq, Nat.mul_comm d] at hsplit
      omega
    rw [if_neg (by omega), if_pos hrest, heq]
    exact Nat.lt_succ_self k
  · split
    · omega
    · split <;> omega

namespace Binary

/-- An exponent above the least one is that of a ratio whose mantissa has **53 binary digits**. -/
theorem le_of_lt_ratioExponent {n d : Nat} (hn : n ≠ 0) (h : -1074 < ratioExponent n d) :
    twoTo 52 * (d * twoTo (ratioExponent n d).toNat) ≤ n * twoTo (-ratioExponent n d).toNat := by
  have hd : d < twoTo (d.log2 + 1) := Nat.lt_log2_self
  simp only [ratioExponent] at h ⊢
  split at h
  · rename_i hless
    rw [if_pos hless]
    -- the digits of both are counted, so those of the denominator at the exponent are no more than
    -- those of the numerator
    obtain ⟨e, he⟩ : ∃ e : Int, max ((n.log2 : Int) - d.log2 - 52 - 1) (-1074) = e := ⟨_, rfl⟩
    rw [he] at h ⊢
    have hlog : 52 + (d.log2 + 1 + e.toNat) = n.log2 + (-e).toNat := by omega
    calc twoTo 52 * (d * twoTo e.toNat)
        ≤ twoTo 52 * (twoTo (d.log2 + 1) * twoTo e.toNat) :=
          Nat.mul_le_mul_left _ (Nat.mul_le_mul_right _ hd.le)
      _ = twoTo n.log2 * twoTo (-e).toNat := by
        rw [← twoTo_add, ← twoTo_add, ← twoTo_add, hlog]
      _ ≤ n * twoTo (-e).toNat := Nat.mul_le_mul_right _ (Nat.log2_self_le hn)
  · rename_i hless
    rw [if_neg hless]
    obtain ⟨e, he⟩ : ∃ e : Int, max ((n.log2 : Int) - d.log2 - 52) (-1074) = e := ⟨_, rfl⟩
    have hmax : (n.log2 : Int) - d.log2 - 52 = e := by omega
    rw [hmax] at hless
    rw [he, Nat.mul_comm]
    exact Nat.le_of_not_lt hless

/-- A ratio of **53 binary digits** at an exponent has this exponent. -/
theorem ratioExponent_eq {n d e : Nat} (he : e ≤ 1074) (hlower : twoTo 52 * d ≤ n * twoTo e)
    (hupper : n * twoTo e < twoTo 53 * d) : ratioExponent n d = -(e : Int) := by
  have hd : d ≠ 0 := by
    rintro rfl
    rw [Nat.mul_zero] at hupper
    exact Nat.not_lt_zero _ hupper
  have hn : n ≠ 0 := by
    rintro rfl
    rw [Nat.zero_mul, Nat.le_zero] at hlower
    exact absurd hlower (Nat.mul_ne_zero (twoTo_pos 52).ne' hd)
  -- the digits of the ratio are those of its parts, or one less
  have hleast : d.log2 + 52 < n.log2 + 1 + e := by
    refine lt_of_twoTo_lt ?_
    calc twoTo (d.log2 + 52) = twoTo 52 * twoTo d.log2 := by rw [Nat.add_comm, twoTo_add]
      _ ≤ twoTo 52 * d := Nat.mul_le_mul_left _ (Nat.log2_self_le hd)
      _ ≤ n * twoTo e := hlower
      _ < twoTo (n.log2 + 1) * twoTo e := Nat.mul_lt_mul_of_pos_right Nat.lt_log2_self (twoTo_pos e)
      _ = twoTo (n.log2 + 1 + e) := (twoTo_add _ _).symm
  have hmost : n.log2 + e < 53 + (d.log2 + 1) := by
    refine lt_of_twoTo_lt ?_
    calc twoTo (n.log2 + e) = twoTo n.log2 * twoTo e := twoTo_add _ _
      _ ≤ n * twoTo e := Nat.mul_le_mul_right _ (Nat.log2_self_le hn)
      _ < twoTo 53 * d := hupper
      _ ≤ twoTo 53 * twoTo (d.log2 + 1) := Nat.mul_le_mul_left _ (Nat.le_of_lt Nat.lt_log2_self)
      _ = twoTo (53 + (d.log2 + 1)) := (twoTo_add _ _).symm
  simp only [ratioExponent]
  by_cases hexact : d.log2 + 52 = n.log2 + e
  · have hestimate : (n.log2 : Int) - d.log2 - 52 = -(e : Int) := by omega
    have hzero : (-(e : Int)).toNat = 0 := by omega
    rw [hestimate, hzero, Int.neg_neg, Int.toNat_natCast, twoTo_zero, Nat.mul_one, Nat.mul_comm d,
      if_neg (Nat.not_lt.2 hlower)]
    omega
  · have hestimate : (n.log2 : Int) - d.log2 - 52 = 1 - (e : Int) := by omega
    have hless : n * twoTo (-(1 - (e : Int))).toNat < d * twoTo (1 - (e : Int)).toNat * twoTo 52 := by
      cases e with
      | zero =>
        show n * twoTo 0 < d * twoTo 1 * twoTo 52
        rw [Nat.mul_assoc, ← twoTo_add, Nat.mul_comm d]
        exact hupper
      | succ e =>
        have hzero : (1 - ((e + 1 : Nat) : Int)).toNat = 0 := by omega
        have hshift : (-(1 - ((e + 1 : Nat) : Int))).toNat = e := by omega
        rw [hzero, hshift, twoTo_zero, Nat.mul_one, Nat.mul_comm d]
        have hdouble : n * twoTo e * 2 < twoTo 52 * d * 2 :=
          calc n * twoTo e * 2 = n * twoTo (e + 1) := by rw [twoTo_succ, Nat.mul_assoc]
            _ < twoTo 53 * d := hupper
            _ = twoTo 52 * d * 2 := by rw [twoTo_succ 52, Nat.mul_right_comm]
        exact Nat.lt_of_mul_lt_mul_right hdouble
    rw [hestimate, if_pos hless]
    omega

/-- The exponent of a ratio is **positive or not**: its double counts a power of two, or parts of one
by a power of two. Either way it has 53 binary digits, unless the exponent is least. -/
theorem numerator_denominator_ofRatio (n : Int) (d : Nat) :
    (∃ e : Nat, (n.natAbs ≠ 0 → e < 1074 → twoTo 52 * d ≤ n.natAbs * twoTo e) ∧
        (ofRatio n d).numerator = roundDiv (n.natAbs * twoTo e) d ∧
          (ofRatio n d).denominator = twoTo e) ∨
      ∃ e : Nat, 0 < e ∧ (n.natAbs ≠ 0 → twoTo 52 * (d * twoTo e) ≤ n.natAbs) ∧
        (ofRatio n d).numerator = roundDiv n.natAbs (d * twoTo e) * twoTo e ∧
          (ofRatio n d).denominator = 1 := by
  have hexponent : (ofRatio n d).exponent = ratioExponent n.natAbs d := rfl
  have hmantissa : (ofRatio n d).mantissa
      = roundDiv (n.natAbs * twoTo (-ratioExponent n.natAbs d).toNat)
          (d * twoTo (ratioExponent n.natAbs d).toNat) := rfl
  rw [numerator, denominator, hexponent, hmantissa]
  by_cases hpos : 0 < ratioExponent n.natAbs d
  · have hzero : (-ratioExponent n.natAbs d).toNat = 0 := by omega
    refine .inr ⟨(ratioExponent n.natAbs d).toNat, by omega, fun hn => ?_, ?_, ?_⟩
    · have hdigits := @le_of_lt_ratioExponent n.natAbs d hn (by omega)
      rwa [hzero, twoTo_zero, Nat.mul_one] at hdigits
    · rw [hzero, twoTo_zero, Nat.mul_one]
    · rw [hzero, twoTo_zero]
  · have hzero : (ratioExponent n.natAbs d).toNat = 0 := by omega
    refine .inl ⟨(-ratioExponent n.natAbs d).toNat, fun hn hlt => ?_, ?_, rfl⟩
    · have hdigits := @le_of_lt_ratioExponent n.natAbs d hn (by omega)
      rwa [hzero, twoTo_zero, Nat.mul_one] at hdigits
    · rw [hzero, twoTo_zero, Nat.mul_one, Nat.mul_one]

variable {n : Int} {d k m : Nat}

/-- The double nearest to **zero** is zero. -/
theorem numerator_ofRatio_zero (h : n.natAbs = 0) : (ofRatio n d).numerator = 0 := by
  simp [numerator, ofRatio, h, roundDiv]

/-- The double nearest to a ratio is **not above** a part by `2 ^ m` of a whole number below `2 ^ 53`
that the ratio does not exceed. -/
theorem numerator_ofRatio_le_part (hd : 0 < d) (hk : k < twoTo 53) (hm : m ≤ 1074)
    (h : n.natAbs * twoTo m ≤ k * d) :
    (ofRatio n d).numerator * twoTo m ≤ k * (ofRatio n d).denominator := by
  by_cases hn : n.natAbs = 0
  · rw [numerator_ofRatio_zero hn, Nat.zero_mul]
    exact Nat.zero_le _
  have hsmall : n.natAbs * twoTo m < twoTo 53 * d :=
    h.trans_lt (Nat.mul_lt_mul_of_pos_right hk hd)
  rcases numerator_denominator_ofRatio n d with
    ⟨e, hdigits, hnumerator, hdenominator⟩ | ⟨e, he, hdigits, -, -⟩
  · by_cases hparts : m ≤ e
    · obtain ⟨j, rfl⟩ := Nat.exists_eq_add_of_le hparts
      rw [hnumerator, hdenominator]
      have hmantissa : roundDiv (n.natAbs * twoTo (m + j)) d ≤ k * twoTo j := by
        apply roundDiv_le hd
        calc n.natAbs * twoTo (m + j) = n.natAbs * twoTo m * twoTo j := by
              rw [twoTo_add, Nat.mul_assoc]
          _ ≤ k * d * twoTo j := Nat.mul_le_mul_right _ h
          _ = k * twoTo j * d := Nat.mul_right_comm _ _ _
      calc roundDiv (n.natAbs * twoTo (m + j)) d * twoTo m
          ≤ k * twoTo j * twoTo m := Nat.mul_le_mul_right _ hmantissa
        _ = k * twoTo (m + j) := by rw [twoTo_add, Nat.mul_assoc, Nat.mul_comm (twoTo j)]
    · -- in units larger than the parts, 53 digits make no less than `2 ^ 53` parts
      refine absurd hsmall (Nat.not_lt.2 ?_)
      calc twoTo 53 * d = twoTo 52 * d * 2 := by rw [twoTo_succ 52, Nat.mul_right_comm]
        _ ≤ n.natAbs * twoTo e * 2 := Nat.mul_le_mul_right _ (hdigits hn (by omega))
        _ = n.natAbs * twoTo (e + 1) := by rw [twoTo_succ, Nat.mul_assoc]
        _ ≤ n.natAbs * twoTo m := Nat.mul_le_mul_left _ (twoTo_le_twoTo (by omega))
  · refine absurd hsmall (Nat.not_lt.2 ?_)
    calc twoTo 53 * d = twoTo 52 * (d * 2) := by rw [twoTo_succ 52, Nat.mul_assoc, Nat.mul_comm 2]
      _ ≤ twoTo 52 * (d * twoTo e) :=
        Nat.mul_le_mul_left _ (Nat.mul_le_mul_left _ (two_le_twoTo he))
      _ ≤ n.natAbs := hdigits hn
      _ ≤ n.natAbs * twoTo m := Nat.le_mul_of_pos_right _ (twoTo_pos m)

/-- The double nearest to a ratio is **not below** a part by `2 ^ m` of a whole number below `2 ^ 53`
that does not exceed the ratio. -/
theorem part_le_numerator_ofRatio (hd : 0 < d) (hk : k < twoTo 53) (hm : m ≤ 1074)
    (h : k * d ≤ n.natAbs * twoTo m) :
    k * (ofRatio n d).denominator ≤ (ofRatio n d).numerator * twoTo m := by
  by_cases hn : n.natAbs = 0
  · rw [hn, Nat.zero_mul, Nat.le_zero, Nat.mul_eq_zero] at h
    rw [h.resolve_right hd.ne', Nat.zero_mul]
    exact Nat.zero_le _
  rcases numerator_denominator_ofRatio n d with
    ⟨e, hdigits, hnumerator, hdenominator⟩ | ⟨e, he, hdigits, hnumerator, hdenominator⟩
  · rw [hnumerator, hdenominator]
    by_cases hparts : m ≤ e
    · obtain ⟨j, rfl⟩ := Nat.exists_eq_add_of_le hparts
      have hmantissa : k * twoTo j ≤ roundDiv (n.natAbs * twoTo (m + j)) d := by
        apply le_roundDiv hd
        calc k * twoTo j * d = k * d * twoTo j := Nat.mul_right_comm _ _ _
          _ ≤ n.natAbs * twoTo m * twoTo j := Nat.mul_le_mul_right _ h
          _ = n.natAbs * twoTo (m + j) := by rw [twoTo_add, Nat.mul_assoc]
      calc k * twoTo (m + j) = k * twoTo j * twoTo m := by
            rw [twoTo_add, Nat.mul_assoc, Nat.mul_comm (twoTo j)]
        _ ≤ roundDiv (n.natAbs * twoTo (m + j)) d * twoTo m := Nat.mul_le_mul_right _ hmantissa
    · have hmantissa : twoTo 52 ≤ roundDiv (n.natAbs * twoTo e) d :=
        le_roundDiv hd (hdigits hn (by omega))
      calc k * twoTo e ≤ twoTo 53 * twoTo e := Nat.mul_le_mul_right _ hk.le
        _ = twoTo 52 * twoTo (e + 1) := by rw [← twoTo_add, ← twoTo_add]; congr 1; omega
        _ ≤ roundDiv (n.natAbs * twoTo e) d * twoTo m :=
          Nat.mul_le_mul hmantissa (twoTo_le_twoTo (by omega))
  · rw [hnumerator, hdenominator, Nat.mul_one]
    have hmantissa : twoTo 52 ≤ roundDiv n.natAbs (d * twoTo e) :=
      le_roundDiv (Nat.mul_pos hd (twoTo_pos e)) (hdigits hn)
    calc k ≤ twoTo 52 * 2 := hk.le
      _ ≤ roundDiv n.natAbs (d * twoTo e) * twoTo e := Nat.mul_le_mul hmantissa (two_le_twoTo he)
      _ ≤ roundDiv n.natAbs (d * twoTo e) * twoTo e * twoTo m :=
        Nat.le_mul_of_pos_right _ (twoTo_pos m)

/-- The double nearest to a ratio is **not above** a whole number below `2 ^ 53` that the ratio does
not exceed. -/
theorem numerator_ofRatio_le (hd : 0 < d) (hk : k < twoTo 53) (h : n.natAbs ≤ k * d) :
    (ofRatio n d).numerator ≤ k * (ofRatio n d).denominator := by
  have hpart := @numerator_ofRatio_le_part n d k 0 hd hk (by decide)
  rw [twoTo_zero, Nat.mul_one, Nat.mul_one] at hpart
  exact hpart h

/-- The double nearest to a ratio is **not below** a whole number below `2 ^ 53` that does not exceed
the ratio. -/
theorem le_numerator_ofRatio (hd : 0 < d) (hk : k < twoTo 53) (h : k * d ≤ n.natAbs) :
    k * (ofRatio n d).denominator ≤ (ofRatio n d).numerator := by
  have hpart := @part_le_numerator_ofRatio n d k 0 hd hk (by decide)
  rw [twoTo_zero, Nat.mul_one, Nat.mul_one] at hpart
  exact hpart h

/-- A magnitude that is not above a whole number is not rounded **above** it. -/
theorem div_le_of_numerator_le {b : Binary} {k : Nat} (h : b.numerator ≤ k * b.denominator) :
    b.floorMagnitude ≤ k ∧ (b.numerator + (b.denominator - 1)) / b.denominator ≤ k := by
  have hpos := b.denominator_pos
  constructor
  · exact Nat.div_le_of_le_mul (by rwa [Nat.mul_comm])
  · refine Nat.le_of_lt_succ ((Nat.div_lt_iff_lt_mul hpos).2 ?_)
    rw [Nat.succ_mul]
    omega

/-- A magnitude that is not below a whole number is not rounded **below** it. -/
theorem le_div_of_le_numerator {b : Binary} {k : Nat} (h : k * b.denominator ≤ b.numerator) :
    k ≤ b.floorMagnitude ∧ k ≤ (b.numerator + (b.denominator - 1)) / b.denominator := by
  have hpos := b.denominator_pos
  constructor
  · exact (Nat.le_div_iff_mul_le hpos).2 h
  · exact (Nat.le_div_iff_mul_le hpos).2 (h.trans (Nat.le_add_right _ _))

end Binary

end ClusterMetrics.Decimal
