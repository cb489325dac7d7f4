import ClusterMetrics.Query.Series

/-! # Whole numbers as doubles

The mantissa of a double has 53 binary digits, so whole numbers below `2 ^ 53` are doubles.

* **`ratioExponent_whole`**: the exponent of such a number is no more than zero.
* **`truncate_ofRatio_whole`**, **`nearestDouble_eq_self`**: rounding leaves it as it is. -/

namespace ClusterMetrics.Decimal

namespace Binary

/-- A whole number below `2 ^ 53` has an exponent of **no more than zero**. -/
theorem ratioExponent_whole {n : Nat} (h : n < twoTo 53) : ratioExponent n 1 ≤ 0 := by
  have hlog : n.log2 ≤ 52 := by
    by_cases hn : n = 0
    · subst hn; decide
    · exact Nat.le_of_lt_succ ((Nat.log2_lt hn).2 h)
  -- the exponent is `log2 n - 52`, or one less
  have hone : Nat.log2 1 = 0 := by decide
  simp only [ratioExponent, hone]
  split <;> omega

/-- A whole number below `2 ^ 53` **is a double**. -/
theorem truncate_ofRatio_whole {n : Int} (h : n.natAbs < twoTo 53) :
    (ofRatio n 1).truncate = n := by
  have hzero : (ratioExponent n.natAbs 1).toNat = 0 := by
    have hexponent := ratioExponent_whole h
    omega
  have hmantissa : (ofRatio n 1).mantissa
      = n.natAbs * twoTo (-(ratioExponent n.natAbs 1)).toNat := by
    have hdiv := roundDiv_mul_right Nat.one_pos
      (n.natAbs * twoTo (-(ratioExponent n.natAbs 1)).toNat)
    rw [Nat.mul_one] at hdiv
    simpa only [ofRatio, hzero, twoTo_zero, Nat.mul_one] using hdiv
  have hfloor : (ofRatio n 1).floorMagnitude = n.natAbs := by
    rw [floorMagnitude, numerator, denominator, hmantissa]
    show n.natAbs * twoTo (-(ratioExponent n.natAbs 1)).toNat *
      twoTo (ratioExponent n.natAbs 1).toNat / twoTo (-(ratioExponent n.natAbs 1)).toNat = n.natAbs
    rw [hzero, twoTo_zero, Nat.mul_one]
    exact Nat.mul_div_cancel _ (twoTo_pos _)
  rw [truncate, hfloor]
  show (if decide (n < 0) = true then -(n.natAbs : Int) else n.natAbs) = n
  by_cases hn : n < 0
  · rw [if_pos (by simpa using hn)]
    omega
  · rw [if_neg (by simpa using hn)]
    omega

end Binary

end ClusterMetrics.Decimal

namespace ClusterMetrics

/-- The double nearest to a number below `2 ^ 53` is **the number**. -/
theorem nearestDouble_eq_self {n : Int} (h : n.natAbs < Decimal.twoTo 53) : nearestDouble n = n :=
  Decimal.Binary.truncate_ofRatio_whole h

end ClusterMetrics
