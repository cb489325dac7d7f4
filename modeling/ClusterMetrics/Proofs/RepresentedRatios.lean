import ClusterMetrics.Proofs.StoredDoubles
import Mathlib.Data.Nat.Cast.Order.Field

/-! # Rounding to a double

An operation on doubles finds a whole number of units with two bits that tell what it leaves out: whether
that is half a unit or more, and whether it is something other than nothing and one half. The bits survive
any number of shifts, and rounding by them rounds the exact ratio.

* **`Represents em n d`**: a mantissa and its bits stand for a ratio.
  **`Represents.roundedMantissa_eq`**: it is rounded as the ratio is.
* **`IsRounded`**: a double is the nearest to a number. **`isRounded_roundWithAccuracy`**: what is
  represented is rounded to the nearest double, unless that is beyond the range of doubles. -/

namespace ClusterMetrics.Decimal

open Float.Model (UnpackedFloat Format totalExponent)
open Float.Model.UnpackedFloat

/-! ## What is left out of a mantissa -/

/-- A mantissa with its two bits **represents a ratio**: it is the ratio rounded down, the first bit
tells whether the rest is half or more, and the second whether it is neither nothing nor a half. -/
structure Represents (em : ExtendedMantissa) (n d : Nat) : Prop where
  /-- The mantissa is the ratio rounded down. -/
  mantissa_eq : em.mantissa = n / d
  /-- The first bit tells of a half or more. -/
  roundBit_iff : em.roundBit = true ↔ d ≤ 2 * (n % d)
  /-- The second bit tells of something besides nothing and a half. -/
  stickyBit_iff : em.stickyBit = true ↔ 2 * (n % d) ≠ 0 ∧ 2 * (n % d) ≠ d

/-- An **exact** mantissa represents itself. -/
theorem represents_exact (m : Nat) : Represents (.ofMantissaAndAccuracy m .exact) m 1 where
  mantissa_eq := (Nat.div_one m).symm
  roundBit_iff := by simp [ExtendedMantissa.ofMantissaAndAccuracy, Nat.mod_one]
  stickyBit_iff := by simp [ExtendedMantissa.ofMantissaAndAccuracy, Nat.mod_one]

/-- The **quotient of a division** with what the remainder tells represents the ratio. -/
theorem represents_fraction {n d : Nat} (hd : 0 < d) :
    Represents (.ofMantissaAndAccuracy (n / d) (accuracyOfFraction (n % d) d)) n d := by
  simp only [accuracyOfFraction]
  by_cases hzero : n % d = 0
  · rw [if_pos hzero]
    exact ⟨rfl, by simp [ExtendedMantissa.ofMantissaAndAccuracy, hzero, hd.ne'],
      by simp [ExtendedMantissa.ofMantissaAndAccuracy, hzero]⟩
  · rw [if_neg hzero]
    rcases lt_trichotomy (2 * (n % d)) d with hlt | heq | hgt
    · rw [compare_lt_iff_lt.2 hlt]
      exact ⟨rfl, by simp [ExtendedMantissa.ofMantissaAndAccuracy, hlt],
        by simp [ExtendedMantissa.ofMantissaAndAccuracy, hzero, hlt.ne]⟩
    · rw [compare_eq_iff_eq.2 heq]
      exact ⟨rfl, by simp [ExtendedMantissa.ofMantissaAndAccuracy, heq],
        by simp [ExtendedMantissa.ofMantissaAndAccuracy, heq]⟩
    · rw [compare_gt_iff_gt.2 hgt]
      exact ⟨rfl, by simp [ExtendedMantissa.ofMantissaAndAccuracy, hgt.le],
        by simp [ExtendedMantissa.ofMantissaAndAccuracy, hzero, hgt.ne']⟩

namespace Represents

variable {em : ExtendedMantissa} {n d : Nat}

/-- One **shift** halves the ratio. -/
theorem shiftRightOne (hd : 0 < d) (h : Represents em n d) : Represents em.shiftRightOne n (d * 2) := by
  have hmod : n % (d * 2) = n % d + d * (n / d % 2) := Nat.mod_mul
  have hrest : n % d < d := Nat.mod_lt n hd
  refine ⟨?_, ?_, ?_⟩
  · show em.mantissa / 2 = n / (d * 2)
    rw [h.mantissa_eq, Nat.div_div_eq_div_mul]
  · show (em.mantissa % 2 != 0) = true ↔ d * 2 ≤ 2 * (n % (d * 2))
    rw [h.mantissa_eq, hmod, bne_iff_ne]
    rcases Nat.mod_two_eq_zero_or_one (n / d) with hbit | hbit <;> rw [hbit] <;> omega
  · show (em.roundBit || em.stickyBit) = true ↔ 2 * (n % (d * 2)) ≠ 0 ∧ 2 * (n % (d * 2)) ≠ d * 2
    rw [Bool.or_eq_true, h.roundBit_iff, h.stickyBit_iff, hmod]
    rcases Nat.mod_two_eq_zero_or_one (n / d) with hbit | hbit <;> rw [hbit] <;> omega

/-- **Shifts** divide the ratio by a power of two. -/
theorem shiftRight (hd : 0 < d) (h : Represents em n d) (k : Nat) :
    Represents (em >>> k) n (d * twoTo k) := by
  show Represents (k.repeat ExtendedMantissa.shiftRightOne em) n (d * twoTo k)
  induction k with
  | zero => rwa [twoTo_zero, Nat.mul_one]
  | succ k ih =>
    rw [twoTo_succ, ← Nat.mul_assoc]
    exact ih.shiftRightOne (Nat.mul_pos hd (twoTo_pos k))

/-- The mantissa is **rounded as the ratio** is. -/
theorem roundedMantissa_eq (h : Represents em n d) : em.roundedMantissa = roundDiv n d := by
  obtain ⟨m, half, sticky⟩ := em
  obtain ⟨rfl, hhalf, hsticky⟩ := h
  dsimp only at hhalf hsticky
  simp only [roundDiv]
  rcases lt_trichotomy (2 * (n % d)) d with hlt | heq | hgt
  · obtain rfl : half = false := Bool.eq_false_iff.2 (mt hhalf.1 (Nat.not_le.2 hlt))
    rw [if_pos hlt]
    cases sticky <;> rfl
  · obtain rfl : half = true := hhalf.2 heq.ge
    obtain rfl : sticky = false := Bool.eq_false_iff.2 fun hbit => (hsticky.1 hbit).2 heq
    rw [if_neg heq.not_lt, if_neg heq.not_gt]
    rfl
  · obtain rfl : half = true := hhalf.2 hgt.le
    obtain rfl : sticky = true := hsticky.2 ⟨by omega, hgt.ne'⟩
    rw [if_neg (Nat.not_lt.2 hgt.le), if_pos hgt]
    rfl

end Represents

/-! ## Rounding to a double -/

/-- The exponent that a mantissa is **shifted to**. -/
theorem targetExponent_eq (m : Nat) (e : Int) :
    Format.binary64.targetExponent (totalExponent m e) = max ((m.log2 : Int) + e - 52) (-1074) := by
  show max ((m.log2 : Int) + 1 + e - 53) (-1074) = max ((m.log2 : Int) + e - 52) (-1074)
  congr 1
  omega

/-- A mantissa is shifted to an exponent that is **no less** than its own. -/
theorem exists_shiftToTargetExponent {m n d : Nat} {e t : Int} {accuracy : Accuracy} (hd : 0 < d)
    (h : Represents (.ofMantissaAndAccuracy m accuracy) n d)
    (htarget : max ((m.log2 : Int) + e - 52) (-1074) = t) (hle : e ≤ t) :
    ∃ em, shiftToTargetExponent .binary64 m e accuracy = (em, t) ∧
      Represents em n (d * twoTo (t - e).toNat) := by
  have hexponent : e + ((t - e).toNat : Int) = t := by omega
  refine ⟨ExtendedMantissa.ofMantissaAndAccuracy m accuracy >>> (t - e).toNat, ?_, h.shiftRight hd _⟩
  simp only [shiftToTargetExponent, shiftToExponent, targetExponent_eq, htarget, hexponent]

/-- A rounded mantissa is **shifted once more** if rounding gave it one digit too many; that does not
change its magnitude. -/
theorem exists_shift_rounded {r : Nat} {u : Int} (hr : r ≤ twoTo 53) (hu : -1074 ≤ u)
    (hleads : twoTo 52 ≤ r ∨ u = -1074) :
    ∃ em e, shiftToTargetExponent .binary64 r u .exact = (em, e) ∧ em.mantissa < twoTo 53 ∧
      -1074 ≤ e ∧ (twoTo 52 ≤ em.mantissa ∨ e = -1074) ∧
      (em.mantissa : ℚ) * 2 ^ e = r * 2 ^ u := by
  rcases hr.lt_or_eq with hlt | rfl
  · have htarget : max ((r.log2 : Int) + u - 52) (-1074) ≤ u := by
      have hlog : r.log2 ≤ 52 := by
        by_cases hzero : r = 0
        · rw [hzero]
          decide
        · exact Nat.le_of_lt_succ ((Nat.log2_lt hzero).2 hlt)
      omega
    refine ⟨.ofMantissaAndAccuracy r .exact, u, ?_, hlt, hu, hleads, rfl⟩
    have hnone : (max ((r.log2 : Int) + u - 52) (-1074) - u).toNat = 0 := by omega
    simp only [shiftToTargetExponent, shiftToExponent, targetExponent_eq, hnone]
    rw [Nat.cast_zero, add_zero]
    rfl
  · -- rounding up has filled all digits, and one shift more leaves the leading one in its place
    have htarget : max (((twoTo 53).log2 : Int) + u - 52) (-1074) = u + 1 := by
      have hlog : (twoTo 53).log2 = 53 := Nat.log2_two_pow
      rw [hlog]
      omega
    obtain ⟨em, hshift, hrep⟩ :=
      exists_shiftToTargetExponent Nat.one_pos (represents_exact (twoTo 53)) htarget (by omega)
    have hmantissa : em.mantissa = twoTo 52 := by
      have hone : (u + 1 - u).toNat = 1 := by omega
      rw [hrep.mantissa_eq, hone]
      decide
    refine ⟨em, u + 1, hshift, ?_, by omega, .inl hmantissa.ge, ?_⟩
    · rw [hmantissa]
      decide
    · rw [hmantissa, cast_twoTo, cast_twoTo, zpow_add_one₀ (by norm_num)]
      ring

/-- The logarithm of a number that is **rounded down** to a mantissa. -/
theorem log_mul_zpow {m : Nat} {x : ℚ} {e : Int} (hm : m ≠ 0) (hlower : (m : ℚ) ≤ x) (hupper : x < m + 1) :
    Int.log 2 (x * 2 ^ e) = m.log2 + e := by
  have hnext : (m : ℚ) + 1 ≤ 2 ^ (m.log2 + 1 : Int) := by
    exact_mod_cast @Nat.lt_log2_self m
  refine log_eq ?_ ?_
  · rw [zpow_add₀ (by norm_num)]
    exact mul_le_mul_of_nonneg_right ((zpow_log2_le hm).trans hlower) (zpow_two_pos e).le
  · rw [add_right_comm, zpow_add₀ (by norm_num)]
    exact mul_lt_mul_of_pos_right (hupper.trans_le hnext) (zpow_two_pos e)

/-- The exponent that a represented number is shifted to is that of **its unit**. -/
theorem max_log2_eq_unitExponent {n d : Nat} {e : Int} (hn : 0 < n) (hd : 0 < d)
    (hunit : e ≤ unitExponent (n / d * 2 ^ e)) :
    max (((n / d).log2 : Int) + e - 52) (-1074) = unitExponent (n / d * 2 ^ e) := by
  have hupper : (n : ℚ) / d < (n / d : Nat) + 1 := by
    rw [div_lt_iff₀ (Nat.cast_pos.2 hd)]
    exact_mod_cast (Nat.div_lt_iff_lt_mul hd).1 (Nat.lt_succ_self (n / d))
  by_cases hzero : n / d = 0
  · -- a number below one unit of the exponent has the least unit
    have hlog : Int.log 2 ((n : ℚ) / d * 2 ^ e) < e := by
      have hpos : (0 : ℚ) < n / d * 2 ^ e :=
        mul_pos (div_pos (Nat.cast_pos.2 hn) (Nat.cast_pos.2 hd)) (zpow_two_pos e)
      refine (Int.lt_zpow_iff_log_lt (b := 2) (by decide) hpos).1 ?_
      rw [hzero, Nat.cast_zero, zero_add] at hupper
      exact mul_lt_of_lt_one_left (zpow_two_pos e) hupper
    rw [hzero, Nat.log2_zero]
    simp only [unitExponent] at hunit ⊢
    omega
  · rw [unitExponent, log_mul_zpow hzero Nat.cast_div_le hupper]

/-- The result of an operation is the double **nearest** to a number, with a sign. -/
def IsRounded (x : Float) (negative : Bool) (q : ℚ) : Prop :=
  ∃ b, finite? x = some b ∧ b.negative = negative ∧ b.magnitude = nearest q

/-- The magnitude of the nearest double is **packed to it**, if it is not beyond the range. -/
theorem isRounded_pack {s : Sign} {m : Nat} {e : Int} {q : ℚ} (hshort : m < twoTo 53) (hleast : -1074 ≤ e)
    (hleads : twoTo 52 ≤ m ∨ e = -1074) (hsame : (m : ℚ) * 2 ^ e = nearest q)
    (hlimit : nearest q < 2 ^ 1024) :
    IsRounded (.ofModel (.pack
      (if hzero : m = 0 then .zero s else .finite s m e (Nat.pos_of_ne_zero hzero)))) (isNegative s) q := by
  rw [IsRounded, ← hsame]
  by_cases hzero : m = 0
  · rw [dif_pos hzero]
    refine ⟨_, finite?_pack_zero s, rfl, ?_⟩
    rw [hzero, Nat.cast_zero, zero_mul]
    exact Binary.magnitude_eq_zero_iff.2 rfl
  · rw [dif_neg hzero]
    have hrange : e ≤ 971 := by
      rcases hleads with hlead | rfl
      · have hlt : (2 : ℚ) ^ (52 + e) < 2 ^ (1024 : Int) := by
          have hcast : (2 : ℚ) ^ (52 : Int) = twoTo 52 := (cast_twoTo 52).symm
          calc (2 : ℚ) ^ (52 + e) = twoTo 52 * 2 ^ e := by rw [zpow_add₀ (by norm_num), hcast]
            _ ≤ m * 2 ^ e := mul_le_mul_of_nonneg_right (by exact_mod_cast hlead) (zpow_two_pos e).le
            _ < 2 ^ (1024 : Int) := by rwa [hsame]
        have hexponents := (zpow_lt_zpow_iff_right₀ (by norm_num : (1 : ℚ) < 2)).1 hlt
        omega
      · decide
    exact ⟨_, finite?_pack (Nat.pos_of_ne_zero hzero) ⟨hshort, hleast, hrange, hleads⟩, rfl, rfl⟩

/-- What is represented is rounded to **the nearest double**, if that is not beyond the range. -/
theorem isRounded_roundWithAccuracy {s : Sign} {m n d : Nat} {e : Int} {accuracy : Accuracy} {q : ℚ}
    (hd : 0 < d) (h : Represents (.ofMantissaAndAccuracy m accuracy) n d) (hq : 0 < q)
    (heq : (n : ℚ) / d * 2 ^ e = q) (hunit : e ≤ unitExponent q) (hlimit : nearest q < 2 ^ 1024) :
    IsRounded (.ofModel (.pack (roundWithAccuracy .binary64 s m e accuracy))) (isNegative s) q := by
  have hn : 0 < n := by
    rw [Nat.pos_iff_ne_zero]
    rintro rfl
    rw [Nat.cast_zero, zero_div, zero_mul] at heq
    exact hq.ne heq
  obtain ⟨u, hu⟩ : ∃ u, unitExponent q = u := ⟨_, rfl⟩
  have htarget : max ((m.log2 : Int) + e - 52) (-1074) = u := by
    have hm : m = n / d := by
      have hm := h.mantissa_eq
      cases accuracy with
      | exact => exact hm
      | inexact order => cases order <;> exact hm
    rw [hm, ← hu, ← heq]
    exact max_log2_eq_unitExponent hn hd (by rwa [heq])
  obtain ⟨em, hfirst, hrep⟩ := exists_shiftToTargetExponent hd h htarget (hu ▸ hunit)
  -- the mantissa after the first shift is rounded to the number of units of the nearest double
  have hdpos : 0 < d * twoTo (u - e).toNat := Nat.mul_pos hd (twoTo_pos _)
  have hratio : (n : ℚ) / (d * twoTo (u - e).toNat : Nat) = q / 2 ^ unitExponent q := by
    have hsplit : (2 : ℚ) ^ u = twoTo (u - e).toNat * 2 ^ e := by
      rw [cast_twoTo, ← zpow_natCast, ← zpow_add₀ (by norm_num)]
      congr 1
      omega
    rw [hu, hsplit, ← heq, mul_div_mul_right _ _ (zpow_two_pos e).ne', Nat.cast_mul, div_div]
  have hnearest : nearest q = em.roundedMantissa * 2 ^ u := by
    rw [hrep.roundedMantissa_eq, nearest_eq hq hdpos hratio, hu]
  have hu1074 : -1074 ≤ u := hu ▸ le_max_right _ _
  have hmost : em.roundedMantissa ≤ twoTo 53 := by
    rw [hrep.roundedMantissa_eq]
    exact roundDiv_unit_le hq hdpos hratio
  have hleads : twoTo 52 ≤ em.roundedMantissa ∨ u = -1074 := by
    rcases hu1074.lt_or_eq with hlt | heq
    · left
      rw [hrep.roundedMantissa_eq]
      exact le_roundDiv_unit hq hdpos hratio (hu ▸ hlt)
    · exact .inr heq.symm
  obtain ⟨last, e', hlast, hshort, hleast, hleads', hsame⟩ := exists_shift_rounded hmost hu1074 hleads
  have hresult : roundWithAccuracy .binary64 s m e accuracy
      = if hzero : last.mantissa = 0 then .zero s
        else .finite s last.mantissa e' (Nat.pos_of_ne_zero hzero) := by
    simp only [roundWithAccuracy, hfirst, hlast]
  rw [hresult]
  exact isRounded_pack hshort hleast hleads' (hsame.trans hnearest.symm) hlimit

/-- A number of **53 binary digits** in front of an exponent has a unit of no less. -/
theorem le_unitExponent {q : ℚ} {e : Int} (h : 2 ^ 52 * 2 ^ e ≤ q) : e ≤ unitExponent q := by
  have hpos : 0 < q := (mul_pos (by norm_num) (zpow_two_pos e)).trans_le h
  have hlog : 52 + e ≤ Int.log 2 q := by
    refine (Int.zpow_le_iff_le_log (b := 2) (by decide) hpos).1 ?_
    rw [zpow_add₀ (by norm_num)]
    exact h
  rw [unitExponent]
  omega

end ClusterMetrics.Decimal
