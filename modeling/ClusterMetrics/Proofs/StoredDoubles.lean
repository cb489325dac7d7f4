import ClusterMetrics.Proofs.NearestMagnitudes
import Mathlib

/-! # Doubles as they are stored

A double is stored in a sign bit, eleven bits of an exponent and 52 of a fraction. Reading the three
fields apart gives the class of the double; a finite value that fits the fields is read back as it was
stored, and doubles compare as the values they are read to.

* **`FloatClass.ofFields`**: what three fields stand for. **`classify_eq_ofFields`**: a double is
  classified by its fields.
* **`Binary.IsStored`**: the form that a finite double has. **`isStored_of_finite?`**: every finite
  double has it. **`finite?_pack`**: a value in this form is read back.
* **`Binary.compare_magnitude`**: stored magnitudes compare by exponent, then by mantissa.
  **`lt_iff`**, **`le_iff`**, **`beq_iff`**: doubles compare as their values. -/

namespace ClusterMetrics.Decimal

open Float.Model (UnpackedFloat Format)
open Float.Model.UnpackedFloat (Sign unpackSign unpackExponent unpackMantissa packComponents)

/-- What a **sign bit, an exponent and a fraction** stand for. -/
def FloatClass.ofFields (negative : Bool) (exponent fraction : Nat) : FloatClass :=
  if exponent = 2047 then if fraction = 0 then .infinite negative else .nan
  else if exponent = 0 then .finite ⟨negative, fraction, -1074⟩
  else .finite ⟨negative, fraction + twoTo 52, (exponent : Int) - 1075⟩

/-- Whether a sign is **negative**. -/
def isNegative : Sign → Bool
  | .negative => true
  | .positive => false

/-! ## Fields -/

section Fields

variable (v : BitVec 64)

theorem toNat_unpackExponent :
    (@unpackExponent .binary64 v).toNat = v.toNat / twoTo 52 % twoTo 11 := by
  show v.toNat >>> 52 % 2 ^ 11 = v.toNat / 2 ^ 52 % 2 ^ 11
  rw [Nat.shiftRight_eq_div_pow]

theorem toNat_unpackMantissa :
    (@unpackMantissa .binary64 v).toNat = v.toNat % twoTo 52 := by
  show v.toNat >>> 0 % 2 ^ 52 = v.toNat % 2 ^ 52
  rw [Nat.shiftRight_zero]

theorem toNat_unpackSign : (@unpackSign .binary64 v).toNat = v.toNat / twoTo 63 := by
  show v.toNat >>> 63 % 2 ^ 1 = v.toNat / 2 ^ 63
  have hlt := v.isLt
  rw [Nat.shiftRight_eq_div_pow]
  omega

end Fields

/-- A double is classified **by its fields**. -/
theorem classify_eq_ofFields (x : Float) :
    classify x = FloatClass.ofFields
      ((@unpackSign .binary64 x.toModel.toBits.toBitVec).toNat == 1)
      (@unpackExponent .binary64 x.toModel.toBits.toBitVec).toNat
      (@unpackMantissa .binary64 x.toModel.toBits.toBitVec).toNat := by
  rw [toNat_unpackSign, toNat_unpackExponent, toNat_unpackMantissa]
  rfl

/-- The class of an **unpacked** value. -/
def FloatClass.ofUnpacked : UnpackedFloat → FloatClass
  | .notANumber => .nan
  | .infinity s => .infinite (isNegative s)
  | .zero s => .finite ⟨isNegative s, 0, -1074⟩
  | .finite s m e _ => .finite ⟨isNegative s, m, e⟩

theorem isNegative_ofBitVec (b : BitVec 1) : isNegative (.ofBitVec b) = (b.toNat == 1) := by
  revert b
  decide

/-- Bits in front of others count **with their weight**. -/
theorem toNat_append_eq {k n : Nat} (front : BitVec k) (back : BitVec n) :
    (front ++ back).toNat = front.toNat * twoTo n + back.toNat := by
  rw [BitVec.toNat_append, ← Nat.shiftLeft_add_eq_or_of_lt back.isLt, Nat.shiftLeft_eq]
  rfl

theorem toNat_one_append (m : BitVec 52) : (1#1 ++ m).toNat = m.toNat + twoTo 52 := by
  rw [toNat_append_eq, Nat.add_comm]
  rfl

/-- A double is classified as **its unpacked value**. -/
theorem classify_eq_ofUnpacked (x : Float) : classify x = .ofUnpacked x.toModel.unpack := by
  have hall : ∀ e : BitVec 11, e.toNat = 2047 ↔ e = -1#11 := fun e =>
    BitVec.toNat_inj (x := e) (y := -1#11)
  have hnone : ∀ e : BitVec 11, e.toNat = 0 ↔ e = 0#11 := fun e =>
    BitVec.toNat_inj (x := e) (y := 0#11)
  have hzero : ∀ m : BitVec 52, m.toNat = 0 ↔ m = 0#52 := fun m =>
    BitVec.toNat_inj (x := m) (y := 0#52)
  rw [classify_eq_ofFields, ← isNegative_ofBitVec]
  simp only [Float.Model.unpack, UnpackedFloat.unpack, FloatClass.ofFields, hall, hnone, hzero]
  split
  · split <;> rfl
  · split
    · rename_i hleast
      split
      · rename_i hfraction
        rw [hfraction]
        rfl
      · rw [hleast]
        rfl
    · simp only [FloatClass.ofUnpacked, toNat_one_append]
      rfl

/-! ## The stored form -/

/-- The **form of a finite double**: a mantissa of 53 binary digits, or of fewer at the least
exponent, and an exponent within its eleven bits. -/
structure Binary.IsStored (b : Binary) : Prop where
  /-- The mantissa has at most 53 binary digits. -/
  mantissa_lt : b.mantissa < twoTo 53
  /-- The exponent is no less than the least. -/
  le_exponent : -1074 ≤ b.exponent
  /-- The exponent is no more than the greatest. -/
  exponent_le : b.exponent ≤ 971
  /-- The mantissa has 53 binary digits, or the exponent is least. -/
  leads : twoTo 52 ≤ b.mantissa ∨ b.exponent = -1074

theorem finite?_eq_some_iff {x : Float} {b : Binary} : finite? x = some b ↔ classify x = .finite b := by
  simp only [finite?]
  split <;> simp_all

/-- **Every finite double** is in the stored form. -/
theorem isStored_of_finite? {x : Float} {b : Binary} (h : finite? x = some b) : b.IsStored := by
  have hfields := finite?_eq_some_iff.1 h
  rw [classify_eq_ofFields] at hfields
  obtain ⟨e, he⟩ : ∃ e, @unpackExponent .binary64 x.toModel.toBits.toBitVec = e := ⟨_, rfl⟩
  obtain ⟨m, hm⟩ : ∃ m, @unpackMantissa .binary64 x.toModel.toBits.toBitVec = m := ⟨_, rfl⟩
  have hexponent : e.toNat < 2048 := e.isLt
  have hfraction : m.toNat < twoTo 52 := m.isLt
  have hdouble : twoTo 53 = twoTo 52 * 2 := rfl
  rw [he, hm, FloatClass.ofFields] at hfields
  split at hfields
  · split at hfields <;> cases hfields
  · rename_i hnot
    split at hfields
    · cases hfields
      exact ⟨show m.toNat < twoTo 53 by omega, le_refl _, show (-1074 : Int) ≤ 971 by decide, .inr rfl⟩
    · cases hfields
      exact ⟨show m.toNat + twoTo 52 < twoTo 53 by omega, show (-1074 : Int) ≤ e.toNat - 1075 by omega,
        show (e.toNat : Int) - 1075 ≤ 971 by omega, .inl (Nat.le_add_left _ _)⟩

/-- Fields are classified **as they were packed**. -/
theorem classify_pack {u : UnpackedFloat} {s : Sign} {e : BitVec 11} {m : BitVec 52}
    (h : u.pack .binary64 = packComponents .binary64 s e m) :
    classify (.ofModel (.pack u)) = .ofFields (isNegative s) e.toNat m.toNat := by
  have hbits : (Float.Model.pack u).toBits.toBitVec = packComponents .binary64 s e m := h
  rw [classify_eq_ofFields, hbits, ← isNegative_ofBitVec, UnpackedFloat.unpackSign_packComponents,
    Sign.ofBitVec_toBitVec, UnpackedFloat.unpackExponent_packComponents,
    UnpackedFloat.unpackMantissa_packComponents]

/-- A finite value in the stored form is **read back**. -/
theorem finite?_pack {s : Sign} {m : Nat} {e : Int} (hm : 0 < m)
    (h : Binary.IsStored ⟨isNegative s, m, e⟩) :
    finite? (.ofModel (.pack (.finite s m e hm))) = some ⟨isNegative s, m, e⟩ := by
  obtain ⟨hmost, hleast, hlimit, hleads⟩ := h
  dsimp only at hmost hleast hlimit hleads
  rw [finite?_eq_some_iff]
  -- the exponent is stored with 1075 added, and that fits eleven bits
  obtain ⟨k, hk⟩ : ∃ k : Nat, (k : Int) = e + 1075 := ⟨(e + 1075).toNat, by omega⟩
  have hbiased : (e + (Format.binary64.exponentBias : Int) + (52 : Nat)).toNat = k := by
    show (e + 1023 + 52).toNat = k
    omega
  by_cases hnormal : twoTo 52 ≤ m
  · have hlog : m.log2 + 1 = Format.binary64.mantissaBits := by
      rw [(Nat.log2_eq_iff hm.ne').2 ⟨hnormal, hmost⟩]
      rfl
    have hpack : UnpackedFloat.pack .binary64 (.finite s m e hm)
        = packComponents .binary64 s (BitVec.ofNat 11 k) (BitVec.ofNat 52 m) := by
      simp only [UnpackedFloat.pack]
      rw [hbiased, if_neg (by omega), if_pos hlog]
    have hexponent : (BitVec.ofNat 11 k).toNat = k := by
      rw [BitVec.toNat_ofNat, Nat.mod_eq_of_lt (by omega)]
    have hfraction : (BitVec.ofNat 52 m).toNat + twoTo 52 = m := by
      have h52 : twoTo 52 = 4503599627370496 := rfl
      have h53 : twoTo 53 = 9007199254740992 := rfl
      rw [BitVec.toNat_ofNat]
      omega
    rw [classify_pack hpack, hexponent, FloatClass.ofFields,
      if_neg (by omega), if_neg (by omega), hfraction, hk, add_sub_cancel_right]
  · -- a shorter mantissa has the least exponent, which is stored as zero
    have hless : m < twoTo 52 := Nat.lt_of_not_le hnormal
    obtain rfl : e = -1074 := hleads.resolve_left hnormal
    have hlog : ¬m.log2 + 1 = Format.binary64.mantissaBits := by
      have hlt : m.log2 < 52 := (Nat.log2_lt hm.ne').2 hless
      show ¬m.log2 + 1 = 53
      omega
    have hpack : UnpackedFloat.pack .binary64 (.finite s m (-1074) hm)
        = packComponents .binary64 s 0#11 (BitVec.ofNat 52 m) := by
      simp only [UnpackedFloat.pack]
      rw [hbiased, if_neg (by omega), if_neg hlog]
    have hfraction : (BitVec.ofNat 52 m).toNat = m := by
      rw [BitVec.toNat_ofNat]
      exact Nat.mod_eq_of_lt hless
    rw [classify_pack hpack, hfraction]
    rfl

/-- Zero is **read back** with its sign. -/
theorem finite?_pack_zero (s : Sign) :
    finite? (.ofModel (.pack (.zero s))) = some ⟨isNegative s, 0, -1074⟩ := by
  cases s <;> decide +kernel

/-! ## Order -/

namespace Binary

variable {a b : Binary}

/-- The **larger exponent** belongs to the larger magnitude. -/
theorem magnitude_lt_of_exponent_lt (ha : a.IsStored) (hb : b.IsStored)
    (h : a.exponent < b.exponent) : a.magnitude < b.magnitude := by
  have hleast : twoTo 52 ≤ b.mantissa := hb.leads.resolve_right fun heq => by
    have hle := ha.le_exponent
    omega
  have hmost : (a.mantissa : ℚ) < 2 ^ 53 := by
    rw [← cast_twoTo]
    exact_mod_cast ha.mantissa_lt
  calc a.magnitude < 2 ^ 53 * 2 ^ a.exponent := mul_lt_mul_of_pos_right hmost (zpow_two_pos _)
    _ = 2 ^ 52 * 2 ^ (a.exponent + 1) := by rw [zpow_add_one₀ (by norm_num)]; ring
    _ ≤ 2 ^ 52 * 2 ^ b.exponent :=
      mul_le_mul_of_nonneg_left (zpow_le_zpow_right₀ (by norm_num) h) (by positivity)
    _ ≤ b.magnitude := by
      refine mul_le_mul_of_nonneg_right ?_ (zpow_two_pos _).le
      rw [← cast_twoTo]
      exact_mod_cast hleast

/-- A **stored magnitude** is below the range of doubles. -/
theorem IsStored.magnitude_lt (h : b.IsStored) : b.magnitude < 2 ^ 1024 := by
  have hmantissa : (b.mantissa : ℚ) < 2 ^ (53 : Int) := by
    have hcast : (2 : ℚ) ^ (53 : Int) = twoTo 53 := (cast_twoTo 53).symm
    rw [hcast]
    exact_mod_cast h.mantissa_lt
  calc b.magnitude < 2 ^ (53 : Int) * 2 ^ b.exponent :=
        mul_lt_mul_of_pos_right hmantissa (zpow_two_pos _)
    _ ≤ 2 ^ (53 : Int) * 2 ^ (971 : Int) :=
      mul_le_mul_of_nonneg_left (zpow_le_zpow_right₀ (by norm_num) h.exponent_le) (zpow_two_pos _).le
    _ = 2 ^ 1024 := by rw [← zpow_add₀ (by norm_num)]; rfl

/-- A stored magnitude below one with the next mantissa is **no more than that of the mantissa**. -/
theorem magnitude_le_of_lt_succ {m : Nat} {e : Int} (hb : b.IsStored)
    (hnext : IsStored ⟨false, m + 1, e⟩) (hself : IsStored ⟨false, m, e⟩)
    (h : b.magnitude < magnitude ⟨false, m + 1, e⟩) : b.magnitude ≤ magnitude ⟨false, m, e⟩ := by
  rcases lt_trichotomy b.exponent e with hlt | heq | hgt
  · exact (magnitude_lt_of_exponent_lt hb hself hlt).le
  · rw [magnitude, heq] at h ⊢
    have hmantissa := lt_of_mul_lt_mul_right h (zpow_two_pos e).le
    refine mul_le_mul_of_nonneg_right ?_ (zpow_two_pos e).le
    exact_mod_cast Nat.le_of_lt_succ (by exact_mod_cast hmantissa)
  · exact absurd h (magnitude_lt_of_exponent_lt hnext hb hgt).not_gt

/-- Stored magnitudes compare **by exponent, then by mantissa**. -/
theorem compare_magnitude (ha : a.IsStored) (hb : b.IsStored) :
    (compare a.exponent b.exponent).then (compare a.mantissa b.mantissa)
      = compare a.magnitude b.magnitude := by
  rcases lt_trichotomy a.exponent b.exponent with hlt | heq | hgt
  · rw [compare_lt_iff_lt.2 hlt, compare_lt_iff_lt.2 (magnitude_lt_of_exponent_lt ha hb hlt)]
    rfl
  · have hmono : StrictMono fun m : Nat => (m : ℚ) * 2 ^ b.exponent := fun _ _ h =>
      mul_lt_mul_of_pos_right (Nat.cast_lt.2 h) (zpow_two_pos _)
    rw [compare_eq_iff_eq.2 heq, magnitude, magnitude, heq]
    rcases lt_trichotomy a.mantissa b.mantissa with hlt | heq | hgt
    · rw [compare_lt_iff_lt.2 hlt, compare_lt_iff_lt.2 (hmono hlt)]
      rfl
    · rw [heq, compare_eq_iff_eq.2 rfl, compare_eq_iff_eq.2 rfl]
      rfl
    · rw [compare_gt_iff_gt.2 hgt, compare_gt_iff_gt.2 (hmono hgt)]
      rfl
  · rw [compare_gt_iff_gt.2 hgt, compare_gt_iff_gt.2 (magnitude_lt_of_exponent_lt hb ha hgt)]
    rfl

/-- The **value** of a binary value, as a rational number. -/
def value (b : Binary) : ℚ := if b.negative then -b.magnitude else b.magnitude

theorem value_eq_magnitude (h : a.negative = false) : a.value = a.magnitude :=
  if_neg (by rw [h]; decide)

theorem value_nonneg (h : a.negative = false) : 0 ≤ a.value := by
  rw [value_eq_magnitude h]
  exact a.magnitude_nonneg

/-- A value that is **not negative** is its magnitude, also that of the negative zero. -/
theorem value_of_nonneg (h : 0 ≤ a.value) : a.value = a.magnitude := by
  cases hsign : a.negative with
  | false => exact value_eq_magnitude hsign
  | true =>
    rw [value, if_pos hsign] at h ⊢
    have hzero := le_antisymm (neg_nonneg.1 h) a.magnitude_nonneg
    rw [hzero, neg_zero]

/-- A value that is **not negative** has a positive sign, but for the negative zero. -/
theorem negative_eq_false (h : 0 ≤ a.value) (hpos : 0 < a.magnitude) : a.negative = false := by
  cases hsign : a.negative with
  | false => rfl
  | true =>
    rw [value, if_pos hsign] at h
    exact absurd (neg_nonneg.1 h) (not_le.2 hpos)

end Binary

variable {x y : Float} {a b : Binary}

/-- A finite double is **unpacked** to a zero or to a value that is not. -/
theorem unpack_of_finite? (h : finite? x = some a) :
    (∃ s, x.toModel.unpack = .zero s ∧ a = ⟨isNegative s, 0, -1074⟩) ∨
      ∃ s m e hm, x.toModel.unpack = .finite s m e hm ∧ a = ⟨isNegative s, m, e⟩ := by
  have hclass := finite?_eq_some_iff.1 h
  rw [classify_eq_ofUnpacked] at hclass
  cases hunpack : x.toModel.unpack with
  | notANumber => rw [hunpack] at hclass; cases hclass
  | infinity s => rw [hunpack] at hclass; cases hclass
  | zero s =>
    rw [hunpack] at hclass
    exact .inl ⟨s, rfl, (FloatClass.finite.inj hclass).symm⟩
  | finite s m e hm =>
    rw [hunpack] at hclass
    exact .inr ⟨s, m, e, hm, rfl, (FloatClass.finite.inj hclass).symm⟩

theorem compare_neg_neg (p q : ℚ) : compare (-p) (-q) = (compare p q).swap := by
  rcases lt_trichotomy p q with hlt | rfl | hgt
  · rw [compare_lt_iff_lt.2 hlt, compare_gt_iff_gt.2 (neg_lt_neg hlt)]
    rfl
  · rw [compare_eq_iff_eq.2 rfl, compare_eq_iff_eq.2 rfl]
    rfl
  · rw [compare_gt_iff_gt.2 hgt, compare_lt_iff_lt.2 (neg_lt_neg hgt)]
    rfl

/-- Doubles are compared **as their values**. -/
theorem compare_unpack (hx : finite? x = some a) (hy : finite? y = some b) :
    x.toModel.unpack.compare y.toModel.unpack = some (compare a.value b.value) := by
  have ha := isStored_of_finite? hx
  have hb := isStored_of_finite? hy
  have hpos : ∀ {c : Binary}, 0 < c.mantissa → 0 < c.magnitude := fun h =>
    mul_pos (Nat.cast_pos.2 h) (zpow_two_pos _)
  have hzero : ∀ s, Binary.value ⟨isNegative s, 0, -1074⟩ = 0 := fun s => by
    cases s <;> simp [Binary.value, Binary.magnitude]
  rcases unpack_of_finite? hx with ⟨s, hs, rfl⟩ | ⟨s, m, e, hm, hs, rfl⟩ <;>
    rcases unpack_of_finite? hy with ⟨s', hs', rfl⟩ | ⟨s', m', e', hm', hs', rfl⟩ <;>
    rw [hs, hs']
  · rw [hzero, hzero, compare_eq_iff_eq.2 rfl]
    rfl
  · rw [hzero]
    cases s' with
    | positive => exact congrArg some (compare_lt_iff_lt.2 (hpos hm')).symm
    | negative => exact congrArg some (compare_gt_iff_gt.2 (neg_neg_iff_pos.2 (hpos hm'))).symm
  · rw [hzero]
    cases s with
    | positive => exact congrArg some (compare_gt_iff_gt.2 (hpos hm)).symm
    | negative => exact congrArg some (compare_lt_iff_lt.2 (neg_neg_iff_pos.2 (hpos hm))).symm
  · have hcompare := Binary.compare_magnitude ha hb
    cases s with
    | positive =>
      cases s' with
      | positive => exact congrArg some hcompare
      | negative =>
        exact congrArg some (compare_gt_iff_gt.2 ((neg_neg_iff_pos.2 (hpos hm')).trans (hpos hm))).symm
    | negative =>
      cases s' with
      | positive =>
        exact congrArg some (compare_lt_iff_lt.2 ((neg_neg_iff_pos.2 (hpos hm)).trans (hpos hm'))).symm
      | negative =>
        exact congrArg some ((congrArg Ordering.swap hcompare).trans (compare_neg_neg _ _).symm)

/-- One double is **less** than another if its value is. -/
theorem lt_iff (hx : finite? x = some a) (hy : finite? y = some b) : x < y ↔ a.value < b.value := by
  show decide (x.toModel < y.toModel) = true ↔ a.value < b.value
  rw [decide_eq_true_iff]
  show (x.toModel.unpack.compare y.toModel.unpack == some .lt) = true ↔ a.value < b.value
  rw [compare_unpack hx hy, beq_iff_eq, Option.some_inj, compare_lt_iff_lt]

/-- One double is **no more** than another if its value is. -/
theorem le_iff (hx : finite? x = some a) (hy : finite? y = some b) : x ≤ y ↔ a.value ≤ b.value := by
  show decide (x.toModel ≤ y.toModel) = true ↔ a.value ≤ b.value
  rw [decide_eq_true_iff]
  show (x.toModel.unpack.compare y.toModel.unpack).any Ordering.isLE = true ↔ a.value ≤ b.value
  rw [compare_unpack hx hy, Option.any_some, Ordering.isLE_iff_ne_gt]
  exact compare_le_iff_le

/-- Doubles are **equal** if their values are; the two zeros are. -/
theorem beq_iff (hx : finite? x = some a) (hy : finite? y = some b) :
    (x == y) = true ↔ a.value = b.value := by
  show (x.toModel.unpack.compare y.toModel.unpack == some .eq) = true ↔ a.value = b.value
  rw [compare_unpack hx hy, beq_iff_eq, Option.some_inj, compare_eq_iff_eq]

end ClusterMetrics.Decimal
