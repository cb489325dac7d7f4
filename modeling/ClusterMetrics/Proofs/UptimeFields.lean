import ClusterMetrics.Proofs.RoundedOperations
import ClusterMetrics.Status.Duration

/-! # The fields of an uptime

The remainders that an uptime is made of are exact, so its minutes and seconds are those of the number
of seconds itself: the minutes are below 60, and only rounding to tenths can bring the seconds to 60.

* **`restBy`**: what is left of a number by a divisor. **`exists_remainder`**: the remainder of a double
  is that.
* **`Divided`**: a quotient and a remainder. **`divided_floorDivMod`**: division with remainder of a
  double gives them.
* **`uptimeText?_eq`**: an uptime is laid out from its hours, minutes and tenths of seconds. -/

namespace ClusterMetrics.Status

open ClusterMetrics.Decimal

/-! ## What is left by a divisor -/

/-- What is **left of a number** when the whole multiples of a divisor are taken from it. -/
def restBy (q : ℚ) (d : Nat) : ℚ := q - (⌊q⌋₊ / d * d : Nat)

section Rest

variable {q : ℚ} {d : Nat}

theorem floor_restBy (hq : 0 ≤ q) (d : Nat) : ⌊restBy q d⌋₊ = ⌊q⌋₊ % d := by
  have hsplit : (⌊q⌋₊ : ℚ) = (⌊q⌋₊ / d * d : Nat) + (⌊q⌋₊ % d : Nat) := by
    exact_mod_cast (Nat.div_add_mod' ⌊q⌋₊ d).symm
  have hlower := Nat.floor_le hq
  have hupper := Nat.lt_floor_add_one q
  have hleast : ((⌊q⌋₊ % d : Nat) : ℚ) ≤ restBy q d := by
    rw [restBy]
    linarith
  refine (Nat.floor_eq_iff ((Nat.cast_nonneg _).trans hleast)).2 ⟨hleast, ?_⟩
  rw [restBy]
  linarith

theorem restBy_nonneg (hq : 0 ≤ q) (d : Nat) : 0 ≤ restBy q d := by
  refine sub_nonneg.2 (le_trans ?_ (Nat.floor_le hq))
  exact_mod_cast Nat.div_mul_le_self ⌊q⌋₊ d

theorem restBy_lt (hq : 0 ≤ q) (hd : 0 < d) : restBy q d < d := by
  refine (Nat.floor_lt (restBy_nonneg hq d)).1 ?_
  rw [floor_restBy hq]
  exact Nat.mod_lt _ hd

theorem restBy_le (q : ℚ) (d : Nat) : restBy q d ≤ q := sub_le_self q (Nat.cast_nonneg _)

/-- Nothing is taken from a number **below the divisor**. -/
theorem restBy_of_lt (hq : 0 ≤ q) (h : q < d) : restBy q d = q := by
  rw [restBy, Nat.div_eq_of_lt ((Nat.floor_lt hq).2 h), Nat.zero_mul, Nat.cast_zero, sub_zero]

/-- What a multiple of a divisor leaves, the divisor **leaves as from the number**. -/
theorem restBy_restBy (hq : 0 ≤ q) (d k : Nat) : restBy (restBy q (d * k)) d = restBy q d := by
  have hsum : ⌊q⌋₊ / (d * k) * (d * k) + ⌊q⌋₊ % (d * k) / d * d = ⌊q⌋₊ / d * d := by
    rw [Nat.mod_mul_right_div_self, ← Nat.div_div_eq_div_mul]
    calc ⌊q⌋₊ / d / k * (d * k) + ⌊q⌋₊ / d % k * d = (⌊q⌋₊ / d / k * k + ⌊q⌋₊ / d % k) * d := by ring
      _ = ⌊q⌋₊ / d * d := by rw [Nat.div_add_mod']
  rw [restBy, floor_restBy hq, restBy, restBy, sub_sub, ← hsum, Nat.cast_add]

end Rest

/-! ## Division with remainder -/

variable {x : Float} {b : Binary} {d : Nat}

/-- A magnitude is below a divisor if **its numerator** is below that many denominators. -/
theorem numerator_lt_iff : b.numerator < d * b.denominator ↔ b.magnitude < d := by
  rw [Binary.magnitude_eq_div, div_lt_iff₀ b.cast_denominator_pos]
  exact_mod_cast Iff.rfl

/-- The **remainder of a binary value**, with its sign. -/
def remainderBinary (b : Binary) (d : Nat) : Binary :=
  ⟨b.negative, b.numerator % (d * b.denominator), min b.exponent 0⟩

theorem numerator_remainderBinary :
    (remainderBinary b d).numerator = b.numerator % (d * b.denominator) := by
  have hnone : (min b.exponent 0).toNat = 0 := by omega
  rw [Binary.numerator, remainderBinary, hnone, twoTo_zero, Nat.mul_one]

theorem denominator_remainderBinary : (remainderBinary b d).denominator = b.denominator := by
  have hsame : (-min b.exponent 0).toNat = (-b.exponent).toNat := by omega
  rw [Binary.denominator, remainderBinary, hsame, Binary.denominator]

/-- The remainder is what the divisor **leaves of the magnitude**. -/
theorem magnitude_remainderBinary : (remainderBinary b d).magnitude = restBy b.magnitude d := by
  have hsplit : (b.numerator : ℚ)
      = (b.numerator / (d * b.denominator) * (d * b.denominator) : Nat)
        + (b.numerator % (d * b.denominator) : Nat) := by
    exact_mod_cast (Nat.div_add_mod' b.numerator _).symm
  have hwhole : ((⌊b.magnitude⌋₊ / d * d : Nat) : ℚ)
      = (b.numerator / (d * b.denominator) * (d * b.denominator) : Nat) / b.denominator := by
    rw [Binary.floor_magnitude, Binary.floorMagnitude, Nat.div_div_eq_div_mul,
      Nat.mul_comm b.denominator, ← Nat.mul_assoc, Nat.cast_mul _ b.denominator,
      mul_div_cancel_right₀ _ b.cast_denominator_pos.ne']
  rw [restBy, hwhole, Binary.magnitude_eq_div b, ← sub_div, sub_eq_of_eq_add' hsplit,
    Binary.magnitude_eq_div, numerator_remainderBinary, denominator_remainderBinary]

/-- The remainder of a stored value that is not below the divisor is a **short ratio**: a value with a
fraction has a short numerator, and one without leaves less than the divisor. -/
theorem numerator_mod_lt (hb : b.IsStored) (hd : 0 < d) (hshort : d < 2 ^ 53) (hle : d ≤ b.magnitude) :
    b.numerator % (d * b.denominator) < 2 ^ 53 ∧ b.denominator < 2 ^ 53 := by
  have hmod : b.numerator % (d * b.denominator) < d * b.denominator :=
    Nat.mod_lt _ (Nat.mul_pos hd b.denominator_pos)
  rcases Int.le_total 0 b.exponent with hwhole | hfraction
  · have hone : b.denominator = 1 := by
      have hnone : (-b.exponent).toNat = 0 := by omega
      rw [Binary.denominator, hnone, twoTo_zero]
    rw [hone, Nat.mul_one] at hmod ⊢
    exact ⟨hmod.trans hshort, by decide⟩
  · have hnumerator : b.numerator < 2 ^ 53 := by
      have hnone : b.exponent.toNat = 0 := by omega
      rw [Binary.numerator, hnone, twoTo_zero, Nat.mul_one]
      exact hb.mantissa_lt
    have hdenominator : b.denominator ≤ b.numerator :=
      (Nat.le_mul_of_pos_left _ hd).trans (Nat.not_lt.1 (mt numerator_lt_iff.1 (not_lt.2 hle)))
    exact ⟨(Nat.mod_le _ _).trans_lt hnumerator, hdenominator.trans_lt hnumerator⟩

/-- The **remainder of a double** below the divisor is the double. -/
theorem remainder_of_lt (h : b.magnitude < d) : remainder x b d = x :=
  if_pos (numerator_lt_iff.2 h)

/-- The remainder of a double that is not below the divisor is **held without rounding**. -/
theorem holds_remainder (hx : finite? x = some b) (h : 0 ≤ b.value) (hd : 0 < d) (hshort : d < 2 ^ 53)
    (hle : d ≤ b.magnitude) : Holds (remainder x b d) (restBy b.magnitude d) := by
  have hstored := isStored_of_finite? hx
  obtain ⟨hnumerator, hdenominator⟩ := numerator_mod_lt hstored hd hshort hle
  have hremainder : remainder x b d = (remainderBinary b d).toFloat :=
    if_neg (mt numerator_lt_iff.1 (not_lt.2 hle))
  rw [hremainder, ← magnitude_remainderBinary]
  have hsign : b.negative = false := Binary.negative_eq_false h ((Nat.cast_pos.2 hd).trans_le hle)
  refine holds_toFloat hsign hnumerator (le_min hstored.le_exponent (by decide)) ?_ ?_
  · rwa [numerator_remainderBinary]
  · rwa [denominator_remainderBinary]

/-- The remainder of a double that is not negative is **what the divisor leaves**, and not negative. -/
theorem exists_remainder (hx : finite? x = some b) (h : 0 ≤ b.value) (hd : 0 < d) (hshort : d < 2 ^ 53) :
    ∃ r, finite? (remainder x b d) = some r ∧ 0 ≤ r.value ∧ r.magnitude = restBy b.magnitude d := by
  rcases lt_or_ge b.magnitude d with hless | hle
  · rw [remainder_of_lt hless]
    exact ⟨b, hx, h, (restBy_of_lt b.magnitude_nonneg hless).symm⟩
  · obtain ⟨r, hr, hsign, hmagnitude⟩ := holds_remainder hx h hd hshort hle
    exact ⟨r, hr, Binary.value_nonneg hsign, hmagnitude⟩

/-- A double less its remainder is the double **nearest to the multiple** of the divisor. -/
theorem holds_sub_remainder (hx : finite? x = some b) (h : 0 ≤ b.value) (hd : 0 < d)
    (hshort : d < 2 ^ 53) : Holds (x - remainder x b d) (nearest (⌊b.magnitude⌋₊ / d * d : Nat)) := by
  rcases lt_or_ge b.magnitude d with hless | hle
  · rw [remainder_of_lt hless, sub_self_of_finite? hx,
      Nat.div_eq_of_lt ((Nat.floor_lt b.magnitude_nonneg).2 hless), Nat.zero_mul, Nat.cast_zero,
      nearest_zero]
    exact holds_zero
  · -- the remainder is exact, so only the difference is rounded
    have hsign := Binary.negative_eq_false h ((Nat.cast_pos.2 hd).trans_le hle)
    have hself : Holds x b.magnitude := ⟨b, hx, hsign, rfl⟩
    have hmultiple : b.magnitude - restBy b.magnitude d = (⌊b.magnitude⌋₊ / d * d : Nat) :=
      sub_sub_cancel _ _
    rw [← hmultiple]
    exact hself.sub (holds_remainder hx h hd hshort hle) (restBy_le b.magnitude d)

/-- The **whole number next below** a double is held as the double nearest to it. -/
theorem holds_floorFloat {q : ℚ} (h : Holds x q) : Holds (floorFloat x) (nearest ⌊q⌋₊) := by
  have hlimit := (h.nearest_le (Nat.cast_nonneg ⌊q⌋₊) (Nat.floor_le h.nonneg)).trans_lt h.lt_limit
  obtain ⟨b, hb, hsign, rfl⟩ := h
  have hfloor : b.floor = b.floorMagnitude := if_neg (by rw [hsign]; decide)
  have hfloat : floorFloat x = .ofNat b.floorMagnitude := by
    have hnonneg : ¬ (b.floorMagnitude : Int) < 0 := by omega
    simp only [floorFloat, hb, hfloor]
    rw [if_neg hnonneg, Int.toNat_natCast]
  rw [hfloat]
  rw [Binary.floor_magnitude] at hlimit ⊢
  exact isRounded_ofNat hlimit

/-- A quotient of doubles **rounded down**, half a unit of rounding in the quotient being made up for. -/
def wholeQuotient (quotient : Float) : Float :=
  if quotient == 0.0 then 0.0
  else if quotient - floorFloat quotient > 0.5 then floorFloat quotient + 1.0
  else floorFloat quotient

/-- A quotient of stored values is **far below the range** if the divisor is 4 or more. -/
theorem nearest_div_le {p : ℚ} (hb : b.IsStored) (hp : 0 ≤ p) (hle : p ≤ b.magnitude) (hd : 4 ≤ d) :
    nearest (nearest p / d) ≤ 2 ^ (1022 : Int) := by
  rw [← nearest_zpow (by decide)]
  refine nearest_mono (div_nonneg (nearest_nonneg _) (Nat.cast_nonneg d)) ?_
  have hself : nearest p ≤ b.magnitude :=
    (nearest_mono hp hle).trans (nearest_mul_zpow hb.mantissa_lt hb.le_exponent).le
  calc nearest p / d ≤ b.magnitude / 4 :=
        div_le_div₀ b.magnitude_nonneg hself (by norm_num) (by exact_mod_cast hd)
    _ ≤ 2 ^ (1024 : Int) / 4 := div_le_div_of_nonneg_right hb.magnitude_lt.le (by norm_num)
    _ = 2 ^ (1022 : Int) := by
      rw [div_eq_iff (by norm_num)]
      exact zpow_add₀ (by norm_num) (1022 : Int) 2

/-- One can be added to such a quotient **within the range**. -/
theorem nearest_add_one_lt {q : ℚ} (hq : 0 ≤ q) (hlimit : q ≤ 2 ^ (1022 : Int)) :
    nearest (q + 1) < 2 ^ 1024 := by
  have hone : (1 : ℚ) ≤ 2 ^ (1022 : Int) := one_le_zpow₀ (by norm_num) (by decide)
  have hsum : q + 1 ≤ 2 ^ (1023 : Int) := by
    calc q + 1 ≤ 2 ^ (1022 : Int) + 2 ^ (1022 : Int) := add_le_add hlimit hone
      _ = 2 ^ (1023 : Int) := by
        rw [← two_mul]
        exact (zpow_one_add₀ (by norm_num) (1022 : Int)).symm
  calc nearest (q + 1) ≤ nearest (2 ^ (1023 : Int)) := nearest_mono (add_nonneg hq zero_le_one) hsum
    _ = 2 ^ (1023 : Int) := nearest_zpow (by decide)
    _ < 2 ^ (1024 : Int) := zpow_lt_zpow_right₀ (by norm_num) (by decide)

/-- A quotient rounded down is held. It is the quotient itself if that is a **short whole number**, and
at least one if the quotient is. -/
theorem holds_wholeQuotient {q : ℚ} (h : Holds x q) (hlimit : q ≤ 2 ^ (1022 : Int)) :
    ∃ p, Holds (wholeQuotient x) p ∧ (1 ≤ q → 1 ≤ p) ∧ ∀ n : Nat, n < 2 ^ 53 → q = n → p = n := by
  rw [wholeQuotient]
  by_cases hzero : q = 0
  · rw [if_pos ((h.beq_iff holds_zero).2 hzero)]
    exact ⟨0, holds_zero, fun hone => absurd (hone.trans hzero.le) (by norm_num),
      fun n _ hn => hzero.symm.trans hn⟩
  have hwhole := holds_floorFloat h
  have hle : nearest ⌊q⌋₊ ≤ q := h.nearest_le (Nat.cast_nonneg _) (Nat.floor_le h.nonneg)
  have hdifference := h.sub hwhole hle
  rw [if_neg (mt (h.beq_iff holds_zero).1 hzero)]
  by_cases hhalf : x - floorFloat x > 0.5
  · -- the whole number is too small by one, which a quotient that is whole itself excludes
    rw [if_pos hhalf]
    have hadd := hwhole.add holds_one (nearest_add_one_lt hwhole.nonneg (hle.trans hlimit))
    refine ⟨_, hadd, fun _ => ?_, fun n hn hq => ?_⟩
    · exact holds_one.le_nearest (le_add_of_nonneg_left hwhole.nonneg)
    · have hleft := (holds_half.lt_iff hdifference).1 hhalf
      rw [hq, Nat.floor_natCast, nearest_natCast hn, sub_self, nearest_zero] at hleft
      norm_num at hleft
  · rw [if_neg hhalf]
    refine ⟨_, hwhole, fun hq => ?_, fun n hn hq => ?_⟩
    · exact holds_one.le_nearest (by exact_mod_cast Nat.floor_pos.2 hq)
    · rw [hq, Nat.floor_natCast, nearest_natCast hn]

/-- A remainder that is not negative is not **moved to the sign of the divisor**. -/
theorem floorDivMod_eq {r : Binary} (hrest : finite? (remainder x b d) = some r) (h : 0 ≤ r.value) :
    floorDivMod x b d = (wholeQuotient ((x - remainder x b d) / .ofNat d),
      if remainder x b d == 0.0 then 0.0 else remainder x b d) := by
  have hnot : ¬ remainder x b d < 0.0 := by
    obtain ⟨c, hc, hsign, hmagnitude⟩ := holds_zero
    rw [lt_iff hrest hc, Binary.value_eq_magnitude hsign, hmagnitude]
    exact not_lt.2 h
  simp only [floorDivMod, wholeQuotient]
  by_cases hzero : (remainder x b d == 0.0) = true
  · rw [if_pos hzero, if_pos hzero]
    dsimp only
    split <;> rfl
  · rw [if_neg hzero, if_neg hzero, if_neg hnot]
    dsimp only
    split <;> rfl

/-- A quotient and a remainder of doubles **divide a number**: the remainder is what the divisor
leaves, and the quotient is that of numbers below `2 ^ 53`, and at least one for all that are not less
than the divisor. -/
structure Divided (q : ℚ) (d : Nat) (result : Float × Float) : Prop where
  /-- The remainder is exact. -/
  rest : Holds result.2 (restBy q d)
  /-- The quotient is zero only below the divisor, and it is exact for numbers that are not too large. -/
  quotient : ∃ p, Holds result.1 p ∧ (d ≤ q → 1 ≤ p) ∧ (q < 2 ^ 53 → p = (⌊q⌋₊ / d : Nat))

/-- **Division with remainder** of a double that is not negative. -/
theorem divided_floorDivMod (hx : finite? x = some b) (h : 0 ≤ b.value) (hd : 4 ≤ d)
    (hshort : d < 2 ^ 53) : Divided b.magnitude d (floorDivMod x b d) := by
  have hdivisor := holds_ofNat hshort
  have hone : (1 : ℚ) ≤ d := Nat.one_le_cast.2 (by omega)
  obtain ⟨r, hr, hrvalue, hrmagnitude⟩ := exists_remainder hx h (by omega) hshort
  obtain ⟨k, hk⟩ : ∃ k, ⌊b.magnitude⌋₊ / d = k := ⟨_, rfl⟩
  have hmultiple : ((k * d : Nat) : ℚ) ≤ b.magnitude := by
    refine le_trans ?_ (Nat.floor_le b.magnitude_nonneg)
    exact_mod_cast hk ▸ Nat.div_mul_le_self ⌊b.magnitude⌋₊ d
  have hquotient := (holds_sub_remainder hx h (by omega) hshort).div hdivisor hone
  rw [hk] at hquotient
  obtain ⟨p, hp, hleast, hexact⟩ := holds_wholeQuotient hquotient
    (nearest_div_le (isStored_of_finite? hx) (Nat.cast_nonneg _) hmultiple hd)
  rw [floorDivMod_eq hr hrvalue]
  refine ⟨?_, p, hp, fun hle => hleast ?_, fun hsmall => ?_⟩
  · rw [← hrmagnitude]
    exact holds_of_nonneg hr hrvalue
  · have hpos : 1 ≤ k := by
      rw [← hk]
      exact (Nat.one_le_div_iff (by omega)).2 (Nat.le_floor hle)
    have hdividend : (d : ℚ) ≤ nearest (k * d : Nat) :=
      hdivisor.le_nearest (by exact_mod_cast Nat.le_mul_of_pos_left d hpos)
    exact holds_one.le_nearest ((one_le_div (by linarith)).2 hdividend)
  · -- a short multiple is a double, so neither it nor its quotient is rounded
    have hfit : k * d < 2 ^ 53 := by exact_mod_cast hmultiple.trans_lt hsmall
    have hkfit : k < 2 ^ 53 := (Nat.le_mul_of_pos_right k (by omega)).trans_lt hfit
    rw [hk]
    refine hexact k hkfit ?_
    rw [nearest_natCast hfit, Nat.cast_mul, mul_div_cancel_right₀ _ (by linarith), nearest_natCast hkfit]

/-! ## The layout -/

/-- An **uptime with its fields**: hours, minutes and tenths of seconds, leading zero units left out. -/
def uptimeLayout (hours minutes tenths : Nat) : String :=
  let seconds := placesText 1 tenths ++ "s"
  if hours ≠ 0 then toString hours ++ "h" ++ toString minutes ++ "m" ++ seconds
  else if minutes ≠ 0 then toString minutes ++ "m" ++ seconds
  else seconds

/-- The whole number of a double, **rounded down** in its text. -/
theorem wholeText_of_holds {q : ℚ} (h : Holds x q) : wholeText x = toString ⌊q⌋₊ := by
  obtain ⟨b, hb, hsign, rfl⟩ := h
  have htruncate : b.truncate = b.floorMagnitude := if_neg (by rw [hsign]; decide)
  simp only [wholeText, hb, htruncate]
  rw [Binary.floor_magnitude]
  rfl

/-- A quotient is tested for zero **as its whole number** is, if it is none or at least one. -/
theorem bne_zero_iff {q : ℚ} (h : Holds x q) (hone : q = 0 ∨ 1 ≤ q) : (x != 0.0) = true ↔ ⌊q⌋₊ ≠ 0 := by
  rw [bne, Bool.not_eq_true', ← Bool.not_eq_true, h.beq_iff holds_zero, Ne, Nat.floor_eq_zero, not_iff_not]
  constructor
  · rintro rfl
    exact zero_lt_one
  · exact fun hlt => hone.resolve_right (not_le.2 hlt)

/-- The quotients and the last remainder are **laid out**. -/
theorem uptimeText?_of_holds {r t : Binary} {hours minutes rest seconds : Float} {p : ℚ} {m : Nat}
    (hx : finite? x = some b) (hhours : floorDivMod x b 3600 = (hours, rest)) (hr : finite? rest = some r)
    (hminutes : floorDivMod rest r 60 = (minutes, seconds)) (hp : Holds hours p) (hone : p = 0 ∨ 1 ≤ p)
    (hm : Holds minutes m) (ht : finite? seconds = some t) (hsign : t.negative = false) :
    uptimeText? x = some (uptimeLayout ⌊p⌋₊ m (t.toPlaces 1)) := by
  have hfixed : fixed 1 seconds = placesText 1 (t.toPlaces 1) := by
    simp only [fixed, finite?_eq_some_iff.1 ht, Binary.fixed, hsign]
    rfl
  have hmone : (m : ℚ) = 0 ∨ 1 ≤ (m : ℚ) := by
    rw [Nat.cast_eq_zero, Nat.one_le_cast]
    exact Nat.eq_zero_or_pos m
  simp only [uptimeText?, hx, hhours, hr, hminutes, Option.bind_eq_bind, Option.bind_some, hfixed,
    wholeText_of_holds hp, wholeText_of_holds hm, bne_zero_iff hp hone, bne_zero_iff hm hmone,
    Nat.floor_natCast, uptimeLayout]
  rw [apply_ite some, apply_ite some]
  rfl

/-- An **uptime is laid out** from the minutes and seconds of the number of seconds itself. -/
theorem uptimeText?_eq (hx : finite? x = some b) (h : 0 ≤ b.value) :
    ∃ (hours : Nat) (seconds : Binary),
      uptimeText? x = some (uptimeLayout hours (⌊b.magnitude⌋₊ / 60 % 60) (seconds.toPlaces 1)) ∧
      seconds.magnitude = restBy b.magnitude 60 ∧ (hours = 0 ↔ b.magnitude < 3600) ∧
      (b.magnitude < 2 ^ 53 → hours = ⌊b.magnitude⌋₊ / 3600) := by
  obtain ⟨⟨hours, rest⟩, hhours⟩ : ∃ result, floorDivMod x b 3600 = result := ⟨_, rfl⟩
  have hdivided := divided_floorDivMod hx h (d := 3600) (by decide) (by decide)
  rw [hhours] at hdivided
  obtain ⟨⟨r, hr, hrsign, hrmagnitude⟩, p, hp, hpone, hpexact⟩ := hdivided
  have hrvalue := Binary.value_nonneg hrsign
  obtain ⟨⟨minutes, seconds⟩, hminutes⟩ : ∃ result, floorDivMod rest r 60 = result := ⟨_, rfl⟩
  have hdivided := divided_floorDivMod hr hrvalue (d := 60) (by decide) (by decide)
  rw [hminutes, hrmagnitude] at hdivided
  obtain ⟨⟨t, ht, htsign, htmagnitude⟩, m, hm, -, hmexact⟩ := hdivided
  -- the minutes of an hour are short, so they are exact whatever the hours are
  have hmvalue : m = (⌊b.magnitude⌋₊ / 60 % 60 : Nat) := by
    have hsmall := restBy_lt b.magnitude_nonneg (by decide : 0 < 3600)
    rw [hmexact (hsmall.trans (by norm_num)), floor_restBy b.magnitude_nonneg]
    exact congrArg Nat.cast (Nat.mod_mul_right_div_self _ 60 60)
  have hpzero : b.magnitude < 3600 → p = 0 := fun hless => by
    rw [hpexact (hless.trans (by norm_num)),
      Nat.div_eq_of_lt ((Nat.floor_lt b.magnitude_nonneg).2 hless), Nat.cast_zero]
  have hpvalue : p = 0 ∨ 1 ≤ p := (lt_or_ge b.magnitude 3600).imp hpzero hpone
  rw [hmvalue] at hm
  refine ⟨⌊p⌋₊, t, uptimeText?_of_holds hx hhours hr hminutes hp hpvalue hm ht htsign, ?_, ?_, ?_⟩
  · rw [htmagnitude]
    exact restBy_restBy b.magnitude_nonneg 60 60
  · rw [Nat.floor_eq_zero]
    constructor
    · exact fun hlt => not_le.1 (mt hpone (not_le.2 hlt))
    · exact fun hless => (hpzero hless).trans_lt zero_lt_one
  · intro hsmall
    rw [hpexact hsmall, Nat.floor_natCast]

end ClusterMetrics.Status
