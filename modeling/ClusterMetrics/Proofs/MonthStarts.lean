import ClusterMetrics.Calendar.Date
import Mathlib.Order.Monotone.Basic

/-! # The starts of months

Months are counted through the years, twelve to a year, from March, as the leap day is the last of a
year that starts then. They start one after the other, and a day lies in the month of its date.

* **`monthStart`**: the day on which a month starts; **`monthStart_lt`**: a later month starts
  later. **`mul_sub_le_monthStart`**: months make up years of 365 days.
* **`Date.dayNumber_eq_monthStart`**: a date is counted from the start of its month.
* **`Date.cycleYearStart_le_iff`**, **`Date.mem_yearOfCycle`**: the year of a day, within a cycle of
  four hundred years. **`Date.mem_monthOfYear`**: its month.
* **`Date.mem_month_ofDayNumber`**: a day lies in the month of its date.
  **`Date.day_ofDayNumber`**: the day of the date is counted from there.
* **`Date.monthStart_monthIndex_succ`**: months have their lengths.
  **`Date.ofDayNumber_dayNumber`**: dates are the dates of their days. -/

namespace ClusterMetrics.Calendar

/-- The day on which a **month starts**, months being counted from March of year zero. -/
def monthStart (k : Int) : Int :=
  k / 12 * 365 + k / 12 / 4 - k / 12 / 100 + k / 12 / 400 + (153 * (k % 12) + 2) / 5 - 719468

/-- The next month starts **28 to 31 days later**. -/
theorem monthStart_succ_bounds (k : Int) :
    monthStart k + 28 ≤ monthStart (k + 1) ∧ monthStart (k + 1) ≤ monthStart k + 31 := by
  unfold monthStart
  -- the last month of a year ends with the year, the others have the days of the formula
  by_cases hlast : k % 12 = 11
  · have hyear : (k + 1) / 12 = k / 12 + 1 := by omega
    have hmonth : (k + 1) % 12 = 0 := by omega
    rw [hyear, hmonth, hlast]
    omega
  · have hyear : (k + 1) / 12 = k / 12 := by omega
    have hmonth : (k + 1) % 12 = k % 12 + 1 := by omega
    rw [hyear, hmonth]
    omega

/-- The next month starts **later**. -/
theorem monthStart_lt_succ (k : Int) : monthStart k < monthStart (k + 1) := by
  have hnext := (monthStart_succ_bounds k).1
  omega

/-- A later month **starts later**. -/
theorem monthStart_lt {i j : Int} (h : i < j) : monthStart i < monthStart j :=
  strictMono_int_of_lt_succ monthStart_lt_succ h

/-- A month that is not later does not **start later**. -/
theorem monthStart_le {i j : Int} (h : i ≤ j) : monthStart i ≤ monthStart j :=
  (strictMono_int_of_lt_succ monthStart_lt_succ).monotone h

/-! ## Years of twelve months -/

/-- Later years have **no fewer leap days** before them. -/
theorem leapDays_le {year year' : Int} (h : year ≤ year') :
    year / 4 - year / 100 + year / 400 ≤ year' / 4 - year' / 100 + year' / 400 := by
  have hmono : Monotone fun y : Int => y / 4 - y / 100 + y / 400 := by
    refine monotone_int_of_le_succ fun y => ?_
    -- a year that ends a century ends four years too
    by_cases hcentury : (y + 1) % 100 = 0
    · have hnext : (y + 1) / 4 = y / 4 + 1 := by omega
      omega
    · have hnext : (y + 1) / 100 = y / 100 := by omega
      omega
  exact hmono h

/-- Within a year from March, months start **no earlier than their part of 365 days**, and up to 29
twelfths of a day later. -/
theorem monthOffset_bounds {month : Int} (h : 0 ≤ month ∧ month < 12) :
    365 * month ≤ 12 * ((153 * month + 2) / 5) ∧
      12 * ((153 * month + 2) / 5) ≤ 365 * month + 29 := by
  obtain rfl | rfl | rfl | hlater : month = 0 ∨ month = 1 ∨ month = 2 ∨ 3 ≤ month := by omega
  all_goals omega

/-- Twelve months are **no shorter than 365 days**, and some months no shorter than their part of
these, but for 29 twelfths of a day. -/
theorem mul_sub_le_monthStart {i j : Int} (h : i ≤ j) :
    365 * (j - i) ≤ 12 * (monthStart j - monthStart i) + 29 := by
  have hleap := leapDays_le (Int.ediv_le_ediv (by decide : (0 : Int) < 12) h)
  have hfirst := @monthOffset_bounds (i % 12) (by omega)
  have hlast := @monthOffset_bounds (j % 12) (by omega)
  unfold monthStart
  omega

/-! ## Months of dates -/

namespace Date

/-- The **month of a date**, counted from March of year zero. -/
def monthIndex (d : Date) : Int := 12 * d.year + d.month - 3

/-- A date is counted **from the start of its month**. -/
theorem dayNumber_eq_monthStart {d : Date} (hlower : 1 ≤ d.month) (hupper : d.month ≤ 12) :
    d.dayNumber = monthStart d.monthIndex + d.day - 1 := by
  obtain ⟨year, month, day⟩ := d
  simp only [dayNumber, monthStart, monthIndex] at *
  by_cases hspring : month ≤ 2
  · have hyear : (12 * year + month - 3) / 12 = year - 1 := by omega
    have hmonth : (12 * year + month - 3) % 12 = month + 9 := by omega
    have hmonth' : ((month : Int) + 9) % 12 = month + 9 := by omega
    rw [if_pos hspring, hyear, hmonth, hmonth']
    omega
  · have hyear : (12 * year + month - 3) / 12 = year := by omega
    have hmonth : (12 * year + month - 3) % 12 = month - 3 := by omega
    have hmonth' : ((month : Int) + 9) % 12 = month - 3 := by omega
    rw [if_neg hspring, hyear, hmonth, hmonth']
    omega

/-! ## The date of a day -/

/-- The first day of a **year of a cycle** of four hundred years. -/
def cycleYearStart (year : Int) : Int := 365 * year + year / 4 - year / 100 + year / 400

/-- A day of a cycle with one day taken out for every **leap day** before it, so that years of 365
days are left. -/
def withoutLeapDays (day : Int) : Int := day - day / 1460 + day / 36524 - day / 146096

/-- What a day of a cycle has to reach for a year, one of four years in one of twenty-five of them
in one of four centuries, it has to reach without leap days **for as many years of 365 days**. -/
theorem le_withoutLeapDays_iff {day century four one : Int} (hday : 0 ≤ day ∧ day < 146097)
    (hcentury : 0 ≤ century ∧ century < 4) (hfour : 0 ≤ four ∧ four < 25)
    (hone : 0 ≤ one ∧ one < 4) :
    365 * (100 * century + 4 * four + one) ≤ withoutLeapDays day ↔
      36524 * century + 1461 * four + 365 * one ≤ day := by
  unfold withoutLeapDays
  obtain rfl | rfl | rfl | rfl : century = 0 ∨ century = 1 ∨ century = 2 ∨ century = 3 := by omega
  all_goals
    constructor <;> omega

/-- A day of a cycle is **in a year or after it** if it is so without leap days. -/
theorem cycleYearStart_le_iff {day year : Int} (hday : 0 ≤ day ∧ day < 146097)
    (hyear : 0 ≤ year ∧ year < 400) :
    cycleYearStart year ≤ day ↔ 365 * year ≤ withoutLeapDays day := by
  have hsplit : year = 100 * (year / 100) + 4 * (year % 100 / 4) + year % 4 := by omega
  have hstart : cycleYearStart year
      = 36524 * (year / 100) + 1461 * (year % 100 / 4) + 365 * (year % 4) := by
    unfold cycleYearStart
    omega
  have hiff := @le_withoutLeapDays_iff day (year / 100) (year % 100 / 4) (year % 4) hday (by omega)
    (by omega) (by omega)
  rw [← hsplit, ← hstart] at hiff
  exact hiff.symm

/-- The year of a cycle that a day of the cycle lies in. -/
def yearOfCycle (day : Int) : Int := withoutLeapDays day / 365

/-- A day of a cycle lies **in its year**. -/
theorem mem_yearOfCycle {day : Int} (hday : 0 ≤ day ∧ day < 146097) :
    (0 ≤ yearOfCycle day ∧ yearOfCycle day < 400) ∧
      cycleYearStart (yearOfCycle day) ≤ day ∧ day < cycleYearStart (yearOfCycle day + 1) := by
  have hyear : 0 ≤ yearOfCycle day ∧ yearOfCycle day < 400 := by
    unfold yearOfCycle withoutLeapDays
    omega
  have hdiv : 365 * yearOfCycle day ≤ withoutLeapDays day ∧
      withoutLeapDays day < 365 * (yearOfCycle day + 1) := by
    unfold yearOfCycle
    omega
  refine ⟨hyear, (cycleYearStart_le_iff hday hyear).2 hdiv.1, ?_⟩
  by_cases hlast : yearOfCycle day = 399
  · rw [hlast]
    exact hday.2
  · have hnext : 0 ≤ yearOfCycle day + 1 ∧ yearOfCycle day + 1 < 400 := by omega
    exact Int.not_le.1 fun hle => absurd ((cycleYearStart_le_iff hday hnext).1 hle)
      (Int.not_le.2 hdiv.2)

/-- A year has **at most 366 days**. -/
theorem cycleYearStart_succ_le (year : Int) :
    cycleYearStart (year + 1) ≤ cycleYearStart year + 366 := by
  unfold cycleYearStart
  -- a year that ends a cycle ends a century too, so its leap days cancel
  by_cases hcycle : (year + 1) % 400 = 0
  · have hnext : (year + 1) / 400 = year / 400 + 1 := by omega
    have hcentury : (year + 1) / 100 = year / 100 + 1 := by omega
    omega
  · have hnext : (year + 1) / 400 = year / 400 := by omega
    omega

/-- A month starts **in its year of its cycle**. -/
theorem monthStart_of_cycle (cycle year : Int) {month : Int} (h : 0 ≤ month ∧ month < 12) :
    monthStart (12 * (400 * cycle + year) + month)
      = 146097 * cycle + cycleYearStart year + (153 * month + 2) / 5 - 719468 := by
  have hyear : (12 * (400 * cycle + year) + month) / 12 = 400 * cycle + year := by omega
  have hmonth : (12 * (400 * cycle + year) + month) % 12 = month := by omega
  rw [monthStart, hyear, hmonth, cycleYearStart]
  omega

/-- The day of its year that a day of a cycle is. -/
def dayOfYear (day : Int) : Int := day - cycleYearStart (yearOfCycle day)

/-- The month of its year, from March, that a day of a cycle lies in. -/
def monthOfYear (day : Int) : Int := (5 * dayOfYear day + 2) / 153

/-- A day of a cycle lies **in its month**, except that the last month ends with the year. -/
theorem mem_monthOfYear {day : Int} (hday : 0 ≤ day ∧ day < 146097) :
    (0 ≤ monthOfYear day ∧ monthOfYear day < 12) ∧
      (153 * monthOfYear day + 2) / 5 ≤ dayOfYear day ∧
        (monthOfYear day ≠ 11 → dayOfYear day < (153 * (monthOfYear day + 1) + 2) / 5) := by
  have hlength : 0 ≤ dayOfYear day ∧ dayOfYear day < 366 := by
    obtain ⟨-, hstart, hend⟩ := mem_yearOfCycle hday
    have hnext := cycleYearStart_succ_le (yearOfCycle day)
    unfold dayOfYear
    omega
  unfold monthOfYear
  generalize dayOfYear day = d at hlength ⊢
  omega

/-- The date of a day is in **the year and the month** of its day of the cycle. -/
theorem monthIndex_ofDayNumber (n : Int) :
    (1 ≤ (ofDayNumber n).month ∧ (ofDayNumber n).month ≤ 12) ∧
      (ofDayNumber n).monthIndex
        = 12 * (400 * ((n + 719468) / 146097) + yearOfCycle ((n + 719468) % 146097))
          + monthOfYear ((n + 719468) % 146097) := by
  have hday : 0 ≤ (n + 719468) % 146097 ∧ (n + 719468) % 146097 < 146097 := by omega
  obtain ⟨hmonth, -⟩ := mem_monthOfYear hday
  obtain ⟨⟨hyear, hyear'⟩, -⟩ := mem_yearOfCycle hday
  have hdate : ofDayNumber n
      = ⟨(n + 719468) / 146097 * 400 + yearOfCycle ((n + 719468) % 146097)
          + (if (if monthOfYear ((n + 719468) % 146097) < 10
              then monthOfYear ((n + 719468) % 146097) + 3
              else monthOfYear ((n + 719468) % 146097) - 9) ≤ 2 then 1 else 0),
        (if monthOfYear ((n + 719468) % 146097) < 10
          then monthOfYear ((n + 719468) % 146097) + 3
          else monthOfYear ((n + 719468) % 146097) - 9).toNat, (ofDayNumber n).day⟩ := by
    have hzero : yearOfCycle ((n + 719468) % 146097) / 400 = 0 := by omega
    rw [monthOfYear, dayOfYear, cycleYearStart, hzero, Int.add_zero]
    rfl
  rw [monthIndex, hdate]
  generalize monthOfYear ((n + 719468) % 146097) = month at hmonth ⊢
  generalize yearOfCycle ((n + 719468) % 146097) = year
  generalize (n + 719468) / 146097 = cycle
  by_cases hspring : month < 10
  · simp only [if_pos hspring]
    split <;> omega
  · simp only [if_neg hspring]
    split <;> omega

/-- A day lies **in the month of its date**. -/
theorem mem_month_ofDayNumber (n : Int) :
    monthStart (ofDayNumber n).monthIndex ≤ n ∧
      n < monthStart ((ofDayNumber n).monthIndex + 1) := by
  have hday : 0 ≤ (n + 719468) % 146097 ∧ (n + 719468) % 146097 < 146097 := by omega
  have hn : n = 146097 * ((n + 719468) / 146097) + (n + 719468) % 146097 - 719468 := by omega
  rw [(monthIndex_ofDayNumber n).2]
  generalize (n + 719468) % 146097 = day at hday hn
  generalize (n + 719468) / 146097 = cycle at hn
  obtain ⟨-, hstart, hend⟩ := mem_yearOfCycle hday
  obtain ⟨hmonth, hfirst, hlast⟩ := mem_monthOfYear hday
  unfold dayOfYear at hfirst hlast
  constructor
  · rw [monthStart_of_cycle cycle _ hmonth]
    omega
  · by_cases hspring : monthOfYear day = 11
    · have hnext : 12 * (400 * cycle + yearOfCycle day) + monthOfYear day + 1
          = 12 * (400 * cycle + (yearOfCycle day + 1)) + 0 := by omega
      rw [hnext, monthStart_of_cycle cycle _ (by omega)]
      omega
    · rw [Int.add_assoc, monthStart_of_cycle cycle _ (by omega)]
      have hbefore := hlast hspring
      omega

/-- The day of a date is counted **from the start of its month**. -/
theorem day_ofDayNumber (n : Int) :
    ((ofDayNumber n).day : Int) = n - monthStart (ofDayNumber n).monthIndex + 1 := by
  have hday : 0 ≤ (n + 719468) % 146097 ∧ (n + 719468) % 146097 < 146097 := by omega
  obtain ⟨hmonth, hfirst, -⟩ := mem_monthOfYear hday
  obtain ⟨⟨hyear, hyear'⟩, -⟩ := mem_yearOfCycle hday
  have hdate : (ofDayNumber n).day
      = (dayOfYear ((n + 719468) % 146097)
          - (153 * monthOfYear ((n + 719468) % 146097) + 2) / 5 + 1).toNat := by
    have hzero : yearOfCycle ((n + 719468) % 146097) / 400 = 0 := by omega
    rw [monthOfYear, dayOfYear, cycleYearStart, hzero, Int.add_zero]
    rfl
  rw [hdate, (monthIndex_ofDayNumber n).2, monthStart_of_cycle _ _ hmonth]
  unfold dayOfYear at *
  omega

/-- The days of two dates are **equal if the dates are**. -/
theorem ofDayNumber_inj {m n : Int} : ofDayNumber m = ofDayNumber n ↔ m = n := by
  constructor
  · intro h
    have hm := day_ofDayNumber m
    have hn := day_ofDayNumber n
    rw [h] at hm
    omega
  · rintro rfl
    rfl

/-- A day from the start of a month to the start of the next is **in that month**. -/
theorem monthIndex_ofDayNumber_of_mem {k n : Int} (hlower : monthStart k ≤ n)
    (hupper : n < monthStart (k + 1)) : (ofDayNumber n).monthIndex = k := by
  obtain ⟨hstart, hend⟩ := mem_month_ofDayNumber n
  rcases lt_trichotomy (ofDayNumber n).monthIndex k with hlt | heq | hgt
  · have hle := monthStart_le (Int.add_one_le_of_lt hlt)
    omega
  · exact heq
  · have hle := monthStart_le (Int.add_one_le_of_lt hgt)
    omega

/-- The first day of a month is **in that month**. -/
theorem monthIndex_monthStart (k : Int) : (ofDayNumber (monthStart k)).monthIndex = k :=
  monthIndex_ofDayNumber_of_mem le_rfl (monthStart_lt_succ k)

/-- A day is the **first of its month** exactly if its month starts with it. -/
theorem day_eq_one_iff (n : Int) :
    (ofDayNumber n).day = 1 ↔ n = monthStart (ofDayNumber n).monthIndex := by
  have hday := day_ofDayNumber n
  omega

/-- The month after that of a date starts **the length of the month** later. -/
theorem monthStart_monthIndex_succ {d : Date} (hlower : 1 ≤ d.month) (hupper : d.month ≤ 12) :
    monthStart (d.monthIndex + 1) = monthStart d.monthIndex + monthLength d.year d.month := by
  obtain ⟨year, month, day⟩ := d
  simp only [monthIndex, monthLength, isLeapYear, monthStart, Bool.and_eq_true, Bool.or_eq_true,
    beq_iff_eq, bne_iff_ne] at *
  by_cases hlast : month = 2
  · -- the month that ends the year has the leap day
    have hyear : (12 * year + (2 : Nat) - 3) / 12 = year - 1 := by omega
    have hyear' : (12 * year + (2 : Nat) - 3 + 1) / 12 = year := by omega
    have hmonth : (12 * year + (2 : Nat) - 3) % 12 = 11 := by omega
    have hmonth' : (12 * year + (2 : Nat) - 3 + 1) % 12 = 0 := by omega
    subst hlast
    rw [if_pos rfl, hyear, hyear', hmonth, hmonth']
    by_cases hleap : year % 4 = 0 ∧ (year % 100 ≠ 0 ∨ year % 400 = 0)
    · rw [if_pos hleap]
      omega
    · rw [if_neg hleap]
      omega
  · rw [if_neg hlast]
    have hyear : (12 * year + month - 3 + 1) / 12 = (12 * year + month - 3) / 12 := by omega
    have hmonth : (12 * year + month - 3 + 1) % 12 = (12 * year + month - 3) % 12 + 1 := by omega
    rw [hyear, hmonth]
    obtain rfl | hspring : month = 1 ∨ 3 ≤ month := by omega
    · have hfirst : (12 * year + (1 : Nat) - 3) % 12 = 10 := by omega
      rw [hfirst, if_neg (by decide)]
      omega
    · have hfirst : (12 * year + month - 3) % 12 = month - 3 := by omega
      rw [hfirst]
      by_cases hthirty : month = 4 ∨ month = 6 ∨ month = 9 ∨ month = 11
      · rw [if_pos hthirty]
        obtain rfl | rfl | rfl | rfl := hthirty
        all_goals omega
      · rw [if_neg hthirty]
        obtain rfl | rfl | rfl | rfl | rfl | rfl :
          month = 3 ∨ month = 5 ∨ month = 7 ∨ month = 8 ∨ month = 10 ∨ month = 12 := by omega
        all_goals omega

/-- No month has **more than 31 days**. -/
theorem monthLength_le (year : Int) (month : Nat) : monthLength year month ≤ 31 := by
  unfold monthLength
  split
  · split <;> decide
  · split <;> decide

/-- A date that the calendar has is **the date of its day**. -/
theorem ofDayNumber_dayNumber {d : Date} (h : d.IsValid) : ofDayNumber d.dayNumber = d := by
  obtain ⟨hmonth, hmonth', hday, hday'⟩ := h
  have hcount := dayNumber_eq_monthStart hmonth hmonth'
  have hnext := monthStart_monthIndex_succ hmonth hmonth'
  have hindex : (ofDayNumber d.dayNumber).monthIndex = d.monthIndex :=
    monthIndex_ofDayNumber_of_mem (by omega) (by omega)
  have hfound := day_ofDayNumber d.dayNumber
  obtain ⟨⟨hlower, hupper⟩, -⟩ := monthIndex_ofDayNumber d.dayNumber
  rw [hindex] at hfound
  generalize ofDayNumber d.dayNumber = found at *
  obtain ⟨year, month, day⟩ := d
  obtain ⟨year', month', day'⟩ := found
  simp only [monthIndex, Date.mk.injEq] at *
  omega

end Date

end ClusterMetrics.Calendar
