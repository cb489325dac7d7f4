import ClusterMetrics.Calendar.Unit
import ClusterMetrics.Proofs.MonthStarts

/-! # The boundaries of calendar units

Truncating a reading of the clock to a unit does not carry it over a boundary of the unit: a reading
comes before a boundary exactly if the start of its unit does.

* **`CalendarUnit.IsBoundary`**: whether a reading is one at which a unit starts.
* **`start_lt_iff`**: a place in a growing sequence is before a term if the last term not after it is.
* **`CalendarUnit.truncate_lt_iff`**: truncation does not cross a boundary. -/

namespace ClusterMetrics.Calendar

/-- If every number lies between a term of a growing sequence and the next, then the term before a
number decides whether the number comes **before another term**. -/
theorem start_lt_iff {start index : Int → Int} (hstart : ∀ {i j}, i < j → start i < start j)
    (hindex : ∀ n, start (index n) ≤ n ∧ n < start (index n + 1)) (n i : Int) :
    start (index n) < start i ↔ n < start i := by
  have hmono : StrictMono start := fun _ _ => hstart
  constructor
  · intro h
    have hnext : index n + 1 ≤ i := hmono.lt_iff_lt.1 h
    exact lt_of_lt_of_le (hindex n).2 (hmono.monotone hnext)
  · intro h
    exact lt_of_le_of_lt (hindex n).1 h

namespace CalendarUnit

/-- Whether a reading is the **start of a unit**: a whole minute, hour or day, or midnight of the
first day of a month or a year. -/
def IsBoundary : CalendarUnit → Int → Prop
  | minute, t => 60 ∣ t
  | hour, t => 3600 ∣ t
  | day, t => 86400 ∣ t
  | month, t => ∃ (year : Int) (month : Nat), 1 ≤ month ∧ month ≤ 12 ∧
      t = (Date.mk year month 1).dayNumber * 86400
  | year, t => ∃ year : Int, t = (Date.mk year 1 1).dayNumber * 86400

/-- The first day of a date's month. -/
theorem dayNumber_monthStart {year : Int} {month : Nat} (h : 1 ≤ month ∧ month ≤ 12) :
    (Date.mk year month 1).dayNumber = monthStart (Date.mk year month 1).monthIndex := by
  rw [Date.dayNumber_eq_monthStart h.1 h.2]
  simp

/-- The day on which a **year starts**. -/
def yearStart (year : Int) : Int := (Date.mk year 1 1).dayNumber

/-- A year starts **with its January**. -/
theorem yearStart_eq_monthStart (year : Int) : yearStart year = monthStart (12 * year - 2) := by
  rw [yearStart, dayNumber_monthStart (by omega)]
  show monthStart (12 * year + 1 - 3) = _
  congr 1
  omega

/-- A later year **starts later**. -/
theorem yearStart_lt {year year' : Int} (h : year < year') : yearStart year < yearStart year' := by
  rw [yearStart_eq_monthStart, yearStart_eq_monthStart]
  exact monthStart_lt (by omega)

/-- A day lies **in the year of its date**. -/
theorem mem_year_ofDayNumber (n : Int) :
    yearStart (Date.ofDayNumber n).year ≤ n ∧ n < yearStart ((Date.ofDayNumber n).year + 1) := by
  obtain ⟨hmonth, -⟩ := Date.monthIndex_ofDayNumber n
  obtain ⟨hstart, hend⟩ := Date.mem_month_ofDayNumber n
  rw [yearStart_eq_monthStart, yearStart_eq_monthStart]
  -- January comes no later than the month of the date, and the next one after it
  constructor
  · refine le_trans (monthStart_le ?_) hstart
    rw [Date.monthIndex]
    omega
  · refine lt_of_lt_of_le hend (monthStart_le ?_)
    rw [Date.monthIndex]
    omega

/-- A unit of whole days starts before a boundary if **the reading** comes before it. -/
theorem days_lt_iff {start day : Int} {t : Int} (h : start < day ↔ t / 86400 < day) :
    start * 86400 < day * 86400 ↔ t < day * 86400 := by
  omega

/-- **Truncation does not cross a boundary**: the unit of a reading starts before a boundary exactly
if the reading comes before it. -/
theorem truncate_lt_iff {unit : CalendarUnit} {b : Int} (hb : unit.IsBoundary b) (t : Int) :
    unit.truncate t < b ↔ t < b := by
  cases unit with
  | minute =>
    obtain ⟨i, rfl⟩ := hb
    show t - t % 60 < 60 * i ↔ _
    omega
  | hour =>
    obtain ⟨i, rfl⟩ := hb
    show t - t % 3600 < 3600 * i ↔ _
    omega
  | day =>
    obtain ⟨i, rfl⟩ := hb
    show t - t % 86400 < 86400 * i ↔ _
    omega
  | month =>
    obtain ⟨year, month, hlower, hupper, rfl⟩ := hb
    obtain ⟨hmonth, -⟩ := Date.monthIndex_ofDayNumber (t / 86400)
    have hfirst : (Date.mk (dateOf t).year (dateOf t).month 1).dayNumber
        = monthStart (dateOf t).monthIndex := dayNumber_monthStart hmonth
    apply days_lt_iff
    rw [hfirst, dayNumber_monthStart ⟨hlower, hupper⟩]
    exact @start_lt_iff _ (fun n => (Date.ofDayNumber n).monthIndex) monthStart_lt
      Date.mem_month_ofDayNumber (t / 86400) _
  | year =>
    obtain ⟨year, rfl⟩ := hb
    apply days_lt_iff
    exact @start_lt_iff _ (fun n => (Date.ofDayNumber n).year) yearStart_lt
      mem_year_ofDayNumber (t / 86400) year

end CalendarUnit

end ClusterMetrics.Calendar
