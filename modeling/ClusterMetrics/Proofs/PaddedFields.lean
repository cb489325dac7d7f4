import ClusterMetrics.Calendar.Timestamp
import ClusterMetrics.Proofs.Numerals

/-! # Padded fields

The fields of a timestamp are numerals padded to two digits, the year to four. A field that takes one
digit where two make no legal value leaves the other, and no separator of a timestamp is a digit. So
a padded field that is no legal value fails the reading as a whole.

* **`toList_paddedDigits_succ`**: padded numerals digit by digit. **`digitsToNat_paddedDigits`**: they
  are read as their number.
* **`StopsAtDigit`**: whether reading fails if a digit follows.
* **`readField?_paddedDigits`**: a padded field is read, or reading fails.
* **`readDate?_bind`**, **`readTime?_bind`**: a padded date and a padded time of day. -/

namespace ClusterMetrics

open ClusterMetrics.Text ClusterMetrics.Decimal

/-! ## Digits -/

namespace Text

/-- ASCII digits are **decimal digits**. -/
theorem isDigit_of_isAsciiDigit {c : Char} (h : isAsciiDigit c = true) : isDigit c = true := by
  rw [isDigit, digitValue?_of_isAsciiDigit h]
  rfl

/-- A digit is **no other character**. -/
theorem ne_of_isAsciiDigit {c separator : Char} (hc : isAsciiDigit c = true)
    (h : isAsciiDigit separator = false) : c ≠ separator := by
  rintro rfl
  exact Bool.noConfusion (h.symm.trans hc)

end Text

/-! ## Padded numerals -/

namespace Decimal

/-- A numeral padded to one digit is **the numeral**. -/
theorem toList_paddedDigits_one (n : Nat) : (paddedDigits 1 n).toList = Nat.toDigits 10 n := by
  have hlength : 1 - (Nat.toDigits 10 n).length = 0 :=
    Nat.sub_eq_zero_of_le (List.length_pos_iff.2 Nat.toDigits_ne_nil)
  simp only [paddedDigits, String.toList_ofList, hlength, List.replicate_zero, List.nil_append]

/-- A padded numeral is **its head and its last digit**. -/
theorem toList_paddedDigits_succ (k n : Nat) :
    (paddedDigits (k + 2) n).toList
      = (paddedDigits (k + 1) (n / 10)).toList ++ [(n % 10).digitChar] := by
  have hlast : n % 10 < 10 := Nat.mod_lt n (by decide)
  simp only [paddedDigits, String.toList_ofList]
  by_cases hten : n < 10
  · -- the head is a zero itself, and stands for one of the zeros in front
    have hzero : n / 10 = 0 := Nat.div_eq_of_lt hten
    rw [hzero, Nat.toDigits_of_lt_base hten, Nat.mod_eq_of_lt hten,
      Nat.toDigits_of_lt_base (by decide : 0 < 10)]
    show List.replicate (k + 1) '0' ++ _ = List.replicate k '0' ++ ['0'] ++ _
    rw [List.replicate_succ']
  · have hdigits : Nat.toDigits 10 n = Nat.toDigits 10 (n / 10) ++ [(n % 10).digitChar] := by
      conv_lhs => rw [← Nat.div_add_mod n 10]
      exact toDigits_ten_mul_add (by omega) hlast
    rw [hdigits, List.length_append, List.length_singleton, List.append_assoc,
      Nat.add_sub_add_right (k + 1) 1]

/-- A numeral padded to **two digits**. -/
theorem toList_paddedDigits_two {n : Nat} (hn : n < 100) :
    (paddedDigits 2 n).toList = [(n / 10).digitChar, (n % 10).digitChar] := by
  rw [toList_paddedDigits_succ, toList_paddedDigits_one, Nat.toDigits_of_lt_base (by omega)]
  rfl

/-- A numeral padded to **four digits**. -/
theorem toList_paddedDigits_four {n : Nat} (hn : n < 10000) :
    (paddedDigits 4 n).toList = [(n / 10 / 10 / 10).digitChar, (n / 10 / 10 % 10).digitChar,
      (n / 10 % 10).digitChar, (n % 10).digitChar] := by
  rw [toList_paddedDigits_succ, toList_paddedDigits_succ, toList_paddedDigits_two (by omega)]
  rfl

/-- A digit is read as **its value**. -/
theorem digitValue?_digitChar {d : Nat} (hd : d < 10) : digitValue? d.digitChar = some d := by
  obtain ⟨hdigit, hcode⟩ := digitChar_of_lt_ten hd
  rw [digitValue?_of_isAsciiDigit hdigit, hcode, Nat.add_sub_cancel]

/-- A padded numeral is read as **its number**. -/
theorem digitsToNat_paddedDigits (k n : Nat) : digitsToNat (paddedDigits (k + 1) n).toList = n := by
  induction k generalizing n with
  | zero => rw [toList_paddedDigits_one, digitsToNat_toDigits]
  | succ k ih =>
    have hlast : n % 10 < 10 := Nat.mod_lt n (by decide)
    rw [toList_paddedDigits_succ, digitsToNat_concat, ih, digitValue?_digitChar hlast,
      Option.getD_some, Nat.div_add_mod]

/-- The characters of a padded numeral are **ASCII digits**. -/
theorem isAsciiDigit_of_mem_paddedDigits {k n : Nat} {c : Char}
    (h : c ∈ (paddedDigits (k + 1) n).toList) : isAsciiDigit c = true := by
  induction k generalizing n with
  | zero =>
    rw [toList_paddedDigits_one] at h
    exact (isAsciiDigit_iff_isDigit c).2 (Nat.isDigit_of_mem_toDigits (by decide) (by decide) h)
  | succ k ih =>
    rw [toList_paddedDigits_succ, List.mem_append, List.mem_singleton] at h
    obtain h | rfl := h
    · exact ih h
    · exact (digitChar_of_lt_ten (Nat.mod_lt n (by decide))).1

end Decimal

/-! ## Fields -/

namespace Calendar.Timestamp

variable {α β : Type}

/-- Whether reading on **fails if a digit follows**. -/
def StopsAtDigit (f : α × List Char → Option β) : Prop :=
  ∀ a c s, isAsciiDigit c = true → f (a, c :: s) = none

/-- A character that is admitted is **read**. -/
@[simp] theorem readChar?_cons (p : Char → Bool) (c : Char) (s : List Char) :
    readChar? p (c :: s) = if p c then some s else none := rfl

/-- Reading on with a character **that is no digit** fails if a digit follows. -/
theorem stopsAtDigit_readChar? {p : Char → Bool} (hp : ∀ c, isAsciiDigit c = true → p c = false)
    (g : α × List Char → List Char → Option β) :
    StopsAtDigit fun a => (readChar? p a.2).bind (g a) := by
  intro a c s hc
  show (readChar? p (c :: s)).bind _ = none
  rw [readChar?_cons, hp c hc]
  rfl

/-- Reading on with a **separator** fails if a digit follows. -/
theorem stopsAtDigit_separator {separator : Char} (h : isAsciiDigit separator = false)
    (g : α × List Char → List Char → Option β) :
    StopsAtDigit fun a => (readChar? (· == separator) a.2).bind (g a) :=
  stopsAtDigit_readChar? (fun _ hc => beq_false_of_ne (ne_of_isAsciiDigit hc h)) g

/-- A padded field is read **if it is a legal value**; otherwise one digit may be read, and the other
stops the reading. -/
theorem readField?_paddedDigits (legal : Nat → Prop) [DecidablePred legal]
    {two : Char → Char → Bool} {one : Char → Bool}
    (htwo : ∀ n < 100, two (n / 10).digitChar (n % 10).digitChar = decide (legal n))
    {n : Nat} (hn : n < 100) {f : Nat × List Char → Option β} (hf : StopsAtDigit f)
    (rest : List Char) :
    (readField? two one ((paddedDigits 2 n).toList ++ rest)).bind f
      = if legal n then f (n, rest) else none := by
  have hvalue := digitsToNat_paddedDigits 1 n
  have hlast := (digitChar_of_lt_ten (Nat.mod_lt n (by decide : 0 < 10))).1
  rw [toList_paddedDigits_two hn] at hvalue ⊢
  simp only [List.cons_append, List.nil_append, readField?, htwo n hn, decide_eq_true_eq]
  by_cases hlegal : legal n
  · rw [if_pos hlegal, if_pos hlegal, Option.bind_some, hvalue]
  · rw [if_neg hlegal, if_neg hlegal]
    split
    · -- the first digit is a field by itself, and the second follows it
      exact hf _ _ _ hlast
    · rfl

section Fields

variable {n : Nat} (hn : n < 100) {f : Nat × List Char → Option β} (hf : StopsAtDigit f)
  (rest : List Char)
include hn hf

/-- A padded **month** is 01 to 12. -/
theorem readMonth?_bind : (readMonth? ((paddedDigits 2 n).toList ++ rest)).bind f
    = if 1 ≤ n ∧ n ≤ 12 then f (n, rest) else none :=
  readField?_paddedDigits (fun n => 1 ≤ n ∧ n ≤ 12) (by decide) hn hf rest

/-- A padded **day** is 01 to 31. -/
theorem readDay?_bind : (readDay? ((paddedDigits 2 n).toList ++ rest)).bind f
    = if 1 ≤ n ∧ n ≤ 31 then f (n, rest) else none :=
  readField?_paddedDigits (fun n => 1 ≤ n ∧ n ≤ 31) (by decide) hn hf rest

/-- A padded **hour** is 00 to 23. -/
theorem readHour?_bind : (readHour? ((paddedDigits 2 n).toList ++ rest)).bind f
    = if n < 24 then f (n, rest) else none :=
  readField?_paddedDigits (· < 24) (by decide) hn hf rest

/-- A padded **minute** is 00 to 59. -/
theorem readMinute?_bind : (readMinute? ((paddedDigits 2 n).toList ++ rest)).bind f
    = if n < 60 then f (n, rest) else none :=
  readField?_paddedDigits (· < 60) (by decide) hn hf rest

/-- A padded **second** is 00 to 61. -/
theorem readSecond?_bind : (readSecond? ((paddedDigits 2 n).toList ++ rest)).bind f
    = if n < 62 then f (n, rest) else none :=
  readField?_paddedDigits (· < 62) (by decide) hn hf rest

end Fields

/-- A **year** of four digits is read as its number. -/
theorem readYear?_paddedDigits {n : Nat} (hn : n < 10000) (rest : List Char) :
    readYear? ((paddedDigits 4 n).toList ++ rest) = some (n, rest) := by
  have hvalue := digitsToNat_paddedDigits 3 n
  have hdigit : ∀ c ∈ (paddedDigits 4 n).toList, isDigit c = true := fun c hc =>
    isDigit_of_isAsciiDigit (isAsciiDigit_of_mem_paddedDigits hc)
  rw [toList_paddedDigits_four hn] at hvalue hdigit ⊢
  simp only [List.cons_append, List.nil_append, readYear?, List.all_eq_true.2 hdigit, if_true,
    hvalue]

/-! ## Dates and times of day -/

/-- The characters of a **date** as `YYYY-MM-DD`. -/
def dateChars (d : Date) : List Char :=
  (paddedDigits 4 d.year.toNat).toList ++ '-' :: (paddedDigits 2 d.month).toList ++
    '-' :: (paddedDigits 2 d.day).toList

/-- The characters of a **time of day** as `HH:MM:SS`. -/
def timeChars (w : WallClock) : List Char :=
  (paddedDigits 2 w.hour).toList ++ ':' :: (paddedDigits 2 w.minute).toList ++
    ':' :: (paddedDigits 2 w.second).toList

/-- A padded date is read **up to the length of its month**. -/
theorem readDate?_bind {d : Date} (hyear : 0 ≤ d.year ∧ d.year < 10000) (hmonth : d.month < 100)
    (hday : d.day < 100) {f : Date × List Char → Option β} (hf : StopsAtDigit f)
    (rest : List Char) :
    (readDate? (dateChars d ++ rest)).bind f
      = if (1 ≤ d.month ∧ d.month ≤ 12) ∧ 1 ≤ d.day ∧ d.day ≤ 31 then f (d, rest) else none := by
  obtain ⟨year, month, day⟩ := d
  obtain ⟨year, rfl⟩ := Int.eq_ofNat_of_zero_le hyear.1
  simp only [dateChars, readDate?, Int.toNat_natCast, List.append_assoc, List.cons_append,
    Option.bind_eq_bind, Option.bind_assoc, Option.pure_def, Option.bind_some] at *
  rw [readYear?_paddedDigits (by omega)]
  simp only [Option.bind_some, readChar?_cons, beq_self_eq_true, if_true]
  rw [readMonth?_bind hmonth (stopsAtDigit_separator (by decide) _)]
  simp only [readChar?_cons, beq_self_eq_true, if_true, Option.bind_some]
  rw [readDay?_bind hday fun a c s hc => hf _ c s hc]
  simp only [ite_and]

/-- A padded time of day is read **up to the second 61**. -/
theorem readTime?_bind {w : WallClock} (hhour : w.hour < 100) (hminute : w.minute < 100)
    (hsecond : w.second < 100) {f : WallClock × List Char → Option β} (hf : StopsAtDigit f)
    (rest : List Char) :
    (readTime? w.date (timeChars w ++ rest)).bind f
      = if w.hour < 24 ∧ w.minute < 60 ∧ w.second < 62 then f ({ w with micro := 0 }, rest)
        else none := by
  simp only [timeChars, readTime?, List.append_assoc, List.cons_append, Option.bind_eq_bind,
    Option.bind_assoc, Option.pure_def, Option.bind_some]
  rw [readHour?_bind hhour (stopsAtDigit_separator (by decide) _)]
  simp only [readChar?_cons, beq_self_eq_true, if_true, Option.bind_some]
  rw [readMinute?_bind hminute (stopsAtDigit_separator (by decide) _)]
  simp only [readChar?_cons, beq_self_eq_true, if_true, Option.bind_some]
  rw [readSecond?_bind hsecond fun a c s hc => hf _ c s hc, ite_and, ite_and]

end Calendar.Timestamp

end ClusterMetrics
