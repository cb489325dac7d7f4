import ClusterMetrics.Bucket.Plan
import ClusterMetrics.Proofs.MonthStarts
import ClusterMetrics.Proofs.PaddedFields

/-! # Written timestamps

A reading of a clock is written as `YYYY-MM-DDTHH:MM:SS` with a fraction of any number of digits and
an offset of whole minutes, or in the literal form without either. Such a text denotes the reading
and the offset if a clock can show it and the offset is less than a day, and nothing otherwise. So
of the two forms that are tried one at most accepts it, and digits after the sixth are of no account.

* **`cutFraction_append`**: which digits of a written fraction are dropped.
* **`WrittenOffset`**, **`readOffset?_text`**: an offset is read as its number of minutes.
* **`readWithOffset?_timestampText`**, **`readLiteral?_literalText`**: which texts either form accepts.
* **`timestamps_read_what_is_written`**: reading a timestamp inverts writing it. -/

namespace ClusterMetrics

open ClusterMetrics.Text ClusterMetrics.Decimal ClusterMetrics.Calendar

/-! ## Fractions -/

namespace Calendar.Timestamp

/-- A text without a point **is not cut**, and the text after it is cut as if alone. -/
theorem cutFraction_append {s : List Char} (h : '.' ∉ s) (rest : List Char) :
    cutFraction (s ++ rest) = s ++ cutFraction rest := by
  induction s with
  | nil => rfl
  | cons c s ih =>
    obtain ⟨hc, hs⟩ := List.ne_and_not_mem_of_not_mem_cons h
    rw [List.cons_append, cutFraction, cutFrom, if_neg hc.symm]
    exact congrArg (c :: ·) (ih hs)

/-- A text without a point **is not cut**. -/
theorem cutFraction_eq_self {s : List Char} (h : '.' ∉ s) : cutFraction s = s := by
  have happend := cutFraction_append h []
  rwa [List.append_nil, show cutFraction [] = [] from rfl, List.append_nil] at happend

/-- Of the digits of a fraction **no more than six** are kept. -/
theorem cutFrom_digits {digits : List Char} (hdigits : ∀ c ∈ digits, isAsciiDigit c = true)
    {seen : Nat} (hseen : seen ≤ 6) {c : Char} (hc : isDigit c = false) (hpoint : c ≠ '.')
    (rest : List Char) :
    cutFrom (some seen) (digits ++ c :: rest)
      = digits.take (6 - seen) ++ c :: cutFraction rest := by
  -- by the digits, with the number of those that were kept before
  induction digits generalizing seen with
  | nil => simp [cutFrom, hc, hpoint, cutFraction]
  | cons d digits ih =>
    obtain ⟨hd, hdigits⟩ := List.forall_mem_cons.1 hdigits
    rw [List.cons_append, cutFrom, if_neg (ne_of_isAsciiDigit hd (by decide))]
    simp only [isDigit_of_isAsciiDigit hd, if_true]
    by_cases hsix : seen < 6
    · rw [if_pos hsix, ih hdigits hsix, show 6 - seen = 6 - (seen + 1) + 1 by omega]
      rfl
    · rw [if_neg hsix, ih hdigits hseen, show 6 - seen = 0 by omega]
      rfl

end Calendar.Timestamp

/-- The microseconds of a **fraction of any number of digits**: those of its first six, padded with
zeros on the right. -/
def microOf (fraction : String) : Nat :=
  digitsToNat ((fraction.toList.take 6).rightpad 6 '0')

/-- Zeros on the right **multiply** a number by ten each. -/
theorem digitsToNat_append_zeros (s : List Char) (k : Nat) :
    digitsToNat (s ++ List.replicate k '0') = digitsToNat s * tenTo k := by
  induction k with
  | zero => rw [List.replicate_zero, List.append_nil, tenTo_zero, Nat.mul_one]
  | succ k ih =>
    have hzero : (digitValue? '0').getD 0 = 0 := by decide
    rw [List.replicate_succ', ← List.append_assoc, digitsToNat_concat, ih, hzero, tenTo_succ,
      Nat.add_zero, Nat.mul_comm 10, Nat.mul_assoc]

/-- The first six digits of a fraction **make its microseconds**. -/
theorem fractionMicros_take (fraction : String) :
    Timestamp.fractionMicros (fraction.toList.take 6) = microOf fraction :=
  (digitsToNat_append_zeros _ _).symm

/-- A number of some ASCII digits is **below the power of ten**. -/
theorem digitsToNat_lt {s : List Char} (h : ∀ c ∈ s, isAsciiDigit c = true) :
    digitsToNat s < tenTo s.length := by
  induction s using List.reverseRecOn with
  | nil => decide
  | append_singleton s c ih =>
    have hs := ih fun d hd => h d (List.mem_append_left _ hd)
    have hc := h c (List.mem_append_right _ (List.mem_singleton_self c))
    have hcode := toNat_of_isAsciiDigit hc
    rw [digitsToNat_concat, digitValue?_of_isAsciiDigit hc, Option.getD_some, List.length_append,
      List.length_singleton, tenTo_succ]
    omega

/-- The microseconds of a fraction are **less than a second**. -/
theorem microOf_lt {fraction : String} (h : ∀ c ∈ fraction.toList, isAsciiDigit c = true) :
    microOf fraction < 1000000 := by
  have hpadded : ∀ c ∈ (fraction.toList.take 6).rightpad 6 '0', isAsciiDigit c = true := by
    intro c hc
    obtain hc | hc := List.mem_append.1 hc
    · exact h c (List.mem_of_mem_take hc)
    · rw [List.eq_of_mem_replicate hc]
      decide
  have hlt := digitsToNat_lt hpadded
  have hlength : ((fraction.toList.take 6).rightpad 6 '0').length = 6 := by
    rw [List.rightpad, List.length_append, List.length_replicate, List.length_take]
    omega
  rwa [hlength] at hlt

/-! ## Offsets -/

/-- Signs and separators are **single characters**. -/
theorem toList_separators : "-".toList = ['-'] ∧ "+".toList = ['+'] ∧ ":".toList = [':'] ∧
    "T".toList = ['T'] ∧ " ".toList = [' '] ∧ ".".toList = ['.'] := by decide

/-- An offset from UTC **as it is written**. -/
inductive WrittenOffset
  /-- The letter `Z`. -/
  | utc
  /-- Hours and minutes that a clock is ahead of UTC, or behind it. -/
  | clock (behind : Bool) (hour minute : Nat)

namespace WrittenOffset

/-- The text `Z`, `+HH:MM` or `-HH:MM`. -/
def text : WrittenOffset → String
  | utc => "Z"
  | clock behind hour minute =>
    (if behind then "-" else "+") ++ paddedDigits 2 hour ++ ":" ++ paddedDigits 2 minute

/-- The microseconds that a clock is ahead of UTC. -/
def micros : WrittenOffset → Int
  | utc => 0
  | clock behind hour minute =>
    let magnitude := (hour * 60 + minute) * 60000000
    if behind then -(magnitude : Int) else magnitude

/-- Whether hours and minutes are written in two digits. -/
def HasTwoDigits : WrittenOffset → Prop
  | utc => True
  | clock _ hour minute => hour < 100 ∧ minute < 100

/-- Whether the offset is of **less than a day**, and its minutes less than an hour. -/
def IsValid : WrittenOffset → Prop
  | utc => True
  | clock _ hour minute => hour < 24 ∧ minute < 60

instance (offset : WrittenOffset) : Decidable offset.IsValid := by
  cases offset <;> (unfold IsValid; infer_instance)

/-- Hours and minutes follow **a sign**. -/
theorem toList_text_clock (behind : Bool) (hour minute : Nat) :
    (clock behind hour minute).text.toList = (if behind then '-' else '+') ::
      ((paddedDigits 2 hour).toList ++ ':' :: (paddedDigits 2 minute).toList) := by
  obtain ⟨hdash, hplus, hcolon, -⟩ := toList_separators
  have hsign : (if behind then "-" else "+").toList = [if behind then '-' else '+'] := by
    cases behind
    · exact hplus
    · exact hdash
  simp only [text, String.toList_append, hsign, hcolon, List.append_assoc, List.cons_append,
    List.nil_append]

/-- A written offset **starts with a sign or a letter**, and has no point. -/
theorem toList_text (offset : WrittenOffset) :
    ∃ c s, offset.text.toList = c :: s ∧ isDigit c = false ∧ c ≠ '.' ∧ '.' ∉ s := by
  cases offset with
  | utc => exact ⟨'Z', [], rfl, by decide, by decide, by decide⟩
  | clock behind hour minute =>
    refine ⟨_, _, toList_text_clock behind hour minute, ?_, ?_, ?_⟩
    · cases behind <;> decide
    · cases behind <;> decide
    · intro h
      rw [List.mem_append, List.mem_cons] at h
      obtain h | h | h := h
      · exact absurd (isAsciiDigit_of_mem_paddedDigits h) (by decide)
      · exact absurd h (by decide)
      · exact absurd (isAsciiDigit_of_mem_paddedDigits h) (by decide)

end WrittenOffset

namespace Calendar.Timestamp

/-- Hours and minutes of two digits are read **if the minutes make no hour**. -/
theorem readOffsetMagnitude?_paddedDigits {hour minute : Nat} (hhour : hour < 100)
    (hminute : minute < 100) :
    readOffsetMagnitude? ((paddedDigits 2 hour).toList ++ ':' :: (paddedDigits 2 minute).toList)
      = if minute < 60 then some ((hour * 60 + minute) * 60000000) else none := by
  have hvalue := digitsToNat_paddedDigits 1 hour
  have hvalue' := digitsToNat_paddedDigits 1 minute
  have hdigits : ∀ n < 100, (isDigit (n / 10).digitChar && isDigit (n % 10).digitChar) = true := by
    decide
  have hlegal : ∀ n < 100, (isBetween '0' '5' (n / 10).digitChar && isDigit (n % 10).digitChar)
      = decide (n < 60) := by decide
  rw [toList_paddedDigits_two hhour] at hvalue ⊢
  rw [toList_paddedDigits_two hminute] at hvalue' ⊢
  have hcolon : (some ':' == some ':') = true := rfl
  simp only [List.cons_append, List.nil_append, readOffsetMagnitude?, hdigits hour hhour, if_true,
    List.head?_cons, hcolon, List.tail_cons, hlegal minute hminute, decide_eq_true_eq]
  by_cases hlt : minute < 60
  · have hmicros : (hour * 3600 + minute * 60) * 1000000 + 0 = (hour * 60 + minute) * 60000000 := by
      omega
    rw [if_pos hlt, if_pos hlt, hvalue, hvalue', ← hmicros]
    rfl
  · rw [if_neg hlt, if_neg hlt]

/-- A written offset is read **as its microseconds** if it is less than a day. -/
theorem readOffset?_text {offset : WrittenOffset} (h : offset.HasTwoDigits) :
    readOffset? offset.text.toList = if offset.IsValid then some offset.micros else none := by
  cases offset with
  | utc => rfl
  | clock behind hour minute =>
    obtain ⟨hhour, hminute⟩ := h
    have hletter : (if behind then '-' else '+') ≠ 'Z' := by cases behind <;> decide
    have hsign : (if behind then '-' else '+') = '+' ∨ (if behind then '-' else '+') = '-' := by
      cases behind
      · exact .inl rfl
      · exact .inr rfl
    rw [WrittenOffset.toList_text_clock, readOffset?, if_neg fun h => hletter h.1, if_pos hsign,
      readOffsetMagnitude?_paddedDigits hhour hminute]
    by_cases hvalid : (WrittenOffset.clock behind hour minute).IsValid
    · rw [if_pos hvalid]
      obtain ⟨hday, hlt⟩ := hvalid
      have hless : (hour * 60 + minute) * 60000000 < dayMicros := by
        rw [dayMicros]
        omega
      rw [if_pos hlt, Option.bind_some, if_pos hless, WrittenOffset.micros]
      generalize (hour * 60 + minute) * 60000000 = magnitude
      cases behind <;> rfl
    · rw [if_neg hvalid]
      -- minutes that make an hour are not read, hours that make a day are read and refused
      by_cases hlt : minute < 60
      · have hlong : ¬(hour * 60 + minute) * 60000000 < dayMicros := fun hless => by
          rw [dayMicros] at hless
          exact hvalid ⟨by omega, hlt⟩
        rw [if_pos hlt, Option.bind_some, if_neg hlong]
      · rw [if_neg hlt]
        rfl

end Calendar.Timestamp

/-! ## Texts -/

namespace Calendar.WallClock

/-- Whether the fields are written in **two digits**, the year in four. -/
def HasPaddedFields (w : WallClock) : Prop :=
  (0 ≤ w.date.year ∧ w.date.year < 10000) ∧ w.date.month < 100 ∧ w.date.day < 100 ∧
    w.hour < 100 ∧ w.minute < 100 ∧ w.second < 100

/-- Whether a clock can show the **whole seconds** of a reading, in the years 1 to 9999. -/
def ShowsSecond (w : WallClock) : Prop :=
  1 ≤ w.date.year ∧ w.date.year ≤ 9999 ∧ w.date.IsValid ∧
    w.hour < 24 ∧ w.minute < 60 ∧ w.second < 60

instance (w : WallClock) : Decidable w.ShowsSecond := by
  unfold ShowsSecond
  infer_instance

/-- The reading at a **fraction of its second**. -/
def withFraction (w : WallClock) (fraction : String) : WallClock :=
  { w with micro := microOf fraction }

/-- A clock shows a reading at a fraction **if it shows its second**. -/
theorem isValid_withFraction_iff {w : WallClock} {fraction : String}
    (h : ∀ c ∈ fraction.toList, isAsciiDigit c = true) :
    (w.withFraction fraction).IsValid ↔ w.ShowsSecond := by
  have hmicro := microOf_lt h
  simp only [IsValid, ShowsSecond, withFraction, hmicro, and_true]

/-- The fields of a second that a clock shows are **those that are read**. -/
theorem ShowsSecond.fields {w : WallClock} (h : w.ShowsSecond) :
    ((1 ≤ w.date.month ∧ w.date.month ≤ 12) ∧ 1 ≤ w.date.day ∧ w.date.day ≤ 31) ∧
      w.hour < 24 ∧ w.minute < 60 ∧ w.second < 62 := by
  obtain ⟨-, -, ⟨hmonth, hmonth', hday, hday'⟩, hhour, hminute, hsecond⟩ := h
  have hlength := Date.monthLength_le w.date.year w.date.month
  exact ⟨⟨⟨hmonth, hmonth'⟩, hday, hday'.trans hlength⟩, hhour, hminute, by omega⟩

/-- A reading that a clock shows is **the reading of its microseconds**. -/
theorem ofMicros_micros {w : WallClock} (h : w.IsValid) : ofMicros w.micros = w := by
  obtain ⟨-, -, hdate, hhour, hminute, hsecond, hmicro⟩ := h
  obtain ⟨date, hour, minute, second, micro⟩ := w
  simp only [ofMicros, micros, seconds] at *
  have hsplit : ((date.dayNumber * 86400 + hour * 3600 + minute * 60 + second) * 1000000 + micro)
      / 1000000 = date.dayNumber * 86400 + hour * 3600 + minute * 60 + second := by omega
  have hday : (date.dayNumber * 86400 + hour * 3600 + minute * 60 + second) / 86400
      = date.dayNumber := by omega
  rw [hsplit, hday, Date.ofDayNumber_dayNumber hdate]
  congr 1
  all_goals omega

/-- The text of a reading with **a fraction and an offset**. -/
def timestampText (w : WallClock) (fraction : String) (offset : WrittenOffset) : String :=
  paddedDigits 4 w.date.year.toNat ++ w.monthDayText ++ "T" ++ w.timeText ++
    (if fraction = "" then "" else "." ++ fraction) ++ offset.text

/-- The text of a reading in the **literal form**. -/
def literalText (w : WallClock) : String :=
  paddedDigits 4 w.date.year.toNat ++ w.monthDayText ++ " " ++ w.timeText

theorem toList_literalText (w : WallClock) :
    w.literalText.toList = Timestamp.dateChars w.date ++ ' ' :: Timestamp.timeChars w := by
  obtain ⟨hdash, -, hcolon, -, hblank, -⟩ := toList_separators
  simp only [literalText, monthDayText, timeText, Timestamp.dateChars, Timestamp.timeChars,
    String.toList_append, hdash, hcolon, hblank, List.append_assoc, List.cons_append,
    List.nil_append]

theorem toList_timestampText (w : WallClock) (fraction : String) (offset : WrittenOffset) :
    (w.timestampText fraction offset).toList = Timestamp.dateChars w.date ++ 'T' ::
      (Timestamp.timeChars w ++
        ((if fraction = "" then [] else '.' :: fraction.toList) ++ offset.text.toList)) := by
  obtain ⟨hdash, -, hcolon, hletter, -, hpoint⟩ := toList_separators
  have hfraction : (if fraction = "" then "" else "." ++ fraction).toList
      = if fraction = "" then [] else '.' :: fraction.toList := by
    by_cases hempty : fraction = ""
    · rw [if_pos hempty, if_pos hempty, String.toList_empty]
    · rw [if_neg hempty, if_neg hempty, String.toList_append, hpoint, List.cons_append,
        List.nil_append]
  simp only [timestampText, monthDayText, timeText, Timestamp.dateChars, Timestamp.timeChars,
    String.toList_append, hfraction, hdash, hcolon, hletter, List.append_assoc, List.cons_append,
    List.nil_append]

end Calendar.WallClock

/-! ## Reading -/

namespace Calendar.Timestamp

/-- The characters of dates and times of day are **no points**. -/
theorem point_notMem_fields {k n : Nat} : '.' ∉ (paddedDigits (k + 1) n).toList := fun h =>
  absurd (isAsciiDigit_of_mem_paddedDigits h) (by decide)

theorem point_notMem_dateChars (d : Date) : '.' ∉ dateChars d := by
  simp [dateChars, point_notMem_fields]

theorem point_notMem_timeChars (w : WallClock) : '.' ∉ timeChars w := by
  simp [timeChars, point_notMem_fields]

/-- The form with an offset is read **field by field**. -/
theorem readWithOffset?_eq (s : List Char) :
    readWithOffset? s = (readDate? s).bind fun a =>
      (readChar? (fun c => c == 'T' || c == 't') a.2).bind fun s =>
        (readTime? a.1 s).bind fun b => readRest? b.1 b.2 := rfl

/-- What follows whole seconds starts **with no digit**. -/
theorem readRest?_of_ne (clock : WallClock) {c : Char} (hc : c ≠ '.') (s : List Char) :
    readRest? clock (c :: s) = (readOffset? (c :: s)).map (clock, ·) := by
  rw [readRest?.eq_def]
  split
  · rename_i heq
    exact absurd (List.cons.inj heq).1 hc
  · cases readOffset? (c :: s) <;> rfl

theorem stopsAtDigit_readRest? : StopsAtDigit fun a : WallClock × List Char => readRest? a.1 a.2 := by
  intro clock c s hc
  have hletter : c ≠ 'Z' := ne_of_isAsciiDigit hc (by decide)
  have hplus : c ≠ '+' := ne_of_isAsciiDigit hc (by decide)
  have hminus : c ≠ '-' := ne_of_isAsciiDigit hc (by decide)
  have hoffset : readOffset? (c :: s) = none := by
    rw [readOffset?, if_neg fun h => hletter h.1, if_neg fun h => h.elim hplus hminus]
  show readRest? clock (c :: s) = none
  rw [readRest?_of_ne clock (ne_of_isAsciiDigit hc (by decide)), hoffset]
  rfl

/-- Up to six digits in front of another character are read **as a fraction**. -/
theorem readFraction?_append {digits : List Char} (hdigits : ∀ c ∈ digits, isAsciiDigit c = true)
    (hne : digits ≠ []) (hlength : digits.length ≤ 6) {c : Char} (hc : isAsciiDigit c = false)
    (s : List Char) : readFraction? (digits ++ c :: s) = some (fractionMicros digits, c :: s) := by
  have htake : ((digits ++ c :: s).takeWhile isAsciiDigit).take 6 = digits := by
    rw [List.takeWhile_append_of_pos hdigits,
      List.takeWhile_cons_of_neg (by rw [hc]; exact Bool.false_ne_true), List.append_nil,
      List.take_of_length_le hlength]
  rw [readFraction?, htake, if_neg (by rwa [List.isEmpty_iff]), List.drop_left]

/-- A written fraction and offset are read **as its first six digits** and its microseconds. -/
theorem readRest?_cutFraction {fraction : String}
    (hfraction : ∀ c ∈ fraction.toList, isAsciiDigit c = true) {offset : WrittenOffset}
    (hoffset : offset.HasTwoDigits) (w : WallClock) :
    readRest? { w with micro := 0 } (cutFraction
        ((if fraction = "" then [] else '.' :: fraction.toList) ++ offset.text.toList))
      = (if offset.IsValid then some offset.micros else none).map (w.withFraction fraction, ·) := by
  have hread := readOffset?_text hoffset
  obtain ⟨c, s, htext, hdigit, hpoint, hs⟩ := offset.toList_text
  have hcut : cutFraction (c :: s) = c :: s :=
    cutFraction_eq_self (List.not_mem_cons_of_ne_of_not_mem hpoint.symm hs)
  rw [htext] at hread ⊢
  by_cases hempty : fraction = ""
  · subst hempty
    rw [if_pos rfl, List.nil_append, hcut, readRest?_of_ne _ hpoint, hread]
    rfl
  · -- the offset starts with no digit, so it ends the digits that are cut and those that are read
    have hascii : isAsciiDigit c = false := by
      rw [Bool.eq_false_iff]
      intro hc
      exact Bool.noConfusion (hdigit.symm.trans (isDigit_of_isAsciiDigit hc))
    have hpart : cutFraction ('.' :: fraction.toList ++ c :: s)
        = '.' :: (fraction.toList.take 6 ++ c :: s) := by
      rw [List.cons_append, cutFraction, cutFrom, if_pos rfl,
        cutFrom_digits hfraction (Nat.zero_le 6) hdigit hpoint, cutFraction_eq_self hs]
    have hne : fraction.toList.take 6 ≠ [] := by
      rw [Ne, List.take_eq_nil_iff, String.toList_eq_nil_iff]
      exact fun h => h.elim (by decide) hempty
    have hmicro := readFraction?_append (fun d hd => hfraction d (List.mem_of_mem_take hd)) hne
      (List.length_take_le 6 _) hascii s
    rw [if_neg hempty, hpart, readRest?, hmicro, fractionMicros_take]
    show (readOffset? (c :: s)).bind _ = _
    rw [hread]
    split <;> rfl

/-- The literal form is read **in the same fields**, and is then at its end. -/
theorem readLiteral?_eq (s : List Char) :
    readLiteral? s = (readDate? s).bind fun a => (readChar? isBlank a.2).bind fun s =>
      (readTime? a.1 (s.dropWhile isBlank)).bind fun b =>
        if b.2.isEmpty then some (b.1, 0) else none := rfl

/-- A digit is **neither a letter nor a blank** between date and time. -/
theorem letter_of_isAsciiDigit (c : Char) (hc : isAsciiDigit c = true) :
    (c == 'T' || c == 't') = false := by
  have hupper : c ≠ 'T' := ne_of_isAsciiDigit hc (by decide)
  have hlower : c ≠ 't' := ne_of_isAsciiDigit hc (by decide)
  rw [beq_false_of_ne hupper, beq_false_of_ne hlower]
  rfl

theorem isBlank_of_isAsciiDigit (c : Char) (hc : isAsciiDigit c = true) : isBlank c = false := by
  have hall : ∀ n < 58, 48 ≤ n → isBlank (Char.ofNat n) = false := by decide
  obtain ⟨hlower, hupper⟩ := toNat_of_isAsciiDigit hc
  rw [← Char.ofNat_toNat c]
  exact hall _ (by omega) hlower

/-- The fields that are read make a moment if **a clock shows their second**. -/
theorem bind_moment?_of_fields (w : WallClock) {fraction : String}
    (hfraction : ∀ c ∈ fraction.toList, isAsciiDigit c = true) (offset : Option Int) :
    (if (1 ≤ w.date.month ∧ w.date.month ≤ 12) ∧ 1 ≤ w.date.day ∧ w.date.day ≤ 31 then
        if w.hour < 24 ∧ w.minute < 60 ∧ w.second < 62 then offset.map (w.withFraction fraction, ·)
        else none
      else none).bind moment?
      = if w.ShowsSecond then offset.map (⟨(w.withFraction fraction).micros, some ·⟩) else none := by
  have hvalid := WallClock.isValid_withFraction_iff (w := w) hfraction
  by_cases hshows : w.ShowsSecond
  · obtain ⟨hdate, htime⟩ := hshows.fields
    rw [if_pos hdate, if_pos htime, if_pos hshows]
    cases offset with
    | none => rfl
    | some offset => exact if_pos (hvalid.2 hshows)
  · -- whatever is read is refused
    have hnone : (offset.map (w.withFraction fraction, ·)).bind moment? = none := by
      cases offset with
      | none => rfl
      | some offset => exact if_neg fun h => hshows (hvalid.1 h)
    rw [if_neg hshows]
    split
    · split
      · exact hnone
      · rfl
    · rfl

section Forms

variable {w : WallClock} (hw : w.HasPaddedFields)
include hw

/-- The form with an offset accepts a text if **a clock shows its second** and its offset is valid. -/
theorem readWithOffset?_timestampText {fraction : String}
    (hfraction : ∀ c ∈ fraction.toList, isAsciiDigit c = true) {offset : WrittenOffset}
    (hoffset : offset.HasTwoDigits) :
    (readWithOffset? (cutFraction (w.timestampText fraction offset).toList)).bind moment?
      = if w.ShowsSecond ∧ offset.IsValid then
          some ⟨(w.withFraction fraction).micros, some offset.micros⟩
        else none := by
  obtain ⟨hyear, hmonth, hday, hhour, hminute, hsecond⟩ := hw
  have hcut : cutFraction (w.timestampText fraction offset).toList
      = dateChars w.date ++ 'T' :: (timeChars w ++ cutFraction
        ((if fraction = "" then [] else '.' :: fraction.toList) ++ offset.text.toList)) := by
    -- in front of the fraction there is no point, so nothing is cut there
    have hpoint : '.' ∉ dateChars w.date ++ 'T' :: timeChars w := by
      simp [point_notMem_dateChars, point_notMem_timeChars]
    have hcut := cutFraction_append hpoint
      ((if fraction = "" then [] else '.' :: fraction.toList) ++ offset.text.toList)
    rw [List.append_assoc, List.cons_append, List.append_assoc, List.cons_append] at hcut
    rw [w.toList_timestampText, hcut]
  rw [readWithOffset?_eq, hcut,
    readDate?_bind hyear hmonth hday (stopsAtDigit_readChar? letter_of_isAsciiDigit _)]
  simp only [readChar?_cons, beq_self_eq_true, Bool.true_or, if_true, Option.bind_some]
  rw [readTime?_bind hhour hminute hsecond stopsAtDigit_readRest?,
    readRest?_cutFraction hfraction hoffset, bind_moment?_of_fields w hfraction, ite_and]
  split
  · split <;> rfl
  · rfl

/-- The literal form accepts **no text with a letter** between date and time. -/
theorem readLiteral?_timestampText (fraction : String) (offset : WrittenOffset) :
    readLiteral? (w.timestampText fraction offset).toList = none := by
  obtain ⟨hyear, hmonth, hday, -⟩ := hw
  have hletter : isBlank 'T' = false := by decide
  rw [readLiteral?_eq, w.toList_timestampText,
    readDate?_bind hyear hmonth hday (stopsAtDigit_readChar? isBlank_of_isAsciiDigit _)]
  simp only [readChar?_cons, hletter, Bool.false_eq_true, if_false, Option.bind_none, ite_self]

/-- The form with an offset accepts **no text with a blank** between date and time. -/
theorem readWithOffset?_literalText : readWithOffset? (cutFraction w.literalText.toList) = none := by
  obtain ⟨hyear, hmonth, hday, -⟩ := hw
  have hpoint : '.' ∉ dateChars w.date ++ ' ' :: timeChars w := by
    simp [point_notMem_dateChars, point_notMem_timeChars]
  have hblank : (' ' == 'T' || ' ' == 't') = false := by decide
  rw [w.toList_literalText, cutFraction_eq_self hpoint, readWithOffset?_eq,
    readDate?_bind hyear hmonth hday (stopsAtDigit_readChar? letter_of_isAsciiDigit _)]
  simp only [readChar?_cons, hblank, Bool.false_eq_true, if_false, Option.bind_none, ite_self]

/-- The literal form accepts a text if **a clock shows its second**, in UTC. -/
theorem readLiteral?_literalText :
    (readLiteral? w.literalText.toList).bind moment?
      = if w.ShowsSecond then some ⟨(w.withFraction "").micros, some 0⟩ else none := by
  obtain ⟨hyear, hmonth, hday, hhour, hminute, hsecond⟩ := hw
  have hblank : isBlank ' ' = true := by decide
  have hstops : StopsAtDigit fun b : WallClock × List Char =>
      if b.2.isEmpty then some (b.1, (0 : Int)) else none := fun _ _ _ _ => rfl
  have hdrop : (timeChars w).dropWhile isBlank = timeChars w ++ [] := by
    have hdigit : isBlank (w.hour / 10).digitChar = false :=
      isBlank_of_isAsciiDigit _ (digitChar_of_lt_ten (by omega)).1
    rw [List.append_nil, timeChars, toList_paddedDigits_two hhour]
    exact List.dropWhile_cons_of_neg (by rw [hdigit]; exact Bool.false_ne_true)
  have hempty : ∀ c ∈ "".toList, isAsciiDigit c = true := by simp
  rw [readLiteral?_eq, w.toList_literalText,
    readDate?_bind hyear hmonth hday (stopsAtDigit_readChar? isBlank_of_isAsciiDigit _)]
  simp only [readChar?_cons, hblank, if_true, Option.bind_some]
  rw [hdrop, readTime?_bind hhour hminute hsecond hstops]
  exact bind_moment?_of_fields w hempty (some 0)

end Forms

end Calendar.Timestamp

/-- **Reading a timestamp inverts writing it.** The fields being of two digits, the year of four, a
reading with a fraction of any number of digits and an offset is read as the reading, at the
microseconds of the first six digits, with the microseconds of the offset, if a clock shows its
second and the offset is less than a day; otherwise its text is refused. The literal form is read as
the whole second in UTC, or refused. A reading that a clock shows can be told from its
microseconds. -/
theorem timestamps_read_what_is_written {w : WallClock} (hw : w.HasPaddedFields)
    {fraction : String} (hfraction : ∀ c ∈ fraction.toList, isAsciiDigit c = true)
    {offset : WrittenOffset} (hoffset : offset.HasTwoDigits) :
    (parseBound (w.timestampText fraction offset)
        = if w.ShowsSecond ∧ offset.IsValid then
            .ok ⟨(w.withFraction fraction).micros, some offset.micros⟩
          else .error (.malformedTimestamp (w.timestampText fraction offset))) ∧
      (parseBound w.literalText
        = if w.ShowsSecond then .ok ⟨(w.withFraction "").micros, some 0⟩
          else .error (.malformedTimestamp w.literalText)) ∧
      (w.ShowsSecond → ∀ digits ∈ [fraction, ""],
        WallClock.ofMicros (w.withFraction digits).micros = w.withFraction digits) := by
  have hempty : ∀ c ∈ "".toList, isAsciiDigit c = true := by simp
  refine ⟨?_, ?_, fun hshows digits hdigits => ?_⟩
  · rw [parseBound, Timestamp.parse?, Timestamp.readWithOffset?_timestampText hw hfraction hoffset,
      Timestamp.readLiteral?_timestampText hw]
    by_cases hvalid : w.ShowsSecond ∧ offset.IsValid
    · rw [if_pos hvalid, if_pos hvalid]
    · rw [if_neg hvalid, if_neg hvalid]
      rfl
  · rw [parseBound, Timestamp.parse?, Timestamp.readWithOffset?_literalText hw,
      Timestamp.readLiteral?_literalText hw]
    by_cases hshows : w.ShowsSecond
    · rw [if_pos hshows, if_pos hshows]
      rfl
    · rw [if_neg hshows, if_neg hshows]
      rfl
  · apply WallClock.ofMicros_micros
    rw [List.mem_cons, List.mem_singleton] at hdigits
    obtain rfl | rfl := hdigits
    · exact (WallClock.isValid_withFraction_iff hfraction).2 hshows
    · exact (WallClock.isValid_withFraction_iff hempty).2 hshows

/-- A second of a leap day with seven digits of a fraction is read **to the microsecond**; the day after
it is refused. -/
theorem leap_day_is_read_to_the_microsecond :
    parseBound "2024-02-29T23:59:58.1234567-09:30"
        = .ok ⟨1709251198123456, some (-34200000000)⟩ ∧
      parseBound "2024-02-29 23:59:58" = .ok ⟨1709251198000000, some 0⟩ ∧
      parseBound "2024-02-30T23:59:58.1234567-09:30"
        = .error (.malformedTimestamp "2024-02-30T23:59:58.1234567-09:30") := by
  have hdigits : ∀ c ∈ "1234567".toList, isAsciiDigit c = true :=
    List.all_eq_true.1 (by decide)
  have hoffset : (WrittenOffset.clock true 9 30).HasTwoDigits := ⟨by decide, by decide⟩
  have hleap : (⟨⟨2024, 2, 29⟩, 23, 59, 58, 0⟩ : WallClock).HasPaddedFields := by
    unfold WallClock.HasPaddedFields
    decide
  have hafter : (⟨⟨2024, 2, 30⟩, 23, 59, 58, 0⟩ : WallClock).HasPaddedFields := by
    unfold WallClock.HasPaddedFields
    decide
  obtain ⟨hread, hliteral, -⟩ := timestamps_read_what_is_written hleap hdigits hoffset
  obtain ⟨hrefused, -⟩ := timestamps_read_what_is_written hafter hdigits hoffset
  exact ⟨hread.trans (by decide), hliteral.trans (by decide), hrefused.trans (by decide)⟩

end ClusterMetrics
