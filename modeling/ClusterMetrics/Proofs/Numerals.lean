import ClusterMetrics.Proofs.ResolvedScopes
import ClusterMetrics.Record.Coerce
import Mathlib.Data.List.Induction
import Mathlib.Data.Nat.Digits.Defs

/-! # Numerals of identifiers

A canonical numeral is the text that its number is written as, so a text is the numeral of at most
one number, and the number of its digits bounds the number.

* **`digitsToNat_toDigits`**, **`toDigits_digitsToNat`**: reading and writing undo each other.
* **`isCanonicalId_iff`**: the canonical numerals are those of positive numbers.
* **`parseId_numeral`**, **`parseId_of_no_numeral`**: what becomes of a text as an identifier. -/

namespace ClusterMetrics

open ClusterMetrics.Text

/-! ## Digits -/

namespace Text

theorem isAsciiDigit_iff_isDigit (c : Char) : isAsciiDigit c = true ↔ c.isDigit = true := by
  rw [Char.isDigit_iff_toNat]
  constructor
  · exact toNat_of_isAsciiDigit
  · rintro ⟨hlo, hhi⟩
    rw [isAsciiDigit, asciiDigit?, if_pos ⟨hlo, hhi⟩]
    rfl

/-- Digits are read **one after the other**. -/
theorem digitsToNat_concat (s : List Char) (c : Char) :
    digitsToNat (s ++ [c]) = 10 * digitsToNat s + (digitValue? c).getD 0 := by
  rw [digitsToNat, List.foldl_append]
  rfl

end Text

/-- The digits of a number are read as **the number**. -/
theorem digitsToNat_toDigits (n : Nat) : digitsToNat (Nat.toDigits 10 n) = n := by
  have hread : ∀ (s : List Char) (m : Nat), (∀ c ∈ s, c.isDigit = true) →
      s.foldl (fun n c => 10 * n + (digitValue? c).getD 0) m = Nat.ofDigitChars 10 s m := by
    intro s m hs
    rw [Nat.ofDigitChars_eq_foldl]
    induction s generalizing m with
    | nil => rfl
    | cons c s ih =>
      obtain ⟨hc, hs⟩ := List.forall_mem_cons.1 hs
      rw [List.foldl_cons, List.foldl_cons, ih _ hs,
        digitValue?_of_isAsciiDigit ((isAsciiDigit_iff_isDigit c).2 hc)]
      rfl
  rw [digitsToNat, hread _ _ fun c hc => Nat.isDigit_of_mem_toDigits (by decide) (by decide) hc]
  exact Nat.ofDigitChars_ten_toDigits

/-- A number below ten is written as **the ASCII digit** that is read as it. -/
theorem digitChar_of_lt_ten {d : Nat} (hd : d < 10) :
    isAsciiDigit d.digitChar = true ∧ d.digitChar.toNat = d + 48 := by
  have hall : ∀ d < 10, isAsciiDigit d.digitChar = true ∧ d.digitChar.toNat = d + 48 := by
    decide
  exact hall d hd

/-- A numeral of several digits is **its head and its last digit**. -/
theorem toDigits_ten_mul_add {m d : Nat} (hm : 0 < m) (hd : d < 10) :
    Nat.toDigits 10 (10 * m + d) = Nat.toDigits 10 m ++ [d.digitChar] := by
  rw [← Nat.toDigits_append_toDigits (by decide) hm hd, Nat.toDigits_of_lt_base hd]

/-- The digits of a **positive** number are a canonical numeral. -/
theorem isCanonicalId_toDigits {n : Nat} (hn : 0 < n) :
    isCanonicalId (Nat.toDigits 10 n) = true := by
  induction n using Nat.strongRecOn with
  | ind n ih =>
    by_cases hten : n < 10
    · obtain ⟨hdigit, hcode⟩ := digitChar_of_lt_ten hten
      have hzero : n.digitChar ≠ '0' := by
        intro h
        rw [h] at hcode
        exact absurd hcode.symm (by simp [Nat.ne_of_gt hn])
      simp [Nat.toDigits_of_lt_base hten, isCanonicalId, hdigit, hzero]
    · -- the last digit does not matter to the first one
      have hsplit : n = 10 * (n / 10) + n % 10 := (Nat.div_add_mod n 10).symm
      have hlast : n % 10 < 10 := Nat.mod_lt n (by decide)
      have hhead : 0 < n / 10 := by omega
      have hcanonical := ih (n / 10) (by omega) hhead
      rw [hsplit, toDigits_ten_mul_add hhead hlast]
      cases hdigits : Nat.toDigits 10 (n / 10) with
      | nil => exact absurd hdigits Nat.toDigits_ne_nil
      | cons c rest =>
        rw [hdigits] at hcanonical
        have hdigit := (digitChar_of_lt_ten hlast).1
        simp only [isCanonicalId, Bool.and_eq_true] at hcanonical
        simp [isCanonicalId, hcanonical, hdigit]

/-- A canonical numeral is **written back** as it was. -/
theorem toDigits_digitsToNat {s : List Char} (h : isCanonicalId s = true) :
    Nat.toDigits 10 (digitsToNat s) = s := by
  induction s using List.reverseRecOn with
  | nil => simp [isCanonicalId] at h
  | append_singleton s c ih =>
    have hvalue : ∀ d, isAsciiDigit d = true →
        (digitValue? d).getD 0 < 10 ∧ ((digitValue? d).getD 0).digitChar = d := by
      intro d hd
      obtain ⟨hlo, hhi⟩ := toNat_of_isAsciiDigit hd
      rw [digitValue?_of_isAsciiDigit hd, Option.getD_some]
      have hlt : d.toNat - 48 < 10 := by omega
      refine ⟨hlt, Char.toNat_inj.1 ?_⟩
      rw [(digitChar_of_lt_ten hlt).2]
      omega
    rw [digitsToNat_concat]
    cases s with
    | nil =>
      simp only [List.nil_append, isCanonicalId, Bool.and_eq_true] at h
      obtain ⟨hlt, hchar⟩ := hvalue c h.1.2
      rw [digitsToNat_nil, Nat.mul_zero, Nat.zero_add, Nat.toDigits_of_lt_base hlt, hchar]
      rfl
    | cons first rest =>
      simp only [List.cons_append, isCanonicalId, List.all_append, Bool.and_eq_true] at h
      obtain ⟨hfirst, hrest, hc⟩ := h
      have hhead : isCanonicalId (first :: rest) = true := by
        simp only [isCanonicalId, Bool.and_eq_true]
        exact ⟨hfirst, hrest⟩
      obtain ⟨hlt, hchar⟩ := hvalue c (by simpa using hc)
      rw [toDigits_ten_mul_add (digitsToNat_pos hhead) hlt, ih hhead, hchar]

/-- The canonical numerals are **those of positive numbers**. -/
theorem isCanonicalId_iff {text : String} :
    isCanonicalId text.toList = true ↔ ∃ n : Nat, 0 < n ∧ text = toString n := by
  constructor
  · intro h
    refine ⟨digitsToNat text.toList, digitsToNat_pos h, ?_⟩
    rw [Nat.toString_eq_ofList_toDigits, toDigits_digitsToNat h, String.ofList_toList]
  · rintro ⟨n, hn, rfl⟩
    rw [Nat.toString_eq_ofList_toDigits, String.toList_ofList]
    exact isCanonicalId_toDigits hn

/-! ## Identifiers -/

/-- A numeral has at most a number of digits if its number is below **that power of ten**. -/
theorem length_toString_le_iff {n k : Nat} (hk : 0 < k) :
    (toString n).length ≤ k ↔ n < 10 ^ k := by
  rw [Nat.toString_eq_ofList_toDigits, String.length_ofList]
  exact Nat.length_toDigits_le_iff (by decide) hk

/-- The numeral of a positive number is read, unless it has **too many digits**. -/
theorem parseId_numeral (name : IdName) {n : Nat} (hn : 0 < n) :
    parseId name (some (toString n))
      = if n < 10 ^ numeralLimit then .ok (some n) else .error .numeralTooLong := by
  have hcanonical : isCanonicalId (toString n).toList = true := isCanonicalId_iff.2 ⟨n, hn, rfl⟩
  have hne : toString n ≠ "" := by
    intro h
    rw [h] at hcanonical
    exact absurd hcanonical (by decide)
  have hvalue : digitsToNat (toString n).toList = n := by
    rw [Nat.toString_eq_ofList_toDigits, String.toList_ofList, digitsToNat_toDigits]
  have hlength : numeralLimit < (toString n).length ↔ ¬n < 10 ^ numeralLimit := by
    rw [← length_toString_le_iff (by decide), Nat.not_le]
  rw [parseId, if_neg hne, hcanonical, hvalue]
  by_cases hlt : n < 10 ^ numeralLimit
  · rw [if_neg (by simp), if_neg (fun h => hlength.1 h hlt), if_pos hlt]
  · rw [if_neg (by simp), if_pos (hlength.2 hlt), if_neg hlt]

/-- A stored number has **fewer digits** than are converted. -/
theorem lt_limit_of_fits64 {n : Nat} (h : fits64 n = true) : n < 10 ^ numeralLimit := by
  simp only [fits64, Bool.and_eq_true, decide_eq_true_eq] at h
  have hlt : n < 2 ^ 63 := by exact_mod_cast h.2
  calc n < 2 ^ 63 := hlt
    _ ≤ 10 ^ 63 := Nat.pow_le_pow_left (by decide) 63
    _ ≤ 10 ^ numeralLimit := Nat.pow_le_pow_right (by decide) (by decide)

/-- A text that is no numeral of a positive number is **a fault of the request**. -/
theorem parseId_of_no_numeral (name : IdName) {text : String} (hne : text ≠ "")
    (h : ∀ n : Nat, 0 < n → text ≠ toString n) :
    parseId name (some text) = .error (.parameter (.malformedId name text)) := by
  have hcanonical : isCanonicalId text.toList = false := by
    rw [Bool.eq_false_iff]
    intro hcanonical
    obtain ⟨n, hn, htext⟩ := isCanonicalId_iff.1 hcanonical
    exact h n hn htext
  rw [parseId, if_neg hne, hcanonical]
  rfl

end ClusterMetrics
