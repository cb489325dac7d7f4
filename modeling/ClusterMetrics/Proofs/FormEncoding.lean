import ClusterMetrics.Api.QueryString
import Mathlib.Data.List.Forall2

/-! # Form encoding

A text can be form-encoded in many ways: a character stands for itself or for its bytes in UTF-8, each
as a percent sign and two digits of either case, and a space may also be a plus. However it is
encoded, it is read back, and so are the named values of a query string.

* **`SpelledBy`**: a text that is spelled character by character.
* **`FormSpells`**: the form encodings of a character. **`readPart_of_spelled`**: they are read back.
* **`QueryParams.Carries`**: the query strings that carry named values.
* **`QueryParams.parse_of_carries`**: reading inverts all of them.
* **`QueryParams.carries_render`**: writing is one of them. -/

namespace ClusterMetrics.Text

/-! ## Bytes of characters -/

namespace Utf8

/-- The **number of a character**: no surrogate, and below the end of Unicode. -/
theorem toNat_bounds (c : Char) : c.toNat < 0xd800 ∨ 0xdfff < c.toNat ∧ c.toNat < 0x110000 :=
  c.valid

theorem start_of_lt_80 {b : Nat} (h : b < 0x80) : start b = ([Char.ofNat b], none) := by
  rw [start, if_pos h]

/-- The lead byte of **two**. -/
theorem start_two {n : Nat} (hlow : 0x80 ≤ n) (hhigh : n < 0x800) :
    start (0xc0 + n / 0x40) = ([], some ⟨n / 0x40, 1, 0x80, 0xbf⟩) := by
  rw [start, if_neg (by omega), if_neg (by omega), if_pos (by omega), Nat.add_sub_cancel_left]

/-- The lead byte of **three**. -/
theorem start_three {n : Nat} (hhigh : n < 0x10000) :
    start (0xe0 + n / 0x1000) = ([], some ⟨n / 0x1000, 2, if n / 0x1000 = 0 then 0xa0 else 0x80,
      if n / 0x1000 = 0xd then 0x9f else 0xbf⟩) := by
  have hfirst : (0xe0 + n / 0x1000 = 0xe0) = (n / 0x1000 = 0) := by simp
  have hsurrogates : (0xe0 + n / 0x1000 = 0xed) = (n / 0x1000 = 0xd) := by
    rw [show 0xed = 0xe0 + 0xd from rfl, Nat.add_left_cancel_iff]
  rw [start, if_neg (by omega), if_neg (by omega), if_neg (by omega), if_pos (by omega),
    Nat.add_sub_cancel_left]
  simp only [hfirst, hsurrogates]

/-- The lead byte of **four**. -/
theorem start_four {n : Nat} (hhigh : n < 0x110000) :
    start (0xf0 + n / 0x40000) = ([], some ⟨n / 0x40000, 3,
      if n / 0x40000 = 0 then 0x90 else 0x80, if n / 0x40000 = 4 then 0x8f else 0xbf⟩) := by
  have hfirst : (0xf0 + n / 0x40000 = 0xf0) = (n / 0x40000 = 0) := by simp
  have hlast : (0xf0 + n / 0x40000 = 0xf4) = (n / 0x40000 = 4) := by
    rw [show 0xf4 = 0xf0 + 4 from rfl, Nat.add_left_cancel_iff]
  rw [start, if_neg (by omega), if_neg (by omega), if_neg (by omega), if_neg (by omega),
    if_pos (by omega), Nat.add_sub_cancel_left]
  simp only [hfirst, hlast]

/-- A byte in the **middle** of a character. -/
theorem step_middle {bits left low high b : Nat} (hlow : low ≤ b) (hhigh : b ≤ high)
    (hleft : left ≠ 1) :
    step (some ⟨bits, left, low, high⟩) b
      = ([], some ⟨bits * 0x40 + (b - 0x80), left - 1, 0x80, 0xbf⟩) := by
  simp only [step, hlow, hhigh, and_self, if_true, if_neg hleft]

/-- The **last** byte of a character. -/
theorem step_last {bits low high b : Nat} (hlow : low ≤ b) (hhigh : b ≤ high) :
    step (some ⟨bits, 1, low, high⟩) b = ([Char.ofNat (bits * 0x40 + (b - 0x80))], none) := by
  simp only [step, hlow, hhigh, and_self, if_true]

end Utf8

theorem readPieces_byte (pending : Option Utf8.Pending) (b : Nat) (rest : List Piece) :
    readPieces pending (.byte b :: rest)
      = (Utf8.step pending b).1 ++ readPieces (Utf8.step pending b).2 rest := rfl

/-- The bytes of a character are **read back**. -/
theorem readPieces_encodeChar (c : Char) (rest : List Piece) :
    readPieces none ((Utf8.encodeChar c).map .byte ++ rest) = c :: readPieces none rest := by
  have hchar : Char.ofNat c.toNat = c := Char.ofNat_toNat c
  have hbounds := Utf8.toNat_bounds c
  rw [Utf8.encodeChar]
  generalize c.toNat = n at hchar hbounds
  -- by how many bytes the character has: its bits are those of the bytes, put together again
  by_cases hone : n < 0x80
  · rw [Utf8.encodeNat, if_pos hone, List.map_singleton, List.singleton_append, readPieces_byte,
      Utf8.step, Utf8.start_of_lt_80 hone, hchar]
    rfl
  by_cases htwo : n < 0x800
  · have hbits : n / 0x40 * 0x40 + (0x80 + n % 0x40 - 0x80) = n := by omega
    rw [Utf8.encodeNat, if_neg hone, if_pos htwo]
    simp only [List.map_cons, List.map_nil, List.cons_append, List.nil_append, readPieces_byte]
    rw [Utf8.step, Utf8.start_two (by omega) htwo]
    simp only
    rw [Utf8.step_last (by omega) (by omega), hbits, hchar]
    rfl
  by_cases hthree : n < 0x10000
  · have hbits : (n / 0x1000 * 0x40 + (0x80 + n / 0x40 % 0x40 - 0x80)) * 0x40
        + (0x80 + n % 0x40 - 0x80) = n := by omega
    rw [Utf8.encodeNat, if_neg hone, if_neg htwo, if_pos hthree]
    simp only [List.map_cons, List.map_nil, List.cons_append, List.nil_append, readPieces_byte]
    rw [Utf8.step, Utf8.start_three hthree]
    simp only
    -- a character below 0x800 has fewer bytes, and the surrogates are no characters
    rw [Utf8.step_middle (by split <;> omega) (by split <;> omega) (by decide)]
    simp only
    rw [Utf8.step_last (by omega) (by omega), hbits, hchar]
    rfl
  · have hbits : ((n / 0x40000 * 0x40 + (0x80 + n / 0x1000 % 0x40 - 0x80)) * 0x40
        + (0x80 + n / 0x40 % 0x40 - 0x80)) * 0x40 + (0x80 + n % 0x40 - 0x80) = n := by omega
    rw [Utf8.encodeNat, if_neg hone, if_neg htwo, if_neg hthree]
    simp only [List.map_cons, List.map_nil, List.cons_append, List.nil_append, readPieces_byte]
    rw [Utf8.step, Utf8.start_four (by omega)]
    simp only
    rw [Utf8.step_middle (by split <;> omega) (by split <;> omega) (by decide)]
    simp only
    rw [Utf8.step_middle (by omega) (by omega) (by decide)]
    simp only
    rw [Utf8.step_last (by omega) (by omega), hbits, hchar]
    rfl

/-- The bytes of a text are **read back**. -/
theorem readPieces_encode (s : List Char) :
    readPieces none ((s.flatMap Utf8.encodeChar).map .byte) = s := by
  induction s with
  | nil => rfl
  | cons c s ih => rw [List.flatMap_cons, List.map_append, readPieces_encodeChar, ih]

/-! ## Hexadecimal digits -/

/-- The value of a digit **that is written**. -/
theorem hexValue?_hexDigit (n : Nat) : hexValue? (hexDigit n) = some (n % 16) := by
  have hdigits : ∀ k < 16, hexValue? (hexDigit k) = some k := by decide
  have hmod : hexDigit n = hexDigit (n % 16) := by simp only [hexDigit, Nat.mod_mod]
  rw [hmod, hdigits _ (Nat.mod_lt n (by decide))]

/-- The **ranges** of digits and letters. -/
theorem isAlphanum_iff {c : Char} : c.isAlphanum = true ↔
    (('A' ≤ c ∧ c ≤ 'Z') ∨ ('a' ≤ c ∧ c ≤ 'z')) ∨ ('0' ≤ c ∧ c ≤ '9') := by
  have halnum : c.isAlphanum = ((decide ('A' ≤ c ∧ c ≤ 'Z') ||
      decide ('a' ≤ c) && decide (c ≤ 'z')) || (decide ('0' ≤ c) && decide (c ≤ '9'))) := rfl
  simp only [halnum, Bool.or_eq_true, Bool.and_eq_true, decide_eq_true_eq]

/-- A hexadecimal digit is **a digit or a letter**. -/
theorem isAlphanum_of_hexValue? {c : Char} {n : Nat} (h : hexValue? c = some n) :
    c.isAlphanum = true := by
  rw [isAlphanum_iff]
  simp only [hexValue?] at h
  split at h
  · rename_i hdigit
    exact .inr hdigit
  split at h
  · rename_i hlower
    exact .inl (.inr ⟨hlower.1, Char.le_trans hlower.2 (by decide)⟩)
  split at h
  · rename_i hupper
    exact .inl (.inl ⟨hupper.1, Char.le_trans hupper.2 (by decide)⟩)
  · cases h

/-- Digits and letters are **ASCII**. -/
theorem toNat_lt_80_of_isAlphanum {c : Char} (h : c.isAlphanum = true) : c.toNat < 0x80 := by
  have hlast : c ≤ 'z' := by
    rcases isAlphanum_iff.1 h with (hupper | hlower) | hdigit
    · exact Char.le_trans hupper.2 (by decide)
    · exact hlower.2
    · exact Char.le_trans hdigit.2 (by decide)
  exact Nat.lt_of_le_of_lt (UInt32.le_iff_toNat_le.1 hlast) (by decide)

/-! ## Form encodings -/

/-- A text **spelled character by character**. -/
inductive SpelledBy (P : Char → List Char → Prop) : List Char → List Char → Prop
  | nil : SpelledBy P [] []
  | cons {c : Char} {s code rest : List Char} :
    P c code → SpelledBy P s rest → SpelledBy P (c :: s) (code ++ rest)

theorem spelledBy_flatMap {P : Char → List Char → Prop} {spell : Char → List Char}
    (h : ∀ c, P c (spell c)) (s : List Char) : SpelledBy P s (s.flatMap spell) := by
  induction s with
  | nil => exact .nil
  | cons c s ih => exact .cons (h c) ih

/-- What holds of the characters of every spelling holds of those **of a spelled text**. -/
theorem SpelledBy.forall {P : Char → List Char → Prop} {Q : Char → Prop}
    (h : ∀ c code, P c code → ∀ x ∈ code, Q x) {s code : List Char} (hs : SpelledBy P s code) :
    ∀ x ∈ code, Q x := by
  induction hs with
  | nil => simp
  | cons hc _ ih =>
    intro x hx
    rcases List.mem_append.1 hx with hx | hx
    · exact h _ _ hc x hx
    · exact ih x hx

/-- Bytes as **percent signs and digits**. -/
inductive EscapesBytes : List Nat → List Char → Prop
  | nil : EscapesBytes [] []
  | cons {b : Nat} {high low : Char} {bytes : List Nat} {code : List Char} :
    hexByte? high low = some b → EscapesBytes bytes code →
      EscapesBytes (b :: bytes) ('%' :: high :: low :: code)

/-- The **form encodings** of a character. -/
inductive FormSpells : Char → List Char → Prop
  | itself {c : Char} : c.toNat < 0x80 → c ∉ ['%', '+', '&', '='] → FormSpells c [c]
  | plus : FormSpells ' ' ['+']
  | escaped {c : Char} {code : List Char} : EscapesBytes (Utf8.encodeChar c) code → FormSpells c code

/-- Whether a character is **none that separates** the parts of a query string, and ASCII. -/
def IsFormChar (c : Char) : Prop := c.toNat < 0x80 ∧ c ≠ '&' ∧ c ≠ '='

theorem isFormChar_of_isAlphanum {c : Char} (h : c.isAlphanum = true) : IsFormChar c := by
  refine ⟨toNat_lt_80_of_isAlphanum h, ?_, ?_⟩ <;>
  · rintro rfl
    revert h
    decide

/-- The digits of a byte are **a digit or a letter** each. -/
theorem isAlphanum_of_hexByte? {high low : Char} {b : Nat} (h : hexByte? high low = some b) :
    high.isAlphanum = true ∧ low.isAlphanum = true := by
  obtain ⟨_, hhigh, h⟩ := Option.bind_eq_some_iff.1 h
  obtain ⟨_, hlow, -⟩ := Option.bind_eq_some_iff.1 h
  exact ⟨isAlphanum_of_hexValue? hhigh, isAlphanum_of_hexValue? hlow⟩

theorem isFormChar_of_escapesBytes {bytes : List Nat} {code : List Char}
    (h : EscapesBytes bytes code) : ∀ x ∈ code, IsFormChar x := by
  induction h with
  | nil => simp
  | cons hbyte _ ih =>
    obtain ⟨hhigh, hlow⟩ := isAlphanum_of_hexByte? hbyte
    simp only [List.forall_mem_cons]
    exact ⟨⟨by decide, by decide, by decide⟩, isFormChar_of_isAlphanum hhigh,
      isFormChar_of_isAlphanum hlow, ih⟩

/-- Form encodings **separate nothing**. -/
theorem isFormChar_of_formSpells {c : Char} {code : List Char} (h : FormSpells c code) :
    ∀ x ∈ code, IsFormChar x := by
  cases h with
  | itself hascii hmarks =>
    simp only [List.mem_cons, List.not_mem_nil, or_false, not_or] at hmarks
    simpa using ⟨hascii, hmarks.2.2.1, hmarks.2.2.2⟩
  | plus => simpa using ⟨by decide, by decide, by decide⟩
  | escaped hbytes => exact isFormChar_of_escapesBytes hbytes

/-! ## Reading form encodings -/

/-- A text with **spaces for pluses**. -/
def spaced (s : List Char) : List Char := s.map fun c => if c = '+' then ' ' else c

theorem spaced_append (s t : List Char) : spaced (s ++ t) = spaced s ++ spaced t := List.map_append

/-- A character other than the percent sign is **a piece**. -/
theorem pieces_cons_of_ne {c : Char} (h : c ≠ '%') (rest : List Char) :
    pieces (c :: rest) = .ofChar c :: pieces rest := by
  match rest with
  | [] => rfl
  | [a] => rfl
  | a :: b :: rest => rw [pieces, if_neg h]

/-- A percent sign and two digits are **a byte**. -/
theorem pieces_byte {high low : Char} {b : Nat} (h : hexByte? high low = some b)
    (rest : List Char) : pieces ('%' :: high :: low :: rest) = .byte b :: pieces rest := by
  rw [pieces, if_pos rfl, h]

theorem pieces_escapesBytes {bytes : List Nat} {code : List Char} (h : EscapesBytes bytes code)
    (rest : List Char) : pieces (spaced code ++ rest) = bytes.map .byte ++ pieces rest := by
  induction h with
  | nil => rfl
  | @cons b high low bytes code hbyte _ ih =>
    have hkept : ∀ {c : Char}, c.isAlphanum = true → (if c = '+' then ' ' else c) = c := by
      intro c hc
      refine if_neg ?_
      rintro rfl
      revert hc
      decide
    obtain ⟨hhigh, hlow⟩ := isAlphanum_of_hexByte? hbyte
    have hspaced : spaced ('%' :: high :: low :: code) = '%' :: high :: low :: spaced code := by
      rw [spaced, List.map_cons, List.map_cons, List.map_cons, hkept hhigh, hkept hlow]
      rfl
    rw [hspaced, List.cons_append, List.cons_append, List.cons_append, pieces_byte hbyte, ih]
    rfl

/-- The pieces of a form encoding are **the bytes** of the character. -/
theorem pieces_formSpells {c : Char} {code : List Char} (h : FormSpells c code)
    (rest : List Char) :
    pieces (spaced code ++ rest) = (Utf8.encodeChar c).map .byte ++ pieces rest := by
  have hone : ∀ {c : Char}, c.toNat < 0x80 → c ≠ '%' →
      pieces (c :: rest) = (Utf8.encodeChar c).map .byte ++ pieces rest := by
    intro c hascii hpercent
    rw [pieces_cons_of_ne hpercent, Piece.ofChar, if_pos hascii, Utf8.encodeChar, Utf8.encodeNat,
      if_pos hascii]
    rfl
  cases h with
  | itself hascii hmarks =>
    simp only [List.mem_cons, List.not_mem_nil, or_false, not_or] at hmarks
    have hspaced : spaced [c] = [c] := by rw [spaced, List.map_singleton, if_neg hmarks.2.1]
    rw [hspaced]
    exact hone hascii hmarks.1
  | plus => exact hone (by decide) (by decide)
  | escaped hbytes => exact pieces_escapesBytes hbytes rest

/-- The pieces of a form encoded text are **the bytes** of the text. -/
theorem pieces_spelled {s code : List Char} (h : SpelledBy FormSpells s code) :
    pieces (spaced code) = (s.flatMap Utf8.encodeChar).map .byte := by
  induction h with
  | nil => rfl
  | cons hc _ ih =>
    rw [spaced_append, pieces_formSpells hc, ih, List.flatMap_cons, List.map_append]

/-! ## Writing form encodings -/

/-- The bytes of a character **are bytes**. -/
theorem Utf8.lt_of_mem_encodeChar {c : Char} {b : Nat} (h : b ∈ Utf8.encodeChar c) : b < 0x100 := by
  have hbounds := Utf8.toNat_bounds c
  rw [Utf8.encodeChar, Utf8.encodeNat] at h
  split at h
  · rw [List.mem_singleton] at h
    omega
  split at h
  · simp only [List.mem_cons, List.not_mem_nil, or_false] at h
    omega
  split at h
  · simp only [List.mem_cons, List.not_mem_nil, or_false] at h
    omega
  · simp only [List.mem_cons, List.not_mem_nil, or_false] at h
    omega

/-- Bytes are **escaped** by a percent sign and two digits each. -/
theorem escapesBytes_flatMap {bytes : List Nat} (h : ∀ b ∈ bytes, b < 0x100) :
    EscapesBytes bytes (bytes.flatMap fun b => '%' :: hex 2 b) := by
  induction bytes with
  | nil => exact .nil
  | cons b bytes ih =>
    obtain ⟨hb, hbytes⟩ := List.forall_mem_cons.1 h
    have hbyte : hexByte? (hexDigit (b / 16)) (hexDigit b) = some b := by
      simp only [hexByte?, hexValue?_hexDigit, Option.bind_eq_bind, Option.bind_some,
        Option.pure_def, Option.some.injEq]
      omega
    exact .cons hbyte (ih hbytes)

/-- Percent-encoding is **a form encoding**. -/
theorem spelledBy_percentEncode (s : List Char) : SpelledBy FormSpells s (percentEncode s) := by
  refine spelledBy_flatMap (fun c => ?_) s
  split
  · rename_i hunreserved
    have hascii : c.toNat < 0x80 ∧ c ∉ ['%', '+', '&', '='] := by
      simp only [isUnreserved, Bool.or_eq_true, beq_iff_eq] at hunreserved
      rcases hunreserved with (((halnum | rfl) | rfl) | rfl) | rfl
      · refine ⟨toNat_lt_80_of_isAlphanum halnum, fun hmark => ?_⟩
        revert halnum
        simp only [List.mem_cons, List.not_mem_nil, or_false] at hmark
        rcases hmark with rfl | rfl | rfl | rfl <;> decide
      all_goals decide
    exact .itself hascii.1 hascii.2
  · exact .escaped (escapesBytes_flatMap fun b => Utf8.lt_of_mem_encodeChar)

end ClusterMetrics.Text

namespace ClusterMetrics.QueryParams

open ClusterMetrics.Text

/-! ## Query strings -/

/-- Form encoded parts are **read back**. -/
theorem readPart_of_spelled {s : String} {code : List Char}
    (h : SpelledBy FormSpells s.toList code) : readPart code = s := by
  have hpieces : readPart code = String.ofList (readPieces none (pieces (spaced code))) := rfl
  rw [hpieces, pieces_spelled h, readPieces_encode, String.ofList_toList]

/-- The **form encodings of a field**: a name, an equals sign and a value. -/
def SpellsField (field : String × String) (code : List Char) : Prop :=
  ∃ name value, SpelledBy FormSpells field.1.toList name ∧
    SpelledBy FormSpells field.2.toList value ∧ code = name ++ '=' :: value

/-- The query strings that **carry** named values: their form encodings, joined by ampersands. -/
def Carries (params : QueryParams) (queryString : String) : Prop :=
  ∃ codes, List.Forall₂ SpellsField params codes ∧
    queryString.toList = List.intercalate ['&'] codes

/-- A field is **read back**. -/
theorem readField_of_spellsField {field : String × String} {code : List Char}
    (h : SpellsField field code) : readField code = field := by
  obtain ⟨name, value, hname, hvalue, rfl⟩ := h
  have hnone : ∀ c ∈ name, (c != '=') = true := fun c hc => by
    simpa using (SpelledBy.forall (fun _ _ => isFormChar_of_formSpells) hname c hc).2.2
  rw [readField, List.takeWhile_append_of_pos hnone, List.dropWhile_append_of_pos hnone]
  simp [readPart_of_spelled hname, readPart_of_spelled hvalue]

/-- The characters of a field **separate no fields**, and a field has some. -/
theorem chars_of_spellsField {field : String × String} {code : List Char}
    (h : SpellsField field code) :
    (∀ c ∈ code, c.toNat < 0x80) ∧ '&' ∉ code ∧ code.isEmpty = false := by
  obtain ⟨name, value, hname, hvalue, rfl⟩ := h
  have hname := SpelledBy.forall (fun _ _ => isFormChar_of_formSpells) hname
  have hvalue := SpelledBy.forall (fun _ _ => isFormChar_of_formSpells) hvalue
  have hall : ∀ c ∈ name ++ '=' :: value, c.toNat < 0x80 ∧ c ≠ '&' := by
    simp only [List.forall_mem_append, List.forall_mem_cons]
    exact ⟨fun c hc => ⟨(hname c hc).1, (hname c hc).2.1⟩, ⟨by decide, by decide⟩,
      fun c hc => ⟨(hvalue c hc).1, (hvalue c hc).2.1⟩⟩
  exact ⟨fun c hc => (hall c hc).1, fun hmem => (hall '&' hmem).2 rfl, by cases name <;> rfl⟩

theorem fields_of_notMem {code : List Char} (h : '&' ∉ code) : fields code = [code] := by
  induction code with
  | nil => rfl
  | cons c code ih =>
    obtain ⟨hc, hcode⟩ := not_or.1 (mt List.mem_cons.2 h)
    rw [fields, ih hcode]
    exact if_neg (Ne.symm hc)

theorem fields_ne_nil (code : List Char) : fields code ≠ [] := by
  cases code with
  | nil => exact List.cons_ne_nil _ _
  | cons c code =>
    rw [fields]
    split
    · exact List.cons_ne_nil _ _
    · split <;> exact List.cons_ne_nil _ _

/-- A field ends **at the first ampersand**. -/
theorem fields_append {code : List Char} (h : '&' ∉ code) (rest : List Char) :
    fields (code ++ '&' :: rest) = code :: fields rest := by
  induction code with
  | nil =>
    rw [List.nil_append, fields]
    split
    · rename_i hnil
      exact absurd hnil (fields_ne_nil rest)
    · rename_i field more hfields
      rw [if_pos rfl, hfields]
  | cons c code ih =>
    obtain ⟨hc, hcode⟩ := not_or.1 (mt List.mem_cons.2 h)
    rw [List.cons_append, fields, ih hcode]
    exact if_neg (Ne.symm hc)

/-- Fields that are joined are **told apart**. -/
theorem fields_intercalate {codes : List (List Char)} (hnone : codes ≠ [])
    (h : ∀ code ∈ codes, '&' ∉ code) : fields (List.intercalate ['&'] codes) = codes := by
  induction codes with
  | nil => exact absurd rfl hnone
  | cons code codes ih =>
    obtain ⟨hcode, hcodes⟩ := List.forall_mem_cons.1 h
    cases codes with
    | nil => rw [List.intercalate_singleton, fields_of_notMem hcode]
    | cons next codes =>
      rw [List.intercalate_cons_cons, List.append_assoc, List.singleton_append,
        fields_append hcode, ih (List.cons_ne_nil _ _) hcodes]

/-- A text in ASCII **is its bytes**. -/
theorem byteText_of_ascii {s : List Char} (h : ∀ c ∈ s, c.toNat < 0x80) : byteText s = s := by
  induction s with
  | nil => rfl
  | cons c s ih =>
    obtain ⟨hc, hs⟩ := List.forall_mem_cons.1 h
    rw [byteText, List.flatMap_cons, ← byteText, ih hs, Utf8.encodeChar, Utf8.encodeNat, if_pos hc,
      List.map_singleton, Char.ofNat_toNat, List.singleton_append]

theorem ascii_intercalate {codes : List (List Char)}
    (h : ∀ code ∈ codes, ∀ c ∈ code, c.toNat < 0x80) :
    ∀ c ∈ List.intercalate ['&'] codes, c.toNat < 0x80 := by
  induction codes with
  | nil => simp
  | cons code codes ih =>
    obtain ⟨hcode, hcodes⟩ := List.forall_mem_cons.1 h
    cases codes with
    | nil => simpa using hcode
    | cons next codes =>
      rw [List.intercalate_cons_cons]
      simp only [List.forall_mem_append, List.mem_singleton, forall_eq]
      exact ⟨⟨hcode, by decide⟩, ih hcodes⟩

/-- Fields are **read back**, and none of them is skipped or taken apart. -/
theorem readFields {params : QueryParams} {codes : List (List Char)}
    (h : List.Forall₂ SpellsField params codes) :
    codes.map readField = params ∧
      ∀ code ∈ codes, (∀ c ∈ code, c.toNat < 0x80) ∧ '&' ∉ code ∧ code.isEmpty = false := by
  induction h with
  | nil => exact ⟨rfl, by simp⟩
  | cons hfield _ ih =>
    refine ⟨?_, List.forall_mem_cons.2 ⟨chars_of_spellsField hfield, ih.2⟩⟩
    rw [List.map_cons, readField_of_spellsField hfield, ih.1]

/-- **Reading inverts form encoding**: whatever query string carries named values, they are read. -/
theorem parse_of_carries {params : QueryParams} {queryString : String}
    (h : params.Carries queryString) : parse queryString = params := by
  obtain ⟨codes, hcodes, hquery⟩ := h
  obtain ⟨hread, hchars⟩ := readFields hcodes
  rw [parse, hquery, byteText_of_ascii (ascii_intercalate fun code hcode => (hchars code hcode).1)]
  cases codes with
  | nil =>
    -- no fields are one empty field, which is skipped
    rw [← hread]
    rfl
  | cons code codes =>
    rw [fields_intercalate (List.cons_ne_nil _ _) fun code hcode => (hchars code hcode).2.1,
      List.filter_eq_self.2 fun code hcode => by rw [(hchars code hcode).2.2]; rfl, hread]

/-- Named values are **written** in one of the forms that carry them. -/
theorem carries_render (params : QueryParams) : params.Carries params.render := by
  refine ⟨params.map renderField, ?_, String.toList_ofList⟩
  rw [List.forall₂_map_right_iff, List.forall₂_same]
  exact fun field _ =>
    ⟨_, _, spelledBy_percentEncode _, spelledBy_percentEncode _, rfl⟩

end ClusterMetrics.QueryParams
