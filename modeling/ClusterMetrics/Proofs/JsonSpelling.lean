import ClusterMetrics.Json.Reader
import ClusterMetrics.Json.Writer
import ClusterMetrics.Proofs.FormEncoding

/-! # Spellings of JSON

A value made of texts, lists and objects can be written as JSON in many ways: a character of a string
stands for itself or is escaped, by one letter or by one or two code units, and white space may stand
around every token. However it is written, it is read back.

* **`Json.CharSpells`**: the spellings of a character in a string literal.
* **`Json.Spells`**: the spellings of a value, by how deep it nests.
* **`Json.readValue?_of_spells`**: a spelled value is read, whatever follows.
* **`Json.IsSpelling`**, **`Json.parse?_of_isSpelling`**: reading inverts all spellings.
* **`Json.bracketed_render_list`**, **`Json.bracketed_render_dict`**: writing is one of them. -/

namespace ClusterMetrics.Json

open ClusterMetrics.Text

/-! ## Spellings -/

/-- **White space** between tokens. -/
def IsSpaces (s : List Char) : Prop := ∀ c ∈ s, isSpace c = true

/-- The **spellings of a character** in a string literal. -/
inductive CharSpells : Char → List Char → Prop
  | itself {c : Char} : c ≠ doubleQuote → c ≠ backslash → 0x20 ≤ c.toNat → CharSpells c [c]
  | letter {c e : Char} : simpleEscape? e = some c → CharSpells c [backslash, e]
  | unit {c : Char} {digits : List Char} :
    readHex4? digits = some (c.toNat, []) → CharSpells c (backslash :: 'u' :: digits)
  | pair {c : Char} {high low : Nat} {first second : List Char} :
    readHex4? first = some (high, []) → isHighSurrogate high = true →
    readHex4? second = some (low, []) → isLowSurrogate low = true →
    c.toNat = 0x10000 + (high - 0xd800) * 0x400 + (low - 0xdc00) →
      CharSpells c (backslash :: 'u' :: (first ++ backslash :: 'u' :: second))

/-- Whether a literal is **a string** of some characters. -/
def IsLiteral (s : String) (code : List Char) : Prop :=
  ∃ body, SpelledBy CharSpells s.toList body ∧ code = doubleQuote :: (body ++ [doubleQuote])

/-- The spellings of elements **separated by commas**, with the bracket that closes them. -/
inductive Separated {α : Type} (P : α → List Char → Prop) (close : Char) :
    List α → List Char → Prop
  | last {a : α} {code before after : List Char} :
    P a code → IsSpaces before → IsSpaces after →
      Separated P close [a] (before ++ (code ++ (after ++ [close])))
  | more {a b : α} {l : List α} {code before after rest : List Char} :
    P a code → IsSpaces before → IsSpaces after → Separated P close (b :: l) rest →
      Separated P close (a :: b :: l) (before ++ (code ++ (after ++ ',' :: rest)))

/-- The spellings of elements **in brackets**. -/
inductive Bracketed {α : Type} (P : α → List Char → Prop) (opening close : Char) :
    List α → List Char → Prop
  | none {inner : List Char} :
    IsSpaces inner → Bracketed P opening close [] (opening :: (inner ++ [close]))
  | some {l : List α} {inner : List Char} :
    Separated P close l inner → Bracketed P opening close l (opening :: inner)

/-- The spellings of **an entry**: a literal, a colon and a value. -/
def SpellsEntry (P : Value → List Char → Prop) (entry : String × Value) (code : List Char) : Prop :=
  ∃ key after before value, IsLiteral entry.1 key ∧ IsSpaces after ∧ IsSpaces before ∧
    P entry.2 value ∧ code = key ++ (after ++ ':' :: (before ++ value))

/-- The **spellings of a value** that is made of texts, and of lists and objects that nest at most so
deep. -/
def Spells : Nat → Value → List Char → Prop
  | _, .text s, code => IsLiteral s code
  | depth + 1, .list items, code => Bracketed (Spells depth) '[' ']' items code
  | depth + 1, .dict entries, code =>
      Bracketed (SpellsEntry (Spells depth)) '\x7b' '\x7d' entries code
  | _, _, _ => False

/-- Whether a text is **a spelling of a value**, with white space around it. -/
def IsSpelling (v : Value) (text : String) : Prop :=
  ∃ before code after, IsSpaces before ∧ Spells depthLimit v code ∧ IsSpaces after ∧
    text.toList = before ++ (code ++ after)

theorem spells_text {depth : Nat} {s : String} {code : List Char} :
    Spells depth (.text s) code ↔ IsLiteral s code := by
  cases depth <;> exact Iff.rfl

/-! ## White space -/

theorem skipSpace_append {before : List Char} (h : IsSpaces before) (s : List Char) :
    skipSpace (before ++ s) = skipSpace s :=
  List.dropWhile_append_of_pos h

/-- Text that starts with **a token** is not skipped. -/
theorem skipSpace_cons {c : Char} (h : isSpace c = false) (s : List Char) :
    skipSpace (c :: s) = c :: s :=
  List.dropWhile_cons_of_neg (by simp [h])

theorem skipSpace_skipSpace (s : List Char) : skipSpace (skipSpace s) = skipSpace s := by
  induction s with
  | nil => rfl
  | cons c s ih =>
    cases hc : isSpace c with
    | true => rw [show skipSpace (c :: s) = skipSpace s from List.dropWhile_cons_of_pos hc, ih]
    | false => rw [skipSpace_cons hc, skipSpace_cons hc]

/-- Values are read **after white space**. -/
theorem readValue?_congr {fuel depth : Nat} {s t : List Char} (h : skipSpace s = skipSpace t) :
    readValue? fuel depth s = readValue? fuel depth t := by
  cases fuel with
  | zero => rfl
  | succ fuel => rw [readValue?, readValue?, h]

theorem readItems?_congr {fuel depth : Nat} {s t : List Char} (h : skipSpace s = skipSpace t) :
    readItems? fuel depth s = readItems? fuel depth t := by
  cases fuel with
  | zero => rfl
  | succ fuel => rw [readItems?, readItems?, readValue?_congr h]

theorem readEntries?_congr {fuel depth : Nat} {s t : List Char} (h : skipSpace s = skipSpace t) :
    readEntries? fuel depth s = readEntries? fuel depth t := by
  cases fuel with
  | zero => rfl
  | succ fuel => rw [readEntries?, readEntries?, h]

/-! ## String literals -/

/-- Four digits are read **whatever follows**. -/
theorem readHex4?_append {digits : List Char} {n : Nat} (h : readHex4? digits = some (n, []))
    (rest : List Char) : readHex4? (digits ++ rest) = some (n, rest) := by
  match digits, h with
  | [a, b, c, d], h =>
    simp only [readHex4?, List.cons_append, List.nil_append, Option.bind_eq_bind,
      Option.bind_eq_some_iff, Option.pure_def, Option.some.injEq, Prod.mk.injEq] at h ⊢
    obtain ⟨a', ha, b', hb, c', hc, d', hd, hn, -⟩ := h
    exact ⟨a', ha, b', hb, c', hc, d', hd, hn, trivial⟩
  | a :: b :: c :: d :: e :: more, h =>
    simp only [readHex4?, Option.bind_eq_bind, Option.bind_eq_some_iff, Option.pure_def,
      Option.some.injEq, Prod.mk.injEq, reduceCtorEq, and_false, exists_false] at h

/-- A code unit that is no surrogate is **a character**. -/
theorem readUnicode?_unit {digits : List Char} {c : Char}
    (h : readHex4? digits = some (c.toNat, [])) (rest : List Char) :
    readUnicode? (digits ++ rest) = some (c, rest) := by
  -- no character is a surrogate, so that the code unit stands alone
  have hbounds := Utf8.toNat_bounds c
  have hhigh : isHighSurrogate c.toNat = false := by
    simp only [isHighSurrogate, Bool.and_eq_false_iff, decide_eq_false_iff_not]
    omega
  have hlow : isLowSurrogate c.toNat = false := by
    simp only [isLowSurrogate, Bool.and_eq_false_iff, decide_eq_false_iff_not]
    omega
  simp only [readUnicode?, readHex4?_append h, Option.bind_eq_bind, Option.bind_some, hhigh, hlow,
    Bool.false_eq_true, if_false, Char.ofNat_toNat, Option.pure_def]

/-- Two code units that are surrogates are **one character**. -/
theorem readUnicode?_pair {first second : List Char} {high low : Nat} {c : Char}
    (hfirst : readHex4? first = some (high, [])) (hhigh : isHighSurrogate high = true)
    (hsecond : readHex4? second = some (low, [])) (hlow : isLowSurrogate low = true)
    (hc : c.toNat = 0x10000 + (high - 0xd800) * 0x400 + (low - 0xdc00)) (rest : List Char) :
    readUnicode? (first ++ backslash :: 'u' :: second ++ rest) = some (c, rest) := by
  rw [List.append_assoc, List.cons_append, List.cons_append]
  simp only [readUnicode?, readHex4?_append hfirst, readHex4?_append hsecond, Option.bind_eq_bind,
    Option.bind_some, hhigh, hlow, if_true, and_self, ← hc, Char.ofNat_toNat, Option.pure_def]

/-- A literal ends **at a quote**. -/
theorem readString?_quote (fuel : Nat) (rest : List Char) :
    readString? (fuel + 1) (doubleQuote :: rest) = some ([], rest) := by
  cases rest <;> rfl

/-- A character that is no quote, backslash or control character **stands for itself**. -/
theorem readString?_itself {c : Char} (hquote : c ≠ doubleQuote) (hbackslash : c ≠ backslash)
    (hcontrol : 0x20 ≤ c.toNat) (fuel : Nat) (rest : List Char) :
    readString? (fuel + 1) (c :: rest) = (readString? fuel rest).map fun r => (c :: r.1, r.2) :=
  (if_neg hquote).trans ((if_neg hbackslash).trans (if_neg (Nat.not_lt.2 hcontrol)))

/-- After a backslash comes **an escape**. -/
theorem readString?_escape {e c : Char} {s rest : List Char}
    (h : (if e = 'u' then readUnicode? s else (simpleEscape? e).map (·, s)) = some (c, rest))
    (fuel : Nat) :
    readString? (fuel + 1) (backslash :: e :: s)
      = (readString? fuel rest).map fun r => (c :: r.1, r.2) := by
  rw [readString?, if_neg (by decide), if_pos rfl, h]

/-- A spelled character is **read**, whatever follows. -/
theorem readString?_of_charSpells {c : Char} {code : List Char} (h : CharSpells c code)
    (fuel : Nat) (rest : List Char) :
    readString? (fuel + 1) (code ++ rest)
      = (readString? fuel rest).map fun r => (c :: r.1, r.2) := by
  cases h with
  | itself hquote hbackslash hcontrol =>
    exact readString?_itself hquote hbackslash hcontrol fuel rest
  | letter he =>
    refine readString?_escape ?_ fuel
    have hnone : simpleEscape? 'u' = none := by decide
    rw [if_neg (fun hu => by rw [hu, hnone] at he; cases he), he]
    rfl
  | unit hdigits =>
    refine readString?_escape ?_ fuel
    rw [if_pos rfl]
    exact readUnicode?_unit hdigits rest
  | pair hfirst hhigh hsecond hlow hc =>
    refine readString?_escape ?_ fuel
    rw [if_pos rfl]
    exact readUnicode?_pair hfirst hhigh hsecond hlow hc rest

theorem length_pos_of_charSpells {c : Char} {code : List Char} (h : CharSpells c code) :
    0 < code.length := by
  cases h <;> simp

/-- A spelled text is read **up to its closing quote**. -/
theorem readString?_of_spelled {s body : List Char} (h : SpelledBy CharSpells s body) {fuel : Nat}
    (hfuel : body.length < fuel) (rest : List Char) :
    readString? fuel (body ++ doubleQuote :: rest) = some (s, rest) := by
  -- a character takes one unit of fuel, and every spelling of it has a character at least
  induction h generalizing fuel with
  | nil =>
    obtain ⟨fuel, rfl⟩ := Nat.exists_eq_add_one_of_ne_zero (Nat.ne_of_gt hfuel)
    exact readString?_quote fuel rest
  | @cons c s code body hc _ ih =>
    have hcode := length_pos_of_charSpells hc
    rw [List.length_append] at hfuel
    obtain ⟨fuel, rfl⟩ := Nat.exists_eq_add_one_of_ne_zero (n := fuel) (by omega)
    rw [List.append_assoc, readString?_of_charSpells hc, ih (by omega)]
    rfl

/-! ## Tokens -/

/-- The characters that **a value starts with**. -/
def openings : List Char := [doubleQuote, '[', '\x7b']

/-- Whether spellings **start with a token**. -/
def StartsOpen {α : Type} (P : α → List Char → Prop) : Prop :=
  ∀ a code, P a code → ∃ c ∈ openings, ∃ more, code = c :: more

theorem isSpace_of_mem_openings {c : Char} (h : c ∈ openings) : isSpace c = false := by
  simp only [openings, List.mem_cons, List.not_mem_nil, or_false] at h
  rcases h with rfl | rfl | rfl <;> rfl

theorem starts_of_bracketed {α : Type} {P : α → List Char → Prop} {opening close : Char}
    (hopening : opening ∈ openings) {l : List α} {code : List Char}
    (h : Bracketed P opening close l code) : ∃ c ∈ openings, ∃ more, code = c :: more := by
  cases h <;> exact ⟨opening, hopening, _, rfl⟩

theorem startsOpen_spells (depth : Nat) : StartsOpen (Spells depth) := by
  intro v code h
  cases v with
  | text s =>
    obtain ⟨body, -, rfl⟩ := spells_text.1 h
    exact ⟨_, by decide, _, rfl⟩
  | list items =>
    cases depth with
    | zero => exact h.elim
    | succ depth => exact starts_of_bracketed (by decide) h
  | dict entries =>
    cases depth with
    | zero => exact h.elim
    | succ depth => exact starts_of_bracketed (by decide) h
  | _ => cases depth <;> exact h.elim

theorem startsOpen_entry (P : Value → List Char → Prop) : StartsOpen (SpellsEntry P) := by
  rintro entry code ⟨_, after, before, value, ⟨body, -, rfl⟩, -, -, -, rfl⟩
  exact ⟨doubleQuote, by decide, _, rfl⟩

/-- Separated elements start with **the first of them**. -/
theorem skipSpace_separated {α : Type} {P : α → List Char → Prop} {close : Char} {l : List α}
    {inner : List Char} (starts : StartsOpen P) (h : Separated P close l inner)
    (rest : List Char) : ∃ c ∈ openings, ∃ more, skipSpace (inner ++ rest) = c :: more := by
  have hfirst : ∀ {a : α} {code before : List Char} (tail : List Char), P a code →
      IsSpaces before → ∃ c ∈ openings, ∃ more, skipSpace (before ++ (code ++ tail)) = c :: more := by
    intro a code before tail hcode hbefore
    obtain ⟨c, hc, more, rfl⟩ := starts a code hcode
    exact ⟨c, hc, more ++ tail, by
      rw [skipSpace_append hbefore, List.cons_append, skipSpace_cons (isSpace_of_mem_openings hc)]⟩
  cases h with
  | last hcode hbefore hafter =>
    rw [List.append_assoc, List.append_assoc]
    exact hfirst _ hcode hbefore
  | more hcode hbefore hafter hmore =>
    rw [List.append_assoc, List.append_assoc]
    exact hfirst _ hcode hbefore

/-! ## Reading spelled values -/

/-- The fuel that reads **any spelling** of a length. -/
def fuelFor (code : List Char) : Nat := 2 * code.length

/-- A literal is **a text**. -/
theorem readValue?_of_isLiteral {s : String} {code : List Char} (h : IsLiteral s code)
    {fuel : Nat} (hfuel : fuelFor code ≤ fuel) (depth : Nat) (rest : List Char) :
    readValue? fuel depth (code ++ rest) = some (.text s, rest) := by
  obtain ⟨body, hbody, rfl⟩ := h
  simp only [fuelFor, List.length_cons, List.length_append, List.length_nil] at hfuel
  obtain ⟨fuel, rfl⟩ := Nat.exists_eq_add_one_of_ne_zero (n := fuel) (by omega)
  have hscalar : ∀ more, readValue? (fuel + 1) depth (doubleQuote :: more)
      = (readString? fuel more).map fun r => (.text (String.ofList r.1), r.2) := fun _ => rfl
  rw [List.cons_append, List.append_assoc, hscalar, List.singleton_append,
    readString?_of_spelled hbody (by omega), Option.map_some, String.ofList_toList]

section Elements

variable {α : Type} {P : α → List Char → Prop} {close : Char}
  (read : Nat → List Char → Option (List α × List Char))

/-- Separated elements are read **one by one**, if each is, with what comes after it. -/
theorem read_of_separated
    (last : ∀ {fuel a code before rest rest'}, P a code → IsSpaces before →
      fuelFor code ≤ fuel → skipSpace rest = close :: rest' →
        read (fuel + 1) (before ++ (code ++ rest)) = some ([a], rest'))
    (more : ∀ {fuel a code before rest rest'}, P a code → IsSpaces before →
      fuelFor code ≤ fuel → skipSpace rest = ',' :: rest' →
        read (fuel + 1) (before ++ (code ++ rest))
          = (read fuel rest').map fun r => (a :: r.1, r.2))
    (hclose : isSpace close = false) {l : List α} {inner : List Char}
    (h : Separated P close l inner) {fuel : Nat} (hfuel : fuelFor inner ≤ fuel)
    (rest : List Char) : read fuel (inner ++ rest) = some (l, rest) := by
  -- an element takes one unit of fuel beside that of its value, and its comma or bracket pays for it
  induction h generalizing fuel with
  | last hcode hbefore hafter =>
    simp only [fuelFor, List.length_append, List.length_singleton] at hfuel
    obtain ⟨fuel, rfl⟩ := Nat.exists_eq_add_one_of_ne_zero (n := fuel) (by omega)
    rw [List.append_assoc, List.append_assoc, List.append_assoc]
    refine last hcode hbefore (by rw [fuelFor]; omega) ?_
    rw [skipSpace_append hafter, List.singleton_append, skipSpace_cons hclose]
  | more hcode hbefore hafter _ ih =>
    simp only [fuelFor, List.length_append, List.length_cons] at hfuel ih
    obtain ⟨fuel, rfl⟩ := Nat.exists_eq_add_one_of_ne_zero (n := fuel) (by omega)
    rw [List.append_assoc, List.append_assoc, List.append_assoc,
      more hcode hbefore (by rw [fuelFor]; omega) (by
        rw [skipSpace_append hafter, List.cons_append, skipSpace_cons (by decide)]),
      ih (by omega)]
    rfl

end Elements

/-- Brackets around white space are **empty**. -/
theorem readValue?_of_none {inner : List Char} (h : IsSpaces inner) (fuel depth : Nat)
    (rest : List Char) :
    readValue? (fuel + 1) (depth + 1) ('[' :: (inner ++ ']' :: rest)) = some (.list [], rest) ∧
    readValue? (fuel + 1) (depth + 1) ('\x7b' :: (inner ++ '\x7d' :: rest))
      = some (.dict [], rest) := by
  constructor
  · rw [readValue?, skipSpace_cons (by decide)]
    simp only [skipSpace_append h, skipSpace_cons (show isSpace ']' = false by decide)]
  · rw [readValue?, skipSpace_cons (by decide)]
    simp only [skipSpace_append h, skipSpace_cons (show isSpace '\x7d' = false by decide)]

/-- Brackets around a token hold **items or entries**. -/
theorem readValue?_of_some {inner : List Char} {c : Char} (hc : c ∈ openings) {more : List Char}
    (h : skipSpace inner = c :: more) (fuel depth : Nat) :
    readValue? (fuel + 1) (depth + 1) ('[' :: inner)
        = ((readItems? fuel depth inner).map fun r => (.list r.1, r.2)) ∧
    readValue? (fuel + 1) (depth + 1) ('\x7b' :: inner)
        = ((readEntries? fuel depth inner).map fun r => (.dict r.1, r.2)) := by
  constructor
  · rw [← readItems?_congr (skipSpace_skipSpace inner), h, readValue?, skipSpace_cons (by decide)]
    simp only [h]
    simp only [openings, List.mem_cons, List.not_mem_nil, or_false] at hc
    rcases hc with rfl | rfl | rfl <;> rfl
  · rw [← readEntries?_congr (skipSpace_skipSpace inner), h, readValue?,
      skipSpace_cons (by decide)]
    simp only [h]
    simp only [openings, List.mem_cons, List.not_mem_nil, or_false] at hc
    rcases hc with rfl | rfl | rfl <;> rfl

section Depth

variable {depth : Nat} {P : Value → List Char → Prop}
  (reads : ∀ {v code fuel}, P v code → fuelFor code ≤ fuel → ∀ rest,
    readValue? fuel depth (code ++ rest) = some (v, rest))

include reads

/-- Separated items are **read**, if each is. -/
theorem readItems?_of_separated {items : List Value} {inner : List Char}
    (h : Separated P ']' items inner) {fuel : Nat} (hfuel : fuelFor inner ≤ fuel)
    (rest : List Char) : readItems? fuel depth (inner ++ rest) = some (items, rest) := by
  have hitem : ∀ {fuel v code before} (tail : List Char), P v code → IsSpaces before →
      fuelFor code ≤ fuel →
        readValue? fuel depth (before ++ (code ++ tail)) = some (v, tail) := by
    intro fuel v code before tail hcode hbefore hfuel
    rw [readValue?_congr (skipSpace_append hbefore _), reads hcode hfuel]
  refine read_of_separated (fun fuel s => readItems? fuel depth s) ?_ ?_ (by decide) h hfuel rest
  · intro fuel v code before rest rest' hcode hbefore hfuel hrest
    simp only [readItems?, hitem rest hcode hbefore hfuel, hrest]
  · intro fuel v code before rest rest' hcode hbefore hfuel hrest
    simp only [readItems?, hitem rest hcode hbefore hfuel, hrest]

/-- A key, a colon and a value are **an entry**, the last one or one of several. -/
theorem readEntries?_of_spellsEntry {entry : String × Value} {code before : List Char}
    (hentry : SpellsEntry P entry code) (hbefore : IsSpaces before) {fuel : Nat}
    (hfuel : fuelFor code ≤ fuel) (rest : List Char) :
    (∀ rest', skipSpace rest = '\x7d' :: rest' →
      readEntries? (fuel + 1) depth (before ++ (code ++ rest)) = some ([entry], rest')) ∧
    ∀ rest', skipSpace rest = ',' :: rest' →
      readEntries? (fuel + 1) depth (before ++ (code ++ rest))
        = (readEntries? fuel depth rest').map fun r => (entry :: r.1, r.2) := by
  obtain ⟨key, v⟩ := entry
  obtain ⟨_, afterKey, beforeValue, value, ⟨body, hbody, rfl⟩, hafterKey, hbeforeValue, hvalue,
    rfl⟩ := hentry
  simp only [fuelFor, List.length_append, List.length_cons, List.length_nil] at hfuel
  have hkey : readString? fuel (body ++ doubleQuote ::
        (afterKey ++ ':' :: (beforeValue ++ (value ++ rest))))
      = some (key.toList, afterKey ++ ':' :: (beforeValue ++ (value ++ rest))) :=
    readString?_of_spelled hbody (by omega) _
  have hcolon : skipSpace (afterKey ++ ':' :: (beforeValue ++ (value ++ rest)))
      = ':' :: (beforeValue ++ (value ++ rest)) := by
    rw [skipSpace_append hafterKey, skipSpace_cons (by decide)]
  have hread : readValue? fuel depth (beforeValue ++ (value ++ rest)) = some (v, rest) := by
    rw [readValue?_congr (skipSpace_append hbeforeValue _),
      reads hvalue (by rw [fuelFor]; omega)]
  have hcode : skipSpace (before ++ (doubleQuote :: (body ++ [doubleQuote]) ++
        (afterKey ++ ':' :: (beforeValue ++ value)) ++ rest))
      = doubleQuote :: (body ++ doubleQuote ::
          (afterKey ++ ':' :: (beforeValue ++ (value ++ rest)))) := by
    rw [skipSpace_append hbefore, List.cons_append, List.cons_append, skipSpace_cons (by decide)]
    simp only [List.append_assoc, List.cons_append, List.nil_append]
  rw [readEntries?, hcode]
  constructor <;>
  · intro rest' hrest
    simp only [if_true, hkey, hcolon, hread, hrest, String.ofList_toList]

/-- Separated entries are **read**, if their values are. -/
theorem readEntries?_of_separated {entries : List (String × Value)} {inner : List Char}
    (h : Separated (SpellsEntry P) '\x7d' entries inner) {fuel : Nat}
    (hfuel : fuelFor inner ≤ fuel) (rest : List Char) :
    readEntries? fuel depth (inner ++ rest) = some (entries, rest) := by
  refine read_of_separated (fun fuel s => readEntries? fuel depth s) ?_ ?_ (by decide) h hfuel rest
  · intro fuel entry code before rest rest' hentry hbefore hfuel hrest
    exact (readEntries?_of_spellsEntry reads hentry hbefore hfuel rest).1 rest' hrest
  · intro fuel entry code before rest rest' hentry hbefore hfuel hrest
    exact (readEntries?_of_spellsEntry reads hentry hbefore hfuel rest).2 rest' hrest

/-- Items in brackets are **a list**. -/
theorem readValue?_of_list (starts : StartsOpen P) {items : List Value} {code : List Char}
    (h : Bracketed P '[' ']' items code) {fuel : Nat} (hfuel : fuelFor code ≤ fuel)
    (rest : List Char) :
    readValue? fuel (depth + 1) (code ++ rest) = some (.list items, rest) := by
  cases h with
  | none hinner =>
    simp only [fuelFor, List.length_cons] at hfuel
    obtain ⟨fuel, rfl⟩ := Nat.exists_eq_add_one_of_ne_zero (n := fuel) (by omega)
    rw [List.cons_append, List.append_assoc]
    exact (readValue?_of_none hinner fuel depth rest).1
  | some hinner =>
    obtain ⟨c, hc, more, hmore⟩ := skipSpace_separated starts hinner rest
    simp only [fuelFor, List.length_cons] at hfuel
    obtain ⟨fuel, rfl⟩ := Nat.exists_eq_add_one_of_ne_zero (n := fuel) (by omega)
    rw [List.cons_append, (readValue?_of_some hc hmore fuel depth).1,
      readItems?_of_separated reads hinner (by rw [fuelFor]; omega)]
    rfl

/-- Entries in braces are **an object**. -/
theorem readValue?_of_dict {entries : List (String × Value)} {code : List Char}
    (h : Bracketed (SpellsEntry P) '\x7b' '\x7d' entries code) {fuel : Nat}
    (hfuel : fuelFor code ≤ fuel) (rest : List Char) :
    readValue? fuel (depth + 1) (code ++ rest) = some (.dict entries, rest) := by
  cases h with
  | none hinner =>
    simp only [fuelFor, List.length_cons] at hfuel
    obtain ⟨fuel, rfl⟩ := Nat.exists_eq_add_one_of_ne_zero (n := fuel) (by omega)
    rw [List.cons_append, List.append_assoc]
    exact (readValue?_of_none hinner fuel depth rest).2
  | some hinner =>
    obtain ⟨c, hc, more, hmore⟩ := skipSpace_separated (startsOpen_entry P) hinner rest
    simp only [fuelFor, List.length_cons] at hfuel
    obtain ⟨fuel, rfl⟩ := Nat.exists_eq_add_one_of_ne_zero (n := fuel) (by omega)
    rw [List.cons_append, (readValue?_of_some hc hmore fuel depth).2,
      readEntries?_of_separated reads hinner (by rw [fuelFor]; omega)]
    rfl

end Depth

/-- **A spelled value is read**, whatever follows. -/
theorem readValue?_of_spells {limit : Nat} {v : Value} {code : List Char} (h : Spells limit v code)
    {fuel : Nat} (hfuel : fuelFor code ≤ fuel) {depth : Nat} (hdepth : limit ≤ depth)
    (rest : List Char) : readValue? fuel depth (code ++ rest) = some (v, rest) := by
  -- the induction is on how deep the value may nest: its items and entries nest less deep
  induction limit generalizing v code fuel depth rest with
  | zero =>
    cases v with
    | text s => exact readValue?_of_isLiteral h hfuel depth rest
    | _ => exact h.elim
  | succ limit ih =>
    obtain ⟨depth, rfl⟩ := Nat.exists_eq_add_one_of_ne_zero (n := depth) (by omega)
    have reads : ∀ {v code fuel}, Spells limit v code → fuelFor code ≤ fuel → ∀ rest,
        readValue? fuel depth (code ++ rest) = some (v, rest) := fun hv hfuel rest =>
      ih hv hfuel (by omega) rest
    cases v with
    | text s => exact readValue?_of_isLiteral h hfuel (depth + 1) rest
    | list items => exact readValue?_of_list reads (startsOpen_spells limit) h hfuel rest
    | dict entries => exact readValue?_of_dict reads h hfuel rest
    | _ => exact h.elim

/-- **Reading inverts spelling**: however a value is spelled, it is read. -/
theorem parse?_of_isSpelling {v : Value} {text : String} (h : IsSpelling v text) :
    parse? text = some v := by
  obtain ⟨before, code, after, hbefore, hcode, hafter, htext⟩ := h
  have hread : readValue? (2 * text.toList.length + 2) depthLimit text.toList = some (v, after) := by
    rw [htext, readValue?_congr (skipSpace_append hbefore _)]
    refine readValue?_of_spells hcode ?_ (Nat.le_refl _) after
    simp only [fuelFor, List.length_append]
    omega
  have hend : skipSpace after = [] := by
    have := skipSpace_append hafter []
    rwa [List.append_nil] at this
  simp only [parse?, hread, hend, List.isEmpty_nil, if_true]

/-! ## Writing is a spelling -/

/-- A code unit below 0x10000 is **written in four digits**. -/
theorem readHex4?_hex {n : Nat} (h : n < 0x10000) : readHex4? (hex 4 n) = some (n, []) := by
  have hdigits : hex 4 n
      = [hexDigit (n / 16 / 16 / 16), hexDigit (n / 16 / 16), hexDigit (n / 16), hexDigit n] := rfl
  rw [hdigits]
  simp only [readHex4?, hexValue?_hexDigit, Option.bind_eq_bind, Option.bind_some, Option.pure_def,
    Option.some.injEq, Prod.mk.injEq, and_true]
  omega

/-- Characters are written in one of **their spellings**. -/
theorem charSpells_escapeChar (c : Char) : CharSpells c (escapeChar c) := by
  rw [escapeChar]
  split
  · rename_i hmark
    refine .letter ?_
    rcases hmark with rfl | rfl <;> decide
  · rename_i hmark
    obtain ⟨hquote, hbackslash⟩ := not_or.1 hmark
    split
    · rename_i hcontrol
      exact .unit (readHex4?_hex (by omega))
    · rename_i hcontrol
      exact .itself hquote hbackslash (Nat.not_lt.1 hcontrol)

theorem isLiteral_stringLiteral (s : String) : IsLiteral s (stringLiteral s).toList :=
  ⟨_, spelledBy_flatMap charSpells_escapeChar s.toList, String.toList_ofList⟩

theorem isSpaces_nil : IsSpaces [] := by
  simp [IsSpaces]

/-- A spelling **needs no white space** around it. -/
theorem isSpelling_of_spells {v : Value} {text : String} (h : Spells depthLimit v text.toList) :
    IsSpelling v text :=
  ⟨[], text.toList, [], isSpaces_nil, h, isSpaces_nil, by rw [List.nil_append, List.append_nil]⟩

section Compact

variable {α : Type} {P : α → List Char → Prop} {close : Char} {a b : α} {l : List α}
  {code rest : List Char}

/-- The last element **without white space**. -/
theorem Separated.last_compact (h : P a code) : Separated P close [a] (code ++ [close]) := by
  have hlast := @Separated.last α P close a code [] [] h isSpaces_nil isSpaces_nil
  exact hlast

/-- A further element **without white space**. -/
theorem Separated.more_compact (h : P a code) (hrest : Separated P close (b :: l) rest) :
    Separated P close (a :: b :: l) (code ++ ',' :: rest) := by
  have hmore := @Separated.more α P close a b l code [] [] rest h isSpaces_nil isSpaces_nil hrest
  exact hmore

end Compact

section Writing

variable {P : Value → List Char → Prop}

/-- Items are written **separated by commas**. -/
theorem separated_renderItems {items : List Value} (hnone : items ≠ [])
    (h : ∀ v ∈ items, P v (render v).toList) :
    Separated P ']' items ((renderItems items).toList ++ [']']) := by
  induction items with
  | nil => exact absurd rfl hnone
  | cons v items ih =>
    obtain ⟨hv, hitems⟩ := List.forall_mem_cons.1 h
    cases items with
    | nil => exact .last_compact hv
    | cons next items =>
      have hcomma : renderItems (v :: next :: items)
          = render v ++ "," ++ renderItems (next :: items) := by
        rw [renderItems]
        exact List.cons_ne_nil _ _
      rw [hcomma, String.toList_append, String.toList_append, List.append_assoc,
        List.append_assoc]
      exact .more_compact hv (ih (List.cons_ne_nil _ _) hitems)

/-- A list is written **in brackets**. -/
theorem bracketed_render_list {items : List Value} (h : ∀ v ∈ items, P v (render v).toList) :
    Bracketed P '[' ']' items (render (.list items)).toList := by
  rw [render, String.toList_append, String.toList_append, List.append_assoc]
  cases items with
  | nil => exact .none isSpaces_nil
  | cons v items => exact .some (separated_renderItems (List.cons_ne_nil _ _) h)

theorem spellsEntry_render {entry : String × Value} (h : P entry.2 (render entry.2).toList) :
    SpellsEntry P entry (stringLiteral entry.1 ++ ":" ++ render entry.2).toList := by
  refine ⟨_, [], [], _, isLiteral_stringLiteral entry.1, isSpaces_nil, isSpaces_nil, h, ?_⟩
  rw [String.toList_append, String.toList_append, List.append_assoc]
  rfl

/-- Entries are written **separated by commas**. -/
theorem separated_renderEntries {entries : List (String × Value)} (hnone : entries ≠ [])
    (h : ∀ entry ∈ entries, P entry.2 (render entry.2).toList) :
    Separated (SpellsEntry P) '\x7d' entries ((renderEntries entries).toList ++ ['\x7d']) := by
  induction entries with
  | nil => exact absurd rfl hnone
  | cons entry entries ih =>
    obtain ⟨hentry, hentries⟩ := List.forall_mem_cons.1 h
    cases entries with
    | nil => exact .last_compact (spellsEntry_render hentry)
    | cons next entries =>
      have hcomma : renderEntries (entry :: next :: entries)
          = stringLiteral entry.1 ++ ":" ++ render entry.2 ++ "," ++ renderEntries (next :: entries)
          := by
        rw [renderEntries]
        exact List.cons_ne_nil _ _
      rw [hcomma, String.toList_append, String.toList_append, List.append_assoc, List.append_assoc]
      exact .more_compact (spellsEntry_render hentry) (ih (List.cons_ne_nil _ _) hentries)

/-- An object is written **in braces**. -/
theorem bracketed_render_dict {entries : List (String × Value)}
    (h : ∀ entry ∈ entries, P entry.2 (render entry.2).toList) :
    Bracketed (SpellsEntry P) '\x7b' '\x7d' entries (render (.dict entries)).toList := by
  rw [render, String.toList_append, String.toList_append, List.append_assoc]
  cases entries with
  | nil => exact .none isSpaces_nil
  | cons entry entries => exact .some (separated_renderEntries (List.cons_ne_nil _ _) h)

end Writing

end ClusterMetrics.Json
