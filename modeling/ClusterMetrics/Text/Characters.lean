/-! # Classes of characters

Classes of characters are decided by their code points, in ascending lists of inclusive ranges.

* **`inRanges`**: whether a code point lies in one of some ranges.
* **`isBlank`**, **`isWhiteSpace`**: two notions of white space. The first is that of text patterns and
  includes the four information separators; the second is the Unicode property `White_Space`, which does
  not. **`trim`** removes the latter from both ends.
* **`digitValue?`**: reads a decimal digit. The characters of the Unicode category `Nd` come in runs of
  ten that stand for 0 to 9. -/

namespace ClusterMetrics.Text

/-! ## Ranges of code points -/

/-- Whether the code point `n` lies in one of the inclusive ranges of `table`. -/
def inRanges (table : List (Nat × Nat)) (n : Nat) : Bool :=
  table.any fun r => r.1 ≤ n && n ≤ r.2

@[simp] theorem inRanges_nil (n : Nat) : inRanges [] n = false := rfl

@[simp] theorem inRanges_cons (lo hi n : Nat) (table : List (Nat × Nat)) :
    inRanges ((lo, hi) :: table) n = ((lo ≤ n && n ≤ hi) || inRanges table n) := rfl

/-! ## White space -/

/-- The ranges of the Unicode property `White_Space`. -/
def whiteSpaceRanges : List (Nat × Nat) :=
  [(0x9, 0xd), (0x20, 0x20), (0x85, 0x85), (0xa0, 0xa0), (0x1680, 0x1680), (0x2000, 0x200a),
   (0x2028, 0x2029), (0x202f, 0x202f), (0x205f, 0x205f), (0x3000, 0x3000)]

/-- A character with the Unicode property **`White_Space`**. -/
def isWhiteSpace (c : Char) : Bool := inRanges whiteSpaceRanges c.toNat

/-- A **blank**: `White_Space`, or one of the information separators U+001C to U+001F. -/
def isBlank (c : Char) : Bool := isWhiteSpace c || (0x1c ≤ c.toNat && c.toNat ≤ 0x1f)

/-- Every `White_Space` character is a blank. -/
theorem isBlank_of_isWhiteSpace {c : Char} (h : isWhiteSpace c = true) : isBlank c = true := by
  simp [isBlank, h]

/-- The text without the characters satisfying `p` at either end. -/
def trimBy (p : Char → Bool) (s : List Char) : List Char :=
  ((s.dropWhile p).reverse.dropWhile p).reverse

/-- The text without `White_Space` at either end. -/
def trim (s : List Char) : List Char := trimBy isWhiteSpace s

/-! ## Decimal digits -/

/-- The code points of the digits zero of every script with decimal digits, ascending. -/
def digitZeros : List Nat :=
  [0x30, 0x660, 0x6f0, 0x7c0, 0x966, 0x9e6, 0xa66, 0xae6, 0xb66, 0xbe6, 0xc66, 0xce6, 0xd66,
   0xde6, 0xe50, 0xed0, 0xf20, 0x1040, 0x1090, 0x17e0, 0x1810, 0x1946, 0x19d0, 0x1a80, 0x1a90,
   0x1b50, 0x1bb0, 0x1c40, 0x1c50, 0xa620, 0xa8d0, 0xa900, 0xa9d0, 0xa9f0, 0xaa50, 0xabf0, 0xff10,
   0x104a0, 0x10d30, 0x11066, 0x110f0, 0x11136, 0x111d0, 0x112f0, 0x11450, 0x114d0, 0x11650,
   0x116c0, 0x11730, 0x118e0, 0x11950, 0x11c50, 0x11d50, 0x11da0, 0x16a60, 0x16ac0, 0x16b50,
   0x1d7ce, 0x1d7d8, 0x1d7e2, 0x1d7ec, 0x1d7f6, 0x1e140, 0x1e2f0, 0x1e950, 0x1fbf0]

/-- The **value of a decimal digit** of any script. -/
def digitValue? (c : Char) : Option Nat :=
  (digitZeros.find? fun z => z ≤ c.toNat && c.toNat < z + 10).map (c.toNat - ·)

/-- A decimal digit of any script. -/
def isDigit (c : Char) : Bool := (digitValue? c).isSome

/-- The value of an ASCII digit. -/
def asciiDigit? (c : Char) : Option Nat :=
  if '0' ≤ c ∧ c ≤ '9' then some (c.toNat - '0'.toNat) else none

/-- An **ASCII digit**, `0` to `9`. -/
def isAsciiDigit (c : Char) : Bool := (asciiDigit? c).isSome

/-- The number written by a list of decimal digits of any script; other characters count as zero. -/
def digitsToNat (s : List Char) : Nat :=
  s.foldl (fun n c => 10 * n + (digitValue? c).getD 0) 0

@[simp] theorem digitsToNat_nil : digitsToNat [] = 0 := rfl

end ClusterMetrics.Text
