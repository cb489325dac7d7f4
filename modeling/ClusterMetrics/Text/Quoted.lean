import ClusterMetrics.Text.Printable

/-! # Quoted text

Messages quote a value so that it stays on one line: single quotes around it, or double quotes when
the value holds a single quote and no double one; a backslash before the backslash and the
enclosing quote; and an escape for every character that is not printable.

* **`quoted`**: the quoted form of a text. **`withoutQuotes`**: a text without its quote characters,
  which free-text parameters lose before they are looked at. -/

namespace ClusterMetrics.Text

/-- The lower-case hexadecimal digit of `n % 16`. -/
def hexDigit (n : Nat) : Char :=
  ['0', '1', '2', '3', '4', '5', '6', '7', '8', '9', 'a', 'b', 'c', 'd', 'e', 'f'].getD (n % 16) '0'

/-- `n` in lower-case hexadecimal, padded with zeros to `width` digits. -/
def hex : Nat → Nat → List Char
  | 0, _ => []
  | width + 1, n => hex width (n / 16) ++ [hexDigit n]

/-- The value of a hexadecimal digit in either case. -/
def hexValue? (c : Char) : Option Nat :=
  if '0' ≤ c ∧ c ≤ '9' then some (c.toNat - '0'.toNat)
  else if 'a' ≤ c ∧ c ≤ 'f' then some (c.toNat - 'a'.toNat + 10)
  else if 'A' ≤ c ∧ c ≤ 'F' then some (c.toNat - 'A'.toNat + 10)
  else none

/-- The single quote. -/
def singleQuote : Char := '\x27'

/-- The double quote. -/
def doubleQuote : Char := '\x22'

/-- The backslash. -/
def backslash : Char := '\x5c'

/-- The **enclosing quote** of a value: double only if it holds a single quote and no double one. -/
def quoteMark (s : List Char) : Char :=
  if s.contains singleQuote && !s.contains doubleQuote then doubleQuote else singleQuote

/-- One character inside quotes `mark`. -/
def quotedChar (mark c : Char) : List Char :=
  if c = backslash ∨ c = mark then [backslash, c]
  else if c = '\n' then [backslash, 'n']
  else if c = '\r' then [backslash, 'r']
  else if c = '\t' then [backslash, 't']
  else if isPrintable c then [c]
  else if c.toNat < 0x100 then backslash :: 'x' :: hex 2 c.toNat
  else if c.toNat < 0x10000 then backslash :: 'u' :: hex 4 c.toNat
  else backslash :: 'U' :: hex 8 c.toNat

/-- The **quoted form** of a text. -/
def quoted (s : String) : String :=
  let cs := s.toList
  let mark := quoteMark cs
  String.ofList (mark :: cs.flatMap (quotedChar mark) ++ [mark])

/-- Whether a character is a single or double quote. -/
def isQuoteMark (c : Char) : Bool := c == singleQuote || c == doubleQuote

/-- A text **without quote characters**. -/
def withoutQuotes (s : String) : String := String.ofList (s.toList.filter fun c => !isQuoteMark c)

end ClusterMetrics.Text
