import ClusterMetrics.Decimal.Binary
import ClusterMetrics.Text.Characters

/-! # Reading decimals

Decimal text is read to the nearest double. `readDecimal?` takes the plain grammar: a sign, digits
with an optional point, and an optional exponent, or one of the words for the special values.

* **`readNumber?`**: a decimal with white space around it and underscores between its characters.
* **`readFloat?`**: a decimal with white space around it, in digits of any script, with underscores
  between the digits only. -/

namespace ClusterMetrics.Decimal

open ClusterMetrics.Text

/-- The double nearest to `digits · 10 ^ exponent`. Exponents beyond the range of doubles are
cut off first, so the cost does not grow with them. -/
def ofDecimal (digits : Nat) (exponent : Int) : Float :=
  if digits = 0 then 0.0
  else
    let magnitude : Int := (Nat.toDigits 10 digits).length + exponent
    if 400 < magnitude then infinity false
    else if magnitude < -400 then 0.0
    else Float.ofScientific digits (exponent < 0) exponent.natAbs

/-- A sign in front of a text, and the rest: `true` for a minus. -/
def splitSign : List Char → Bool × List Char
  | '-' :: rest => (true, rest)
  | '+' :: rest => (false, rest)
  | rest => (false, rest)

/-- The lower-case form of the ASCII letters of a text. -/
def asciiLower (s : List Char) : List Char := s.map Char.toLower

/-- Reads an **exponent part**, from its letter on; the empty text is the exponent zero. -/
def readExponent? : List Char → Option Int
  | [] => some 0
  | c :: rest =>
    if c = 'e' ∨ c = 'E' then
      let (negative, digits) := splitSign rest
      if digits.isEmpty || !digits.all isAsciiDigit then none
      else some (if negative then -(digitsToNat digits : Int) else digitsToNat digits)
    else none

/-- Reads an unsigned decimal: digits with an optional point, then an optional exponent. At least one
digit stands before or after the point. -/
def readMagnitude? (s : List Char) : Option Float :=
  let whole := s.takeWhile isAsciiDigit
  let rest := s.dropWhile isAsciiDigit
  let (fraction, rest) := match rest with
    | '.' :: tail => (tail.takeWhile isAsciiDigit, tail.dropWhile isAsciiDigit)
    | _ => ([], rest)
  if whole.isEmpty && fraction.isEmpty then none
  else (readExponent? rest).map fun e =>
    ofDecimal (digitsToNat (whole ++ fraction)) (e - fraction.length)

/-- Reads an unsigned decimal or the word of an infinity or of not-a-number, in any case. -/
def readUnsigned? (s : List Char) : Option Float :=
  let word := String.ofList (asciiLower s)
  if word = "nan" then some nan
  else if word = "inf" ∨ word = "infinity" then some (infinity false)
  else readMagnitude? s

/-- Reads a **plain decimal**: an optional sign and an unsigned decimal. -/
def readDecimal? (s : List Char) : Option Float :=
  let (negative, rest) := splitSign s
  (readUnsigned? rest).map fun x => if negative then -x else x

/-- Whether two underscores stand next to each other. -/
def doubledSeparator : List Char → Bool
  | a :: b :: rest => (a == '_' && b == '_') || doubledSeparator (b :: rest)
  | _ => false

/-- The text without its underscores, if each stands **between** other characters. -/
def withoutSeparators? (s : List Char) : Option (List Char) :=
  if s.head? = some '_' ∨ s.getLast? = some '_' ∨ doubledSeparator s then none
  else some (s.filter (· != '_'))

/-- Reads a decimal with white space around it and underscores between its digits. -/
def readNumber? (s : List Char) : Option Float :=
  let s := trim s
  match readDecimal? s with
  | some x => some x
  | none => (withoutSeparators? s).bind readDecimal?

/-- The ASCII digit of the value of a digit; other characters stay. -/
def toAsciiDigit (c : Char) : Char :=
  match digitValue? c with
  | some d => Char.ofNat ('0'.toNat + d)
  | none => c

/-- The text without its underscores, if each stands **between ASCII digits**. The truth value tells
whether a digit stands before the text. -/
def withoutDigitSeparators? : Bool → List Char → Option (List Char)
  | _, [] => some []
  | behindDigit, '_' :: c :: rest =>
    if behindDigit && isAsciiDigit c then (withoutDigitSeparators? true rest).map (c :: ·) else none
  | _, ['_'] => none
  | _, c :: rest => (withoutDigitSeparators? (isAsciiDigit c) rest).map (c :: ·)

/-- Reads a decimal in **digits of any script**, with white space around it and underscores between its
digits. -/
def readFloat? (s : List Char) : Option Float :=
  (withoutDigitSeparators? false ((trim s).map toAsciiDigit)).bind readDecimal?

end ClusterMetrics.Decimal
