import ClusterMetrics.Value
import ClusterMetrics.Decimal.Reading
import ClusterMetrics.Text.Quoted

/-! # Reading JSON

The reader is strict: no comments, no trailing commas, no leading zeros, no raw control characters
and no unpaired surrogates in strings. Beside the standard literals it takes `NaN` and the
infinities as numbers. Objects keep repeated keys. Values nest at most `depthLimit` deep, and a whole
number has at most `integerLimit` digits.

* **`readString?`**: the characters of a string literal. **`readNumber?`**: a number literal.
* **`readValue?`**: a value at the head of a text. **`parse?`**: a text that holds one value. -/

namespace ClusterMetrics.Json

open ClusterMetrics.Text ClusterMetrics.Decimal

/-- The white space between tokens. -/
def isSpace (c : Char) : Bool := c == ' ' || c == '\n' || c == '\r' || c == '\t'

/-- A text without the white space at its head. -/
def skipSpace (s : List Char) : List Char := s.dropWhile isSpace

/-- The number written by four hexadecimal digits. -/
def readHex4? : List Char → Option (Nat × List Char)
  | a :: b :: c :: d :: rest => do
    let a ← hexValue? a
    let b ← hexValue? b
    let c ← hexValue? c
    let d ← hexValue? d
    return (((a * 16 + b) * 16 + c) * 16 + d, rest)
  | _ => none

/-- The character of a one-letter escape. -/
def simpleEscape? (c : Char) : Option Char :=
  if c = doubleQuote ∨ c = backslash ∨ c = '/' then some c
  else if c = 'b' then some '\x08'
  else if c = 'f' then some '\x0c'
  else if c = 'n' then some '\n'
  else if c = 'r' then some '\r'
  else if c = 't' then some '\t'
  else none

/-- Whether a number is the first half of a surrogate pair. -/
def isHighSurrogate (n : Nat) : Bool := 0xd800 ≤ n && n < 0xdc00

/-- Whether a number is the second half of a surrogate pair. -/
def isLowSurrogate (n : Nat) : Bool := 0xdc00 ≤ n && n < 0xe000

/-- Reads a numeric escape after its `u`: one code unit, or a **surrogate pair** of two. -/
def readUnicode? (s : List Char) : Option (Char × List Char) := do
  let (high, s) ← readHex4? s
  if isHighSurrogate high then
    match s with
    | a :: b :: s =>
      if a = backslash ∧ b = 'u' then
        let (low, s) ← readHex4? s
        if isLowSurrogate low then
          return (Char.ofNat (0x10000 + (high - 0xd800) * 0x400 + (low - 0xdc00)), s)
        else none
      else none
    | _ => none
  else if isLowSurrogate high then none
  else return (Char.ofNat high, s)

/-- Reads the characters of a **string literal** after its opening quote, and what follows the closing
one. The fuel is a bound on the length of the text. -/
def readString? : Nat → List Char → Option (List Char × List Char)
  | 0, _ => none
  | _, [] => none
  | fuel + 1, c :: rest =>
    if c = doubleQuote then some ([], rest)
    else if c = backslash then
      match rest with
      | [] => none
      | e :: rest =>
        match if e = 'u' then readUnicode? rest else (simpleEscape? e).map (·, rest) with
        | none => none
        | some (x, rest) => (readString? fuel rest).map fun r => (x :: r.1, r.2)
    else if c.toNat < 0x20 then none
    else (readString? fuel rest).map fun r => (c :: r.1, r.2)

/-- The greatest number of digits of a whole number. -/
def integerLimit : Nat := 4300

/-- Reads the digits of an exponent after its letter. -/
def readExponent? (s : List Char) : Option (Int × List Char) :=
  let (negative, s) := splitSign s
  let digits := s.takeWhile isAsciiDigit
  if digits.isEmpty then none
  else
    let n : Int := digitsToNat digits
    some (if negative then -n else n, s.dropWhile isAsciiDigit)

/-- Reads an unsigned number literal: a whole number without leading zeros, an optional fraction and
an optional exponent. Without either of those it is a whole number. -/
def readUnsigned? (negative : Bool) (s : List Char) : Option (Value × List Char) := do
  let whole := s.takeWhile isAsciiDigit
  let rest := s.dropWhile isAsciiDigit
  if whole.isEmpty || (whole.head? == some '0' && 1 < whole.length) then none
  let (fraction, rest) ← match rest with
    | '.' :: tail =>
      let digits := tail.takeWhile isAsciiDigit
      if digits.isEmpty then none else some (some digits, tail.dropWhile isAsciiDigit)
    | _ => some (none, rest)
  let (exponent, rest) ← match rest with
    | c :: tail =>
      if c = 'e' ∨ c = 'E' then (readExponent? tail).map fun r => (some r.1, r.2)
      else some (none, rest)
    | [] => some (none, [])
  if fraction.isNone && exponent.isNone then
    if integerLimit < whole.length then none
    let n : Int := digitsToNat whole
    return (.int (if negative then -n else n), rest)
  else
    let digits := fraction.getD []
    let x := ofDecimal (digitsToNat (whole ++ digits)) (exponent.getD 0 - digits.length)
    return (.float (if negative then -x else x), rest)

/-- The literals that are words, with their values. -/
def words : List (List Char × Value) :=
  [("null".toList, .null), ("true".toList, .bool true), ("false".toList, .bool false),
   ("NaN".toList, .float nan), ("Infinity".toList, .float (infinity false)),
   ("-Infinity".toList, .float (infinity true))]

/-- Reads a literal that is a word. -/
def readWord? (s : List Char) : Option (Value × List Char) :=
  (words.find? fun w => w.1.isPrefixOf s).map fun w => (w.2, s.drop w.1.length)

/-- Reads a value that is neither a list nor an object. The fuel is a bound on the length of the
text. -/
def readScalar? (fuel : Nat) (s : List Char) : Option (Value × List Char) :=
  match readWord? s with
  | some r => some r
  | none =>
    match s with
    | '-' :: rest => readUnsigned? true rest
    | c :: rest =>
      if c = doubleQuote then
        (readString? fuel rest).map fun r => (.text (String.ofList r.1), r.2)
      else readUnsigned? false s
    | [] => none

/-- How deep lists and objects may nest. -/
def depthLimit : Nat := 200

mutual

/-- Reads a **value** at the head of a text, white space before it allowed. -/
def readValue? : Nat → Nat → List Char → Option (Value × List Char)
  | 0, _, _ => none
  | fuel + 1, depth, s =>
    match skipSpace s with
    | '[' :: rest =>
      match depth with
      | 0 => none
      | depth + 1 =>
        match skipSpace rest with
        | ']' :: rest => some (.list [], rest)
        | rest => (readItems? fuel depth rest).map fun r => (.list r.1, r.2)
    | '\x7b' :: rest =>
      match depth with
      | 0 => none
      | depth + 1 =>
        match skipSpace rest with
        | '\x7d' :: rest => some (.dict [], rest)
        | rest => (readEntries? fuel depth rest).map fun r => (.dict r.1, r.2)
    | s => readScalar? fuel s

/-- Reads the items of a list that has some, and its closing bracket. -/
def readItems? : Nat → Nat → List Char → Option (List Value × List Char)
  | 0, _, _ => none
  | fuel + 1, depth, s =>
    match readValue? fuel depth s with
    | none => none
    | some (v, rest) =>
      match skipSpace rest with
      | ']' :: rest => some ([v], rest)
      | ',' :: rest => (readItems? fuel depth rest).map fun r => (v :: r.1, r.2)
      | _ => none

/-- Reads the entries of an object that has some, and its closing brace. -/
def readEntries? : Nat → Nat → List Char → Option (List (String × Value) × List Char)
  | 0, _, _ => none
  | fuel + 1, depth, s =>
    match skipSpace s with
    | c :: rest =>
      if c = doubleQuote then
        match readString? fuel rest with
        | none => none
        | some (key, rest) =>
          match skipSpace rest with
          | ':' :: rest =>
            match readValue? fuel depth rest with
            | none => none
            | some (v, rest) =>
              let entry := (String.ofList key, v)
              match skipSpace rest with
              | '\x7d' :: rest => some ([entry], rest)
              | ',' :: rest => (readEntries? fuel depth rest).map fun r => (entry :: r.1, r.2)
              | _ => none
          | _ => none
      else none
    | [] => none

end

/-- The value of a text that holds **one value** and white space. -/
def parse? (text : String) : Option Value :=
  let s := text.toList
  match readValue? (2 * s.length + 2) depthLimit s with
  | some (v, rest) => if (skipSpace rest).isEmpty then some v else none
  | none => none

end ClusterMetrics.Json
