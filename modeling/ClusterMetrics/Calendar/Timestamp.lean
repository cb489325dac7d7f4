import ClusterMetrics.Calendar.WallClock
import ClusterMetrics.Decimal.Binary
import ClusterMetrics.Text.Characters

/-! # Timestamps of a date range

A bound of a date range is written in one of two forms: `YYYY-MM-DDTHH:MM:SS`, an optional fraction
and an offset; or the literal form `YYYY-MM-DD HH:MM:SS`, which is read as UTC. Reading goes by
fields: each takes two digits where two make a legal value, otherwise one.

* **`cutFraction`**: digits of a fraction after the sixth are dropped.
* **`readOffset?`**: `Z`, or hours and minutes with optional seconds and fraction.
* **`parse?`**: the moment that a text denotes. -/

namespace ClusterMetrics.Calendar.Timestamp

open ClusterMetrics.Text ClusterMetrics.Decimal

/-- Drops every digit of a fraction **after the sixth**. `seen` counts the digits since the point. -/
def cutFrom (seen : Option Nat) : List Char → List Char
  | [] => []
  | c :: rest =>
    if c = '.' then c :: cutFrom (some 0) rest
    else match seen with
      | none => c :: cutFrom none rest
      | some k =>
        if isDigit c then
          if k < 6 then c :: cutFrom (some (k + 1)) rest else cutFrom (some k) rest
        else c :: cutFrom none rest

/-- A text with every fraction in it cut to **six digits**. -/
def cutFraction (s : List Char) : List Char := cutFrom none s

/-- Whether the character is an ASCII digit from `lo` to `hi`. -/
def isBetween (lo hi c : Char) : Bool := lo ≤ c && c ≤ hi

/-- Reads a **field** of two characters that `two` admits together, or of one that `one` admits. -/
def readField? (two : Char → Char → Bool) (one : Char → Bool) : List Char → Option (Nat × List Char)
  | [] => none
  | a :: rest =>
    match rest with
    | b :: rest' =>
      if two a b then some (digitsToNat [a, b], rest')
      else if one a then some (digitsToNat [a], rest) else none
    | [] => if one a then some (digitsToNat [a], []) else none

/-- Reads one character that `p` admits. -/
def readChar? (p : Char → Bool) : List Char → Option (List Char)
  | c :: rest => if p c then some rest else none
  | [] => none

/-- Reads a year: exactly four digits. -/
def readYear? : List Char → Option (Nat × List Char)
  | a :: b :: c :: d :: rest =>
    if [a, b, c, d].all isDigit then some (digitsToNat [a, b, c, d], rest) else none
  | _ => none

/-- Reads a month: `10` to `12`, `01` to `09`, or one digit that is not zero. -/
def readMonth? : List Char → Option (Nat × List Char) :=
  readField? (fun a b => (a == '1' && isBetween '0' '2' b) || (a == '0' && isBetween '1' '9' b))
    (isBetween '1' '9')

/-- Reads a day: `10` to `31`, `01` to `09` with a zero or a space in front, or one digit. -/
def readDay? : List Char → Option (Nat × List Char) :=
  readField?
    (fun a b => (a == '3' && isBetween '0' '1' b) || (isBetween '1' '2' a && isDigit b) ||
      ((a == '0' || a == ' ') && isBetween '1' '9' b))
    (isBetween '1' '9')

/-- Reads an hour: `00` to `23`, or one digit. -/
def readHour? : List Char → Option (Nat × List Char) :=
  readField? (fun a b => (a == '2' && isBetween '0' '3' b) || (isBetween '0' '1' a && isDigit b))
    isDigit

/-- Reads a minute: `00` to `59`, or one digit. -/
def readMinute? : List Char → Option (Nat × List Char) :=
  readField? (fun a b => isBetween '0' '5' a && isDigit b) isDigit

/-- Reads a second: `00` to `61`, or one digit. The last two are no second of a clock. -/
def readSecond? : List Char → Option (Nat × List Char) :=
  readField? (fun a b => (a == '6' && isBetween '0' '1' b) || (isBetween '0' '5' a && isDigit b))
    isDigit

/-- Reads a date, `YYYY-MM-DD`. -/
def readDate? (s : List Char) : Option (Date × List Char) := do
  let (year, s) ← readYear? s
  let s ← readChar? (· == '-') s
  let (month, s) ← readMonth? s
  let s ← readChar? (· == '-') s
  let (day, s) ← readDay? s
  return (⟨year, month, day⟩, s)

/-- Reads a time of day, `HH:MM:SS`, into a reading of the date without a fraction. -/
def readTime? (date : Date) (s : List Char) : Option (WallClock × List Char) := do
  let (hour, s) ← readHour? s
  let s ← readChar? (· == ':') s
  let (minute, s) ← readMinute? s
  let s ← readChar? (· == ':') s
  let (second, s) ← readSecond? s
  return (⟨date, hour, minute, second, 0⟩, s)

/-- The microseconds of a fraction of one to six digits. -/
def fractionMicros (digits : List Char) : Nat := digitsToNat digits * tenTo (6 - digits.length)

/-- Reads the fraction of an offset's seconds to the end of the text. -/
def readOffsetFraction? : List Char → Option Nat
  | [] => some 0
  | c :: digits =>
    if c = '.' ∧ 1 ≤ digits.length ∧ digits.length ≤ 6 ∧ digits.all isDigit then
      some (fractionMicros digits)
    else none

/-- Reads the seconds of an offset to the end of the text, in microseconds. They follow a colon if
the minutes did. -/
def readOffsetSeconds? (colon : Bool) : List Char → Option Nat
  | [] => some 0
  | s => do
    let s ← if colon then readChar? (· == ':') s else some s
    match s with
    | a :: b :: rest =>
      if isBetween '0' '5' a && isDigit b then
        (readOffsetFraction? rest).map (digitsToNat [a, b] * 1000000 + ·)
      else none
    | _ => none

/-- Reads the unsigned part of an offset to the end of the text, in microseconds. -/
def readOffsetMagnitude? : List Char → Option Nat
  | h₁ :: h₂ :: rest =>
    if isDigit h₁ && isDigit h₂ then
      let colon := rest.head? == some ':'
      match if colon then rest.tail else rest with
      | m₁ :: m₂ :: rest =>
        if isBetween '0' '5' m₁ && isDigit m₂ then
          (readOffsetSeconds? colon rest).map
            ((digitsToNat [h₁, h₂] * 3600 + digitsToNat [m₁, m₂] * 60) * 1000000 + ·)
        else none
      | _ => none
    else none
  | _ => none

/-- A day in microseconds; every offset is shorter. -/
def dayMicros : Nat := 86400000000

/-- Reads an **offset** from UTC to the end of the text, in microseconds. -/
def readOffset? : List Char → Option Int
  | [] => none
  | sign :: rest =>
    if sign = 'Z' ∧ rest = [] then some 0
    else if sign = '+' ∨ sign = '-' then
      (readOffsetMagnitude? rest).bind fun n =>
        if n < dayMicros then some (if sign = '-' then -(n : Int) else n) else none
    else none

/-- Reads the fraction of a second in front of an offset: a point and ASCII digits. -/
def readFraction? (s : List Char) : Option (Nat × List Char) :=
  let digits := (s.takeWhile isAsciiDigit).take 6
  if digits.isEmpty then none else some (fractionMicros digits, s.drop digits.length)

/-- Reads what follows the whole seconds of a reading: a fraction or none, and an offset. -/
def readRest? (clock : WallClock) : List Char → Option (WallClock × Int)
  | '.' :: s => do
    let (micro, s) ← readFraction? s
    let offset ← readOffset? s
    return ({ clock with micro := micro }, offset)
  | s => do
    let offset ← readOffset? s
    return (clock, offset)

/-- Reads a timestamp **with an offset** to the end of the text. -/
def readWithOffset? (s : List Char) : Option (WallClock × Int) := do
  let (date, s) ← readDate? s
  let s ← readChar? (fun c => c == 'T' || c == 't') s
  let (clock, s) ← readTime? date s
  readRest? clock s

/-- Reads a timestamp in the **literal form** to the end of the text: one or more blanks stand
between date and time, and the clock is UTC. -/
def readLiteral? (s : List Char) : Option (WallClock × Int) := do
  let (date, s) ← readDate? s
  let s ← readChar? isBlank s
  let (clock, s) ← readTime? date (s.dropWhile isBlank)
  if s.isEmpty then return (clock, 0) else none

/-- The moment of a reading, if a clock can show it. -/
def moment? : WallClock × Int → Option Moment
  | (clock, offset) => if clock.IsValid then some ⟨clock.micros, some offset⟩ else none

/-- The **moment** that a bound of a date range denotes. -/
def parse? (text : String) : Option Moment :=
  match (readWithOffset? (cutFraction text.toList)).bind moment? with
  | some m => some m
  | none => (readLiteral? text.toList).bind moment?

end ClusterMetrics.Calendar.Timestamp
