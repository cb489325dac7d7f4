import ClusterMetrics.Calendar.WallClock
import ClusterMetrics.Decimal.Reading

/-! # Interchange times

Times inside records are read generously: text in the interchange form, with one of four separators
between date and time, seconds optional and a fraction cut at the microsecond; a bare date, which is
its midnight; or a number of seconds since 1970-01-01 UTC, which beyond `secondsLimit` is taken as
milliseconds.

* **`Moment.ofIso?`**: text in the interchange form. **`Moment.ofMicros?`**: a number.
* **`Moment.ofText?`**: text of either kind. -/

namespace ClusterMetrics.Calendar.Moment

open ClusterMetrics.Text ClusterMetrics.Decimal

/-- Reads two ASCII digits as a number of at most `limit`. -/
def readPair? (limit : Nat) : List Char → Option (Nat × List Char)
  | a :: b :: rest => do
    let high ← asciiDigit? a
    let low ← asciiDigit? b
    if high * 10 + low ≤ limit then return (high * 10 + low, rest) else none
  | _ => none

/-- Reads one given character. -/
def expect? (c : Char) : List Char → Option (List Char)
  | [] => none
  | d :: rest => if d = c then some rest else none

/-- Reads a date, `YYYY-MM-DD`, that the calendar has. -/
def readIsoDate? (s : List Char) : Option (Date × List Char) := do
  let (century, s) ← readPair? 99 s
  let (years, s) ← readPair? 99 s
  let s ← expect? '-' s
  let (month, s) ← readPair? 12 s
  let s ← expect? '-' s
  let (day, s) ← readPair? 31 s
  let date : Date := ⟨century * 100 + years, month, day⟩
  if 1 ≤ date.year ∧ date.IsValid then return (date, s) else none

/-- Reads the fraction of a second; digits after the sixth do not count. -/
def readIsoFraction? : List Char → Option (Nat × List Char)
  | c :: rest =>
    if c = '.' ∨ c = ',' then
      let digits := (rest.takeWhile isAsciiDigit)
      if digits.isEmpty then none
      else
        let kept := digits.take 6
        some (digitsToNat kept * tenTo (6 - kept.length), rest.dropWhile isAsciiDigit)
    else some (0, c :: rest)
  | [] => some (0, [])

/-- Reads a time of day whose seconds are optional. -/
def readIsoTime? (date : Date) (s : List Char) : Option (WallClock × List Char) := do
  let (hour, s) ← readPair? 23 s
  let s ← expect? ':' s
  let (minute, s) ← readPair? 59 s
  match s with
  | ':' :: s =>
    let (second, s) ← readPair? 59 s
    let (micro, s) ← readIsoFraction? s
    return (⟨date, hour, minute, second, micro⟩, s)
  | _ => return (⟨date, hour, minute, 0, 0⟩, s)

/-- Reads an offset to the end of the text; no offset at all is none. -/
def readIsoOffset? : List Char → Option (Option Int)
  | [] => some none
  | c :: rest =>
    if (c = 'Z' ∨ c = 'z') ∧ rest = [] then some (some 0)
    else if c = '+' ∨ c = '-' ∨ c = '\u2212' then do
      let (hours, s) ← readPair? 23 rest
      let (minutes, s) ← readPair? 59 (if s.head? = some ':' then s.tail else s)
      if s.isEmpty then
        let micros : Int := ((hours * 60 + minutes) * 60000000 : Nat)
        return some (if c = '+' then micros else -micros)
      else none
    else none

/-- The moment of a text in the **interchange form**. -/
def ofIso? (text : String) : Option Moment := do
  let (date, s) ← readIsoDate? text.toList
  match s with
  | [] => return ⟨(WallClock.mk date 0 0 0 0).micros, none⟩
  | separator :: s =>
    if separator = 'T' ∨ separator = 't' ∨ separator = ' ' ∨ separator = '_' then
      let (clock, s) ← readIsoTime? date s
      let offset ← readIsoOffset? s
      return ⟨clock.micros, offset⟩
    else none

/-- Numbers beyond this many seconds are milliseconds. -/
def secondsLimit : Nat := 20000000000

/-- The seconds of 1600-01-01, the earliest time that a number stands for. -/
def earliestSecond : Int := -11676096000

/-- The last second of the year 9999. -/
def latestSecond : Int := 253402300799

/-- The UTC moment of an exact number `n / d` of seconds or milliseconds. -/
def ofRatio? (n : Int) (d : Nat) : Option Moment :=
  let scale : Nat := if n.natAbs ≤ secondsLimit * d then 1000000 else 1000
  let magnitude := roundDiv (n.natAbs * scale) d
  let micros : Int := if n < 0 then -(magnitude : Int) else magnitude
  if earliestSecond ≤ micros / 1000000 ∧ micros / 1000000 ≤ latestSecond then
    some ⟨micros, some 0⟩
  else none

/-- The UTC moment of a double. -/
def ofFloat? (x : Float) : Option Moment := do
  let b ← finite? x
  ofRatio? (if b.negative then -(b.numerator : Int) else b.numerator) b.denominator

/-- Reads a plain decimal without an exponent to the end of the text, as a ratio. -/
def readRatio? (s : List Char) : Option (Int × Nat) :=
  let (negative, s) := splitSign s
  let whole := s.takeWhile isAsciiDigit
  let fraction := match s.dropWhile isAsciiDigit with
    | [] => some []
    | '.' :: digits => if digits.all isAsciiDigit then some digits else none
    | _ => none
  match fraction with
  | none => none
  | some digits =>
    if whole.isEmpty then none
    else
      let n : Int := digitsToNat (whole ++ digits)
      some (if negative then -n else n, tenTo digits.length)

/-- The moment of a text: the interchange form, or a number of seconds or milliseconds. -/
def ofText? (text : String) : Option Moment :=
  match ofIso? text with
  | some m => some m
  | none => (readRatio? text.toList).bind fun r => ofRatio? r.1 r.2

end ClusterMetrics.Calendar.Moment
