import ClusterMetrics.Zone.Basic
import ClusterMetrics.Text.Characters

/-! # Encoded zones

The zone tables keep each history as one line of four parts, separated by bars:

1. the offsets of the zone in seconds, the one before the first change in front;
2. the instant from which the first change is counted;
3. the changes, each a number in base 32 (digits `0` to `9` and `a` to `v`) of seconds since the
   previous change, and a capital letter that names the offset by its place;
4. the rule for the open future, as a name and offset of standard time and, where clocks are turned,
   a name and offset of daylight saving time and the two turns.

`decode` reads such a line. -/

namespace ClusterMetrics.Zone.Encoding

open ClusterMetrics.Text

/-- The parts of a text between the separators `sep`. -/
def splitOn (sep : Char) : List Char → List (List Char)
  | [] => [[]]
  | c :: rest =>
    match splitOn sep rest with
    | [] => [[c]]
    | part :: parts => if c = sep then [] :: part :: parts else (c :: part) :: parts

/-- Reads a whole number with an optional sign. -/
def readInt : List Char → Int
  | '-' :: rest => -(digitsToNat rest : Int)
  | '+' :: rest => digitsToNat rest
  | rest => digitsToNat rest

/-- The value of a base-32 digit. -/
def digit32? (c : Char) : Option Nat :=
  if '0' ≤ c ∧ c ≤ '9' then some (c.toNat - '0'.toNat)
  else if 'a' ≤ c ∧ c ≤ 'v' then some (c.toNat - 'a'.toNat + 10)
  else none

/-- Reads the **changes** of a zone. `time` is the instant of the previous change, and `elapsed` the
number of seconds read so far. -/
def readChanges (offsets : List Int) (time : Int) (elapsed : Nat) : List Char → List (Int × Int)
  | [] => []
  | c :: rest =>
    match digit32? c with
    | some d => readChanges offsets time (elapsed * 32 + d) rest
    | none =>
      let start := time + elapsed
      (start, offsets.getD (c.toNat - 'A'.toNat) 0) :: readChanges offsets start 0 rest

/-- Reads a time of day, hours with optional minutes and seconds and an optional sign. -/
def readClock (s : List Char) : Int :=
  let (negative, s) := match s with
    | '-' :: rest => (true, rest)
    | '+' :: rest => (false, rest)
    | rest => (false, rest)
  let seconds : Nat := match (splitOn ':' s).map digitsToNat with
    | [h] => h * 3600
    | [h, m] => h * 3600 + m * 60
    | [h, m, s] => h * 3600 + m * 60 + s
    | _ => 0
  if negative then -(seconds : Int) else seconds

/-- The text after the name of a time: letters, or anything in angle brackets. -/
def skipName : List Char → List Char
  | '<' :: rest => (rest.dropWhile (· != '>')).tail
  | s => s.dropWhile Char.isAlpha

/-- Whether a character belongs to a time of day. -/
def isClockChar (c : Char) : Bool := isAsciiDigit c || c == ':' || c == '+' || c == '-'

/-- Reads a day of the year: `Mm.w.d`, `Jn` or `n`. -/
def readYearDay : List Char → YearDay
  | 'M' :: rest =>
    match (splitOn '.' rest).map digitsToNat with
    | [month, week, weekday] => .inMonth month week weekday
    | _ => .counted 0
  | 'J' :: rest => .plain (digitsToNat rest)
  | rest => .counted (digitsToNat rest)

/-- Reads a turn of the clocks: a day and, after a slash, a time other than two o'clock. -/
def readTurn (s : List Char) : Turn :=
  match splitOn '/' s with
  | [day, time] => ⟨readYearDay day, readClock time⟩
  | day :: _ => ⟨readYearDay day, 7200⟩
  | [] => ⟨.counted 0, 7200⟩

/-- Reads the **rule for the open future**. Written offsets count towards the west, and daylight saving
time without an offset is an hour ahead of standard time. -/
def readTail (s : List Char) : Tail :=
  match splitOn ',' s with
  | [names, start, stop] =>
    let s := skipName names
    let standard := -readClock (s.takeWhile isClockChar)
    let written := skipName (s.dropWhile isClockChar)
    let daylight := if written.isEmpty then standard + 3600 else -readClock written
    .seasonal standard daylight (readTurn start) (readTurn stop)
  | names :: _ => .fixed (-readClock (skipName names))
  | [] => .fixed 0

/-- The zone of an **encoded history**. -/
def decode (line : String) : Zone :=
  match splitOn '|' line.toList with
  | [offsets, start, changes, tail] =>
    let offsets := (splitOn ' ' offsets).map readInt
    ⟨offsets.headD 0, readChanges offsets (readInt start) 0 changes, readTail tail⟩
  | _ => Zone.utc

end ClusterMetrics.Zone.Encoding
