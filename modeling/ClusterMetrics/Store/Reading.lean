import ClusterMetrics.Record.Coerce

/-! # Stored sample values

The value column of the samples holds doubles. Text that spells a number is stored as that number;
other text stays text. Zero has no sign in the store, and what is not a number is absent.

* **`Reading`**: a stored value. **`Reading.ofValue`** stores, **`Reading.toValue`** reads back.
* **`Reading.sum`**: the sum of a column, compensated for rounding; absent values do not count. -/

namespace ClusterMetrics

open ClusterMetrics.Decimal ClusterMetrics.Text

/-- A **stored sample value**. -/
inductive Reading
  | number (x : Float)
  | text (s : String)

namespace Reading

/-- The white space that may surround a stored numeral. -/
def isPadding (c : Char) : Bool := c == ' ' || ('\t' ≤ c && c ≤ '\r')

/-- A double as it is stored. -/
def ofFloat (x : Float) : Option Reading :=
  if isNaN x then none else some (.number (if x == 0.0 then 0.0 else x))

/-- The number that a text spells as a whole. -/
def numeral? (s : String) : Option Float :=
  let (negative, rest) := splitSign (trimBy isPadding s.toList)
  (readMagnitude? rest).map fun x => if negative then -x else x

/-- A value **as it is stored**; nothing, if it is stored as absent. -/
def ofValue : Value → Option Reading
  | .float x => ofFloat x
  | .int n => (floatOfInt? n).bind ofFloat
  | .bool b => some (.number (if b then 1.0 else 0.0))
  | .text s =>
    match numeral? s with
    | some x => ofFloat x
    | none => some (.text s)
  | _ => none

/-- The number that a stored value is **read back** as, if it is one. -/
def number? : Reading → Option Float
  | number x => some x
  | text s => readFloat? s.toList

/-- A stored value as it is read back. -/
def toValue (r : Reading) : Value :=
  match r, r.number? with
  | _, some x => .float x
  | text s, none => .text s
  | number x, none => .float x

/-- The text of the longest numeral at the head of a text. -/
def leadingNumeral (s : List Char) : List Char :=
  let whole := s.takeWhile isAsciiDigit
  let rest := s.dropWhile isAsciiDigit
  let (mantissa, rest) := match rest with
    | '.' :: tail => (whole ++ '.' :: tail.takeWhile isAsciiDigit, tail.dropWhile isAsciiDigit)
    | _ => (whole, rest)
  match rest with
  | e :: tail =>
    if e = 'e' ∨ e = 'E' then
      let digits := (splitSign tail).2.takeWhile isAsciiDigit
      let sign := tail.take (tail.length - (splitSign tail).2.length)
      if digits.isEmpty then mantissa else mantissa ++ e :: sign ++ digits
    else mantissa
  | [] => mantissa

/-- The number that a stored value adds to a sum: text counts by the numeral at its head. -/
def addend : Reading → Float
  | number x => x
  | text s =>
    let (negative, rest) := splitSign (s.toList.dropWhile isPadding)
    let x := (readMagnitude? (leadingNumeral rest)).getD 0.0
    if negative then -x else x

/-- A running sum and the part of it lost to rounding. -/
structure RunningSum where
  total : Float
  lost : Float

/-- The sum of no values. -/
def RunningSum.zero : RunningSum := ⟨0.0, 0.0⟩

/-- The size of a number. -/
def magnitude (x : Float) : Float := if x < 0.0 then -x else x

/-- Adds a number: what the rounded total lost is recovered from the smaller of its terms. -/
def RunningSum.add (s : RunningSum) (x : Float) : RunningSum :=
  let total := s.total + x
  if magnitude s.total > magnitude x then ⟨total, s.lost + ((s.total - total) + x)⟩
  else ⟨total, s.lost + ((x - total) + s.total)⟩

/-- The sum, corrected by what was lost; nothing if it is not a number. -/
def RunningSum.result (s : RunningSum) : Option Float :=
  let x := if isFinite s.lost then s.total + s.lost else s.total
  if isNaN x then none else some x

/-- The **sum** of the values that are present; nothing if none is. -/
def sum (values : List (Option Reading)) : Option Float :=
  match values.filterMap id with
  | [] => none
  | present => (present.foldl (fun s r => s.add r.addend) RunningSum.zero).result

end Reading

end ClusterMetrics
