import ClusterMetrics.Calendar.Iso
import ClusterMetrics.Decimal.Reading
import ClusterMetrics.Value

/-! # Lax coercion

A field of a record, an incident or a configuration has a type, and a value of another kind is
converted where nothing is lost: text that spells a number, a number without a fraction for a whole
one, zero and one for a truth value.

* **`Issue`**: why a value is refused. **`coerceInt`**, **`coerceFloat`**, **`coerceText`**,
  **`coerceBool`**, **`coerceMoment`**: the conversions. -/

namespace ClusterMetrics

open ClusterMetrics.Calendar ClusterMetrics.Decimal ClusterMetrics.Text

/-- Why a value is **refused**. -/
inductive Issue
  | missing
  | intType
  | intParsing
  | intParsingSize
  | intFromFloat
  | finiteNumber
  | floatType
  | floatParsing
  | stringType
  | boolType
  | boolParsing
  | datetimeType
  | datetimeParsing
  | datetimeFromDateParsing
  | greaterThan
  | valueError
  deriving DecidableEq, Repr

/-- The code of an issue in a validation report. -/
def Issue.code : Issue → String
  | missing => "missing"
  | intType => "int_type"
  | intParsing => "int_parsing"
  | intParsingSize => "int_parsing_size"
  | intFromFloat => "int_from_float"
  | finiteNumber => "finite_number"
  | floatType => "float_type"
  | floatParsing => "float_parsing"
  | stringType => "string_type"
  | boolType => "bool_type"
  | boolParsing => "bool_parsing"
  | datetimeType => "datetime_type"
  | datetimeParsing => "datetime_parsing"
  | datetimeFromDateParsing => "datetime_from_date_parsing"
  | greaterThan => "greater_than"
  | valueError => "value_error"

/-- The numeral without the zeros in front of its first other digit; of zeros alone, one stays.
Underscores among those zeros go with them. Behind a minus nothing is dropped. -/
def withoutLeadingZeros? : List Char → Option (List Char)
  | [] => none
  | c :: rest =>
    if c = '0' then
      let dropped := rest.takeWhile fun d => d == '0' || d == '_'
      let kept := rest.dropWhile fun d => d == '0' || d == '_'
      match kept.head? with
      | some d =>
        if isAsciiDigit d then some kept
        else if d = '.' ∧ dropped.getLast? ≠ some '_' then some ('0' :: kept)
        else none
      | none => if dropped.getLast? = some '_' then none else some ['0']
    else if c = '-' ∨ isAsciiDigit c then some (c :: rest)
    else none

/-- The numeral without a point that only zeros follow; any other fraction is refused. -/
def withoutZeroFraction? (s : List Char) : Option (List Char) :=
  match s.dropWhile (· != '.') with
  | [] => some s
  | _ :: zeros =>
    if zeros.isEmpty || !zeros.all (· == '0') then none else some (s.takeWhile (· != '.'))

/-- Reads digits, perhaps behind a minus, in which no zero stands in front of another digit. -/
def readCanonical? (s : List Char) : Option Int :=
  let negative := s.head? = some '-'
  let digits := if negative then s.drop 1 else s
  if digits.isEmpty || !digits.all isAsciiDigit then none
  else if digits.head? = some '0' ∧ digits.length ≠ 1 then none
  else
    let n : Int := digitsToNat digits
    some (if negative then -n else n)

/-- Reads a **whole number**: white space around it, a sign, digits with underscores between them, and
perhaps a point followed by zeros. Zeros in front are skipped, but not behind a minus. -/
def readWhole? (s : List Char) : Option Int := do
  let s := trim s
  let unsigned := if s.head? = some '+' then s.drop 1 else s
  if s.head? = some '+' ∧ unsigned.head? = some '-' then none
  else
    let s ← withoutLeadingZeros? unsigned
    let s ← withoutZeroFraction? s
    let s ← withoutSeparators? s
    readCanonical? s

/-- The length of text up to which a numeral is converted. -/
def integerTextLimit : Nat := 4300

/-- The whole number of a double that has no fraction and fits 64 bits. -/
def wholeOfFloat (x : Float) : Except Issue Int :=
  match finite? x with
  | none => .error .finiteNumber
  | some b =>
    if !b.isWhole then .error .intFromFloat
    else if b.floorMagnitude < twoTo 63 then .ok b.truncate
    else .error .intFromFloat

/-- Converts to a **whole number**. -/
def coerceInt : Value → Except Issue Int
  | .int n => .ok n
  | .bool b => .ok (if b then 1 else 0)
  | .float x => wholeOfFloat x
  | .text s =>
    if integerTextLimit < s.utf8ByteSize then .error .intParsingSize
    else match readWhole? s.toList with
      | some n => .ok n
      | none => .error .intParsing
  | _ => .error .intType

/-- The double nearest to a whole number, if it is in the range of doubles. -/
def floatOfInt? (n : Int) : Option Float :=
  let x := ofDecimal n.natAbs 0
  if isFinite x then some (if n < 0 then -x else x) else none

/-- Converts to a **double**. -/
def coerceFloat : Value → Except Issue Float
  | .float x => .ok x
  | .bool b => .ok (if b then 1.0 else 0.0)
  | .int n =>
    match floatOfInt? n with
    | some x => .ok x
    | none => .error .floatType
  | .text s =>
    match readNumber? s.toList with
    | some x => .ok x
    | none => .error .floatParsing
  | _ => .error .floatType

/-- Converts to **text**, which only text does. -/
def coerceText : Value → Except Issue String
  | .text s => .ok s
  | _ => .error .stringType

/-- The words for true. -/
def trueWords : List String := ["true", "t", "yes", "y", "on", "1"]

/-- The words for false. -/
def falseWords : List String := ["false", "f", "no", "n", "off", "0"]

/-- The truth value of a number that is zero or one. -/
def boolOfInt (n : Int) : Except Issue Bool :=
  if n = 0 then .ok false else if n = 1 then .ok true else .error .boolParsing

/-- Whether a number fits 64 bits with a sign. -/
def fits64 (n : Int) : Bool := -(twoTo 63 : Int) ≤ n && n < (twoTo 63 : Int)

/-- Converts to a **truth value**. -/
def coerceBool : Value → Except Issue Bool
  | .bool b => .ok b
  | .int n => if fits64 n then boolOfInt n else .error .boolType
  | .float x =>
    match wholeOfFloat x with
    | .ok n => boolOfInt n
    | .error _ => .error .boolType
  | .text s =>
    let word := String.ofList (asciiLower s.toList)
    if trueWords.contains word then .ok true
    else if falseWords.contains word then .ok false
    else .error .boolParsing
  | _ => .error .boolType

/-- Converts to a **moment**. -/
def coerceMoment : Value → Except Issue Moment
  | .moment m => .ok m
  | .text s =>
    match Moment.ofText? s with
    | some m => .ok m
    | none => .error .datetimeFromDateParsing
  | .int n =>
    match Moment.ofRatio? n 1 with
    | some m => .ok m
    | none => .error .datetimeParsing
  | .float x =>
    match Moment.ofFloat? x with
    | some m => .ok m
    | none => .error .datetimeParsing
  | _ => .error .datetimeType

end ClusterMetrics
