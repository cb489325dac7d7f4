import ClusterMetrics.Calendar.WallClock
import ClusterMetrics.Decimal.Reading
import ClusterMetrics.Text.Quoted
import ClusterMetrics.Value
import ClusterMetrics.Yaml.Cursor

/-! # What plain text stands for

Plain text without a tag stands for a null, a truth value, a number or a time if it is spelled like one,
and otherwise for itself. Whole numbers are decimal, binary after `0b`, octal after `0`, hexadecimal
after `0x`, or written in sixties with colons; underscores do not count.

* **`ScalarTag`**, **`ScalarTag.ofPlain`**: what a spelling stands for.
* **`ScalarTag.read`**: the value of a text under a tag. -/

namespace ClusterMetrics.Yaml

open ClusterMetrics.Calendar ClusterMetrics.Decimal ClusterMetrics.Text

/-- What a scalar **stands for**. -/
inductive ScalarTag
  | null
  | bool
  | int
  | float
  | time
  | text
  /-- The key whose value is merged into the mapping. -/
  | merge
  /-- The key of a value that a mapping stands for. -/
  | default
  deriving DecidableEq, Repr

/-- A text is one of some words. -/
def isOneOf (words : List String) (s : List Char) : Bool := words.contains (String.ofList s)

/-- The spellings of null. -/
def nullWords : List String := ["", "~", "null", "Null", "NULL"]

/-- The words for true, in lower case. -/
def yesWords : List String := ["yes", "true", "on"]

/-- The words for false, in lower case. -/
def noWords : List String := ["no", "false", "off"]

/-- A word in lower case, with a capital, and in capitals. -/
def wordForms (word : String) : List String := [word, word.capitalize, word.toUpper]

/-- The spellings of truth values. -/
def boolWords : List String := (yesWords ++ noWords).flatMap wordForms

/-- A digit, or an underscore that does not count. -/
def isSpacedDigit (c : Char) : Bool := isAsciiDigit c || c == '_'

/-- A text without its underscores. -/
def withoutUnderscores (s : List Char) : List Char := s.filter (· != '_')

/-- The parts of a text between colons. -/
def colonParts : List Char → List (List Char)
  | [] => [[]]
  | c :: rest =>
    match colonParts rest with
    | [] => [[c]]
    | part :: more => if c = ':' then [] :: part :: more else (c :: part) :: more

/-- A part of a number in sixties behind the first: one digit, or two below sixty. -/
def isSixtieth : List Char → Bool
  | [a] => isAsciiDigit a
  | [a, b] => '0' ≤ a && a ≤ '5' && isAsciiDigit b
  | _ => false

/-- Decimal digits that begin with a digit other than zero. -/
def isPlainDecimal : List Char → Bool
  | [] => false
  | c :: rest => c != '0' && isAsciiDigit c && rest.all isSpacedDigit

/-- Decimal digits that begin with a digit. -/
def isSpacedDecimal : List Char → Bool
  | [] => false
  | c :: rest => isAsciiDigit c && rest.all isSpacedDigit

/-- Digits of some kind, of which there is one at least. -/
def isDigits (isDigit : Char → Bool) (s : List Char) : Bool :=
  !s.isEmpty && s.all fun c => isDigit c || c == '_'

/-- A whole number without its sign. -/
def isIntForm : List Char → Bool
  | '0' :: 'b' :: rest => isDigits (fun c => c == '0' || c == '1') rest
  | '0' :: 'x' :: rest => isDigits (fun c => (hexValue? c).isSome) rest
  | '0' :: rest => rest.all fun c => ('0' ≤ c && c ≤ '7') || c == '_'
  | s =>
    match colonParts s with
    | [whole] => isPlainDecimal whole
    | first :: more => isPlainDecimal first && more.all isSixtieth
    | [] => false

/-- An exponent with its sign, or nothing. -/
def isExponent : List Char → Bool
  | [] => true
  | e :: sign :: digits =>
    (e == 'e' || e == 'E') && (sign == '-' || sign == '+') && !digits.isEmpty &&
      digits.all isAsciiDigit
  | _ => false

/-- The digits and the exponent behind a point. -/
def isFraction (s : List Char) : Bool := isExponent (s.dropWhile isSpacedDigit)

/-- A number with a point, in decimals or in sixties, without its sign. -/
def isPointForm (s : List Char) : Bool :=
  match s.dropWhile (· != '.') with
  | [] => false
  | _ :: fraction =>
    match colonParts (s.takeWhile (· != '.')) with
    | [whole] => isSpacedDecimal whole && isFraction fraction
    | first :: more =>
      isSpacedDecimal first && more.all isSixtieth && fraction.all isSpacedDigit
    | [] => false

/-- A number with a fraction. -/
def isFloatForm (s : List Char) : Bool :=
  isPointForm (splitSign s).2 || isOneOf [".inf", ".Inf", ".INF"] (splitSign s).2 ||
    isOneOf [".nan", ".NaN", ".NAN"] s ||
    match s with
    | '.' :: c :: rest => isAsciiDigit c && isFraction rest
    | _ => false

/-! ## Times -/

/-- Some digits at the head of a text. -/
def takeDigits? (least most : Nat) (s : List Char) : Option (Nat × List Char) :=
  let digits := (s.take most).takeWhile isAsciiDigit
  if digits.length < least then none else some (digitsToNat digits, s.drop digits.length)

/-- A character at the head of a text. -/
def takeChar? (c : Char) : List Char → Option (List Char)
  | [] => none
  | d :: rest => if c = d then some rest else none

/-- The offset at the end of a time: nothing, a letter, or hours and perhaps minutes with a sign. -/
def timeOffset? : List Char → Option (Option Int)
  | [] => some none
  | ['Z'] => some (some 0)
  | sign :: rest => do
    if sign ≠ '-' ∧ sign ≠ '+' then none
    let (hours, rest) ← takeDigits? 1 2 rest
    let minutes ← match rest with
      | [] => some 0
      | ':' :: rest => (takeDigits? 2 2 rest).bind fun r => if r.2.isEmpty then some r.1 else none
      | _ => none
    let micros : Int := (hours * 60 + minutes) * 60000000
    return some (if sign = '-' then -micros else micros)

/-- The space between the date and the time of day. -/
def skipTimeGap? : List Char → Option (List Char)
  | [] => none
  | c :: rest =>
    if c = 'T' ∨ c = 't' then some rest
    else if isGap c then some (rest.dropWhile isGap)
    else none

/-- A clock reading as it was spelled, with its offset; a date alone was spelled in full. -/
structure SpelledTime where
  clock : WallClock
  offset : Option Int
  isBareDate : Bool
  isPadded : Bool

/-- Reads the spelling of a time, whether it exists or not. -/
def spelledTime? (s : List Char) : Option SpelledTime := do
  let (year, s) ← takeDigits? 4 4 s
  let s ← takeChar? '-' s
  let (month, s') ← takeDigits? 1 2 s
  let s'' ← takeChar? '-' s'
  let (day, rest) ← takeDigits? 1 2 s''
  let date : Date := ⟨year, month, day⟩
  let isPadded := s.length = s'.length + 2 ∧ s''.length = rest.length + 2
  if rest.isEmpty then return ⟨⟨date, 0, 0, 0, 0⟩, none, true, isPadded⟩
  let s ← skipTimeGap? rest
  let (hour, s) ← takeDigits? 1 2 s
  let s ← takeChar? ':' s
  let (minute, s) ← takeDigits? 2 2 s
  let s ← takeChar? ':' s
  let (second, s) ← takeDigits? 2 2 s
  let (fraction, s) := match s with
    | '.' :: s => (s.takeWhile isAsciiDigit, s.dropWhile isAsciiDigit)
    | _ => ([], s)
  let kept := fraction.take 6
  let micro := digitsToNat kept * tenTo (6 - kept.length)
  let offset ← timeOffset? (s.dropWhile isGap)
  if offset.isNone && !s.isEmpty then none
  else return ⟨⟨date, hour, minute, second, micro⟩, offset, false, isPadded⟩

/-- A day in microseconds. -/
def dayMicros : Nat := 86400000000

/-- The moment of a spelled time that exists. -/
def SpelledTime.moment? (t : SpelledTime) : Option Moment :=
  if t.clock.IsValid ∧ (t.offset.getD 0).natAbs < dayMicros then some ⟨t.clock.micros, t.offset⟩
  else none

/-- A spelling that stands for a time without a tag. -/
def isTimeForm (s : List Char) : Bool :=
  (spelledTime? s).any fun t => !t.isBareDate || t.isPadded

/-! ## Tags -/

namespace ScalarTag

/-- What **plain text** stands for. -/
def ofPlain (s : List Char) : ScalarTag :=
  if isOneOf nullWords s then null
  else if isOneOf boolWords s then bool
  else if isFloatForm s then float
  else if isIntForm (splitSign s).2 then int
  else if s = ['<', '<'] then merge
  else if isTimeForm s then time
  else if s = ['='] then default
  else text

/-- The tag of an address. -/
def ofUri? (uri : String) : Option ScalarTag :=
  [("tag:yaml.org,2002:null", null), ("tag:yaml.org,2002:bool", bool),
   ("tag:yaml.org,2002:int", int), ("tag:yaml.org,2002:float", float),
   ("tag:yaml.org,2002:timestamp", time), ("tag:yaml.org,2002:str", text),
   ("tag:yaml.org,2002:merge", merge), ("tag:yaml.org,2002:value", default)].lookup uri

end ScalarTag

/-- The number of digits in some base. -/
def readBase? (base : Nat) (s : List Char) : Option Nat :=
  if s.isEmpty then none
  else s.foldlM (fun n c => do
    let d ← hexValue? c
    if d < base then return n * base + d else none) 0

/-- Decimal digits, up to a number of them that is converted. -/
def readDecimalDigits? (s : List Char) : Option Nat :=
  if 4300 < s.length then none else readBase? 10 s

/-- A whole number without its sign and without underscores. -/
def readIntForm? : List Char → Option Nat
  | ['0'] => some 0
  | '0' :: 'b' :: rest => readBase? 2 rest
  | '0' :: 'x' :: rest => readBase? 16 rest
  | '0' :: rest => readBase? 8 rest
  | s => ((colonParts s).mapM readDecimalDigits?).map fun parts =>
      parts.foldl (fun n part => n * 60 + part) 0

/-- A number with a fraction, without its sign and without underscores. -/
def readFloatForm? (s : List Char) : Option Float :=
  if isOneOf [".inf"] (asciiLower s) then some (infinity false)
  else if isOneOf [".nan"] (asciiLower s) then some nan
  else
    match colonParts s with
    | [_] => readUnsigned? (trim s)
    | parts => (parts.mapM readUnsigned?).map fun parts =>
        parts.reverse.foldl (fun (sum : Float × Float) part =>
          (sum.1 + part * sum.2, sum.2 * 60.0)) (0.0, 1.0) |>.1

/-- The truth value of a word in any case. -/
def readTruth? (s : List Char) : Option Bool :=
  let word := asciiLower s
  if isOneOf yesWords word then some true else if isOneOf noWords word then some false else none

/-- The **value of a text** under a tag. -/
def ScalarTag.read (s : List Char) : ScalarTag → Except Fault Value
  | null => .ok .null
  | bool =>
    match readTruth? s with
    | some b => .ok (.bool b)
    | none => .error .truth
  | int =>
    let (negative, digits) := splitSign (withoutUnderscores s)
    match readIntForm? digits with
    | some n => .ok (.int (if negative then -n else n))
    | none => .error .number
  | float =>
    let (negative, digits) := splitSign (withoutUnderscores s)
    match readFloatForm? digits with
    | some x => .ok (.float (if negative then -x else x))
    | none => .error .number
  | time =>
    match spelledTime? s with
    | none => .error .time
    | some t =>
      match t.moment? with
      | some m => .ok (.moment m)
      | none => .error .number
  | text => .ok (.text (String.ofList s))
  | merge => .error .construction
  | default => .error .construction

end ClusterMetrics.Yaml
