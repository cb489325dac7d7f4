import ClusterMetrics.Value
import ClusterMetrics.Decimal.Shortest
import ClusterMetrics.Text.Quoted

/-! # Writing JSON

`render` writes a value as one line of JSON. Strings escape the quote, the backslash and the control
characters; numbers are written in the fewest digits; moments are written as text. -/

namespace ClusterMetrics.Json

open ClusterMetrics.Text

/-- One character of a string literal. -/
def escapeChar (c : Char) : List Char :=
  if c = doubleQuote ∨ c = backslash then [backslash, c]
  else if c.toNat < 0x20 then backslash :: 'u' :: hex 4 c.toNat
  else [c]

/-- A text as a **string literal**. -/
def stringLiteral (s : String) : String :=
  String.ofList (doubleQuote :: s.toList.flatMap escapeChar ++ [doubleQuote])

mutual

/-- A value as **one line of JSON**. -/
def render : Value → String
  | .null => "null"
  | .bool b => if b then "true" else "false"
  | .int n => toString n
  | .float x => Decimal.shortest x
  | .text s => stringLiteral s
  | .list items => "[" ++ renderItems items ++ "]"
  | .dict entries => "\x7b" ++ renderEntries entries ++ "\x7d"
  | .moment m => stringLiteral m.isoText

/-- The items of a list, separated by commas. -/
def renderItems : List Value → String
  | [] => ""
  | [v] => render v
  | v :: rest => render v ++ "," ++ renderItems rest

/-- The entries of an object, separated by commas. -/
def renderEntries : List (String × Value) → String
  | [] => ""
  | [(key, v)] => stringLiteral key ++ ":" ++ render v
  | (key, v) :: rest => stringLiteral key ++ ":" ++ render v ++ "," ++ renderEntries rest

end

end ClusterMetrics.Json
