import ClusterMetrics.Decimal.Fixed

/-! # Printed durations

Lengths of time are printed in two ways: `durationText` with one unit chosen by size, for the time a
query took, and `uptimeText` with hours, minutes and seconds, for the time the server has run. The
unit is chosen before the number is rounded.

* **`floorDivMod`**: quotient rounded down and remainder of doubles, each correctly rounded. -/

namespace ClusterMetrics.Status

open ClusterMetrics.Decimal

/-- A duration in **microseconds, milliseconds or seconds**. -/
def durationText (seconds : Float) : String :=
  if seconds < 0.001 then fixed 0 (seconds * 1000000.0) ++ "µs"
  else if seconds < 1.0 then fixed 3 (seconds * 1000.0) ++ "ms"
  else fixed 3 seconds ++ "s"

/-- The exact **remainder** of a finite double by a positive number, with the sign of the double. -/
def remainder (x : Float) (b : Binary) (divisor : Nat) : Float :=
  if b.numerator < divisor * b.denominator then x
  else Binary.toFloat ⟨b.negative, b.numerator % (divisor * b.denominator), min b.exponent 0⟩

/-- The whole number next below a double, given as a double close to it. -/
def floorFloat (x : Float) : Float :=
  match finite? x with
  | none => x
  | some b =>
    let n := b.floor
    if n < 0 then -Float.ofNat n.natAbs else Float.ofNat n.toNat

/-- **Quotient and remainder** of a finite double by a positive whole number: the remainder has the sign
of the divisor, and the quotient is rounded down. -/
def floorDivMod (x : Float) (b : Binary) (divisor : Nat) : Float × Float :=
  let d := Float.ofNat divisor
  let rest := remainder x b divisor
  let quotient := (x - rest) / d
  let (rest, quotient) :=
    if rest == 0.0 then (0.0, quotient)
    else if rest < 0.0 then (rest + d, quotient - 1.0)
    else (rest, quotient)
  if quotient == 0.0 then (0.0, rest)
  else
    let whole := floorFloat quotient
    (if quotient - whole > 0.5 then whole + 1.0 else whole, rest)

/-- The whole number that a double stands for, as text. -/
def wholeText (x : Float) : String :=
  match finite? x with
  | some b => toString b.truncate
  | none => ""

/-- An **uptime** in hours, minutes and seconds, leading zero units left out. Only a finite number of
seconds has one. -/
def uptimeText? (seconds : Float) : Option String := do
  let b ← finite? seconds
  let (hours, rest) := floorDivMod seconds b 3600
  let r ← finite? rest
  let (minutes, secs) := floorDivMod rest r 60
  let secondsText := fixed 1 secs ++ "s"
  if hours != 0.0 then
    return wholeText hours ++ "h" ++ wholeText minutes ++ "m" ++ secondsText
  else if minutes != 0.0 then
    return wholeText minutes ++ "m" ++ secondsText
  else
    return secondsText

end ClusterMetrics.Status
