import ClusterMetrics.Decimal.Binary

/-! # A set number of decimal places

Rounding and printing start from the exact binary value, so the decimal nearest to it is chosen and
a half goes to the even last digit.

* **`Binary.toPlaces b p`**: the magnitude in units of `10 ^ -p`.
* **`fixed p x`**: the text with `p` places.
* **`roundTo p x`**: the double nearest to the decimal with `p` places. -/

namespace ClusterMetrics.Decimal

/-- The magnitude of `b` in units of the `places`-th decimal place, **rounded to nearest**. -/
def Binary.toPlaces (b : Binary) (places : Nat) : Nat :=
  roundDiv (b.numerator * tenTo places) b.denominator

/-- The decimal digits of `n`, at least `width` of them. -/
def paddedDigits (width n : Nat) : String :=
  let digits := Nat.toDigits 10 n
  String.ofList (List.replicate (width - digits.length) '0' ++ digits)

/-- The text of `n` units of the `places`-th decimal place. -/
def placesText (places n : Nat) : String :=
  let whole := toString (n / tenTo places)
  if places = 0 then whole else whole ++ "." ++ paddedDigits places (n % tenTo places)

/-- The text of a finite value with `places` **decimal places**. The sign is kept at zero. -/
def Binary.fixed (places : Nat) (b : Binary) : String :=
  (if b.negative then "-" else "") ++ placesText places (b.toPlaces places)

/-- The text of a double with `places` decimal places. -/
def fixed (places : Nat) (x : Float) : String :=
  match classify x with
  | .nan => "nan"
  | .infinite negative => if negative then "-inf" else "inf"
  | .finite b => b.fixed places

/-- The double nearest to the decimal with `places` places that is nearest to `x`. -/
def roundTo (places : Nat) (x : Float) : Float :=
  match classify x with
  | .finite b =>
    let magnitude := Float.ofScientific (b.toPlaces places) true places
    if b.negative then -magnitude else magnitude
  | _ => x

/-- The whole number nearest to `x`, a half to the even one; zero is positive. -/
def roundWhole (x : Float) : Float :=
  match classify x with
  | .finite b =>
    let n := b.toPlaces 0
    if b.negative && n != 0 then -Float.ofNat n else Float.ofNat n
  | _ => x

end ClusterMetrics.Decimal
