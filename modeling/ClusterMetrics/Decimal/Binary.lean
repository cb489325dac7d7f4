/-! # Binary floating-point values as exact numbers

A finite double is `± mantissa · 2 ^ exponent`. `classify` reads a double apart, and everything that
has to be exact about it (rounding, printing, remainders) is said of the natural numbers it yields.

* **`twoTo`**, **`tenTo`**: the powers that doubles and decimals are counted in.
* **`Binary`**: sign, mantissa and exponent of a finite value, with `numerator` and `denominator`.
* **`classify x`**: not a number, an infinity, or a finite `Binary`.
* **`Binary.ofRatio n d`**: the double nearest to a ratio, as a `Binary`.
* **`roundDiv n d`**: the whole number nearest to a ratio, a half going to the even neighbour. -/

namespace ClusterMetrics.Decimal

/-! ## Powers -/

/-- A **power of two**. -/
def twoTo (n : Nat) : Nat := Nat.pow 2 n

/-- A **power of ten**. -/
def tenTo (n : Nat) : Nat := Nat.pow 10 n

@[simp] theorem twoTo_zero : twoTo 0 = 1 := rfl

@[simp] theorem tenTo_zero : tenTo 0 = 1 := rfl

theorem twoTo_succ (n : Nat) : twoTo (n + 1) = twoTo n * 2 := rfl

theorem tenTo_succ (n : Nat) : tenTo (n + 1) = tenTo n * 10 := rfl

theorem twoTo_pos (n : Nat) : 0 < twoTo n := by
  induction n with
  | zero => decide
  | succ n ih =>
    rw [twoTo_succ]
    omega

/-! ## Doubles -/

/-- The **finite binary value** `± mantissa · 2 ^ exponent`. -/
structure Binary where
  /-- Whether the sign is negative; zero has a sign too. -/
  negative : Bool
  /-- The magnitude in units of `2 ^ exponent`. -/
  mantissa : Nat
  /-- The power of two that the mantissa counts. -/
  exponent : Int
  deriving DecidableEq, Repr

/-- What a double stands for. -/
inductive FloatClass
  | nan
  | infinite (negative : Bool)
  | finite (value : Binary)
  deriving DecidableEq, Repr

/-- A double **read apart** from its sign bit, its eleven exponent bits and its fraction. -/
def classify (x : Float) : FloatClass :=
  let bits := x.toBits.toNat
  let negative := bits / twoTo 63 == 1
  let exponent : Nat := bits / twoTo 52 % twoTo 11
  let fraction : Nat := bits % twoTo 52
  if exponent = 2047 then if fraction = 0 then .infinite negative else .nan
  else if exponent = 0 then .finite ⟨negative, fraction, -1074⟩
  else .finite ⟨negative, fraction + twoTo 52, (exponent : Int) - 1075⟩

/-- The finite value of a double, if it has one. -/
def finite? (x : Float) : Option Binary :=
  match classify x with
  | .finite b => some b
  | _ => none

/-- Whether a double is neither an infinity nor not a number. -/
def isFinite (x : Float) : Bool := (finite? x).isSome

/-- Whether a double is not a number. -/
def isNaN (x : Float) : Bool := classify x == .nan

/-- The double that is not a number. -/
def nan : Float := 0.0 / 0.0

/-- The infinity of either sign. -/
def infinity (negative : Bool) : Float := if negative then -1.0 / 0.0 else 1.0 / 0.0

/-- The quotient `n / d` rounded to the **nearest** whole number, a half to the even neighbour. -/
def roundDiv (n d : Nat) : Nat :=
  let q := n / d
  let r := n % d
  if 2 * r < d then q else if d < 2 * r then q + 1 else q + q % 2

/-- A number that divides exactly rounds to the quotient. -/
theorem roundDiv_mul_right {d : Nat} (h : 0 < d) (q : Nat) : roundDiv (q * d) d = q := by
  simp [roundDiv, Nat.mul_div_cancel _ h, h]

namespace Binary

/-- The magnitude is `numerator / denominator`. -/
def numerator (b : Binary) : Nat := b.mantissa * twoTo b.exponent.toNat

/-- The denominator of the magnitude, a power of two. -/
def denominator (b : Binary) : Nat := twoTo (-b.exponent).toNat

theorem denominator_pos (b : Binary) : 0 < b.denominator := twoTo_pos _

/-- The magnitude **rounded down** to a whole number. -/
def floorMagnitude (b : Binary) : Nat := b.numerator / b.denominator

/-- The value rounded towards zero. -/
def truncate (b : Binary) : Int :=
  if b.negative then -(b.floorMagnitude : Int) else b.floorMagnitude

/-- The value rounded **down** to a whole number. -/
def floor (b : Binary) : Int :=
  if b.negative then -(((b.numerator + (b.denominator - 1)) / b.denominator : Nat) : Int)
  else b.floorMagnitude

/-- The value rounded **up** to a whole number. -/
def ceil (b : Binary) : Int :=
  if b.negative then -(b.floorMagnitude : Int)
  else ((b.numerator + (b.denominator - 1)) / b.denominator : Nat)

/-- Whether the value is a whole number. -/
def isWhole (b : Binary) : Bool := b.numerator % b.denominator == 0

/-- The exponent at which the mantissa of `n / d` has 53 binary digits, but no less than the least
exponent of a double. -/
def ratioExponent (n d : Nat) : Int :=
  let e : Int := (n.log2 : Int) - (d.log2 : Int) - 52
  let e := if n * twoTo (-e).toNat < d * twoTo e.toNat * twoTo 52 then e - 1 else e
  max e (-1074)

/-- The **double nearest** to `n / d`, a half going to the even mantissa. Overflow is not represented:
a ratio of any size is rounded to 53 binary digits. -/
def ofRatio (n : Int) (d : Nat) : Binary :=
  let e := ratioExponent n.natAbs d
  ⟨n < 0, roundDiv (n.natAbs * twoTo (-e).toNat) (d * twoTo e.toNat), e⟩

/-- The double nearest to the value divided by `k`. -/
def divNat (b : Binary) (k : Nat) : Binary :=
  ofRatio (if b.negative then -(b.numerator : Int) else b.numerator) (b.denominator * k)

/-- The double of a binary value whose magnitude a double holds exactly. -/
def toFloat (b : Binary) : Float :=
  let magnitude := Float.ofNat b.numerator / Float.ofNat b.denominator
  if b.negative then -magnitude else magnitude

end Binary

end ClusterMetrics.Decimal
