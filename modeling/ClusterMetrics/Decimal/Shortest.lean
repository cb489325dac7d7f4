import ClusterMetrics.Decimal.Binary

/-! # The shortest decimal that reads back

A double is printed with the fewest digits that identify it: of all decimals that round to the
double, one with the least number of digits, and of those the nearest.

* **`Binary.readsBack b d g`**: whether `d · 10 ^ g` rounds to `b`.
* **`shortestDigits b`**: the digits and their decimal exponent.
* **`Layout`**: where positional writing ends. **`shortest x`**: the text of a double. -/

namespace ClusterMetrics.Decimal

/-- Whether `a · 10 ^ g · 2 ^ -e` compares at most with `b`, in natural numbers. -/
def scaledLe (a : Nat) (g e : Int) (b : Nat) : Bool :=
  a * tenTo g.toNat * twoTo (-e).toNat ≤ b * tenTo (-g).toNat * twoTo e.toNat

/-- Whether `a · 10 ^ g · 2 ^ -e` compares at least with `b`, in natural numbers. -/
def scaledGe (a : Nat) (g e : Int) (b : Nat) : Bool :=
  b * tenTo (-g).toNat * twoTo e.toNat ≤ a * tenTo g.toNat * twoTo (-e).toNat

/-- Whether the decimal `d · 10 ^ g` lies in the interval that **rounds to** the magnitude of `b`. In
quarters of the last binary place the interval reaches two to either side, but only one below a power
of two; its ends belong to it exactly when the mantissa is even. -/
def Binary.readsBack (b : Binary) (d : Nat) (g : Int) : Bool :=
  let below := if b.mantissa = twoTo 52 ∧ -1074 < b.exponent then 1 else 2
  let low := 4 * b.mantissa - below
  let high := 4 * b.mantissa + 2
  let e := b.exponent - 2
  if b.mantissa % 2 = 0 then scaledGe d g e low && scaledLe d g e high
  else !scaledLe d g e low && !scaledGe d g e high

/-- The least `k` with magnitude below `10 ^ k`, for a magnitude that is not zero. -/
def Binary.scale (b : Binary) : Int :=
  let estimate := (((b.numerator.log2 : Int) - (b.denominator.log2 : Int)) * 30103).fdiv 100000
  let below (k : Int) : Bool := b.numerator * tenTo (-k).toNat < b.denominator * tenTo k.toNat
  (([estimate - 1, estimate, estimate + 1].find? below).getD (estimate + 2))

/-- The grid point of `10 ^ g` that reads back, the nearer one if both neighbours do. -/
def Binary.onGrid (b : Binary) (g : Int) : Option Nat :=
  let n := b.numerator * tenTo (-g).toNat
  let d := b.denominator * tenTo g.toNat
  let low := n / d
  match b.readsBack low g, b.readsBack (low + 1) g with
  | true, false => some low
  | false, true => some (low + 1)
  | false, false => none
  | true, true => if 2 * (n % d) < d ∨ (2 * (n % d) = d ∧ low % 2 = 0) then some low else some (low + 1)

/-- Tries grids with ever more digits, `count` of them. -/
def Binary.searchGrid (b : Binary) (scale : Int) : Nat → Nat → Nat × Int
  | 0, digits =>
    let g := scale - digits
    (b.numerator * tenTo (-g).toNat / (b.denominator * tenTo g.toNat), g)
  | count + 1, digits =>
    let g := scale - digits
    match b.onGrid g with
    | some d => (d, g)
    | none => b.searchGrid scale count (digits + 1)

/-- Moves trailing zeros of the digits into the exponent, at most `fuel` of them. -/
def stripZeros : Nat → Nat → Int → Nat × Int
  | 0, d, g => (d, g)
  | fuel + 1, d, g => if d % 10 = 0 then stripZeros fuel (d / 10) (g + 1) else (d, g)

/-- The **shortest digits** `d` and exponent `g` with `d · 10 ^ g` reading back as the magnitude of a
value that is not zero. -/
def Binary.shortestDigits (b : Binary) : Nat × Int :=
  let (d, g) := b.searchGrid b.scale 17 1
  stripZeros 20 d g

/-- How digits are laid out: the exponents of the first digit that are written **positionally**, and
the least number of digits of a written exponent. -/
structure Layout where
  /-- The least exponent written positionally. -/
  least : Int
  /-- The first exponent no longer written positionally. -/
  limit : Int
  /-- The least number of exponent digits. -/
  exponentWidth : Nat

/-- The text of `d · 10 ^ g`, always with a point or an exponent. -/
def Layout.render (layout : Layout) (d : Nat) (g : Int) : String :=
  let digits := Nat.toDigits 10 d
  let point : Int := (digits.length : Int) + g
  let exponent := point - 1
  if layout.least ≤ exponent ∧ exponent < layout.limit then
    if point ≤ 0 then
      "0." ++ String.ofList (List.replicate (-point).toNat '0' ++ digits)
    else if g ≥ 0 then
      String.ofList (digits ++ List.replicate g.toNat '0') ++ ".0"
    else
      String.ofList (digits.take point.toNat) ++ "." ++ String.ofList (digits.drop point.toNat)
  else
    let tail := digits.drop 1
    let mantissa := digits.take 1 ++ (if tail.isEmpty then [] else '.' :: tail)
    let written := Nat.toDigits 10 exponent.natAbs
    let padded := List.replicate (layout.exponentWidth - written.length) '0' ++ written
    String.ofList mantissa ++ "e" ++ (if exponent < 0 then "-" else "+") ++ String.ofList padded

/-- Numbers are written positionally from `0.0001` up to but not including `10 ^ 16`. -/
def numberLayout : Layout := ⟨-4, 16, 2⟩

/-- The text of a finite value in the fewest digits. -/
def Binary.shortest (b : Binary) : String :=
  (if b.negative then "-" else "") ++
    if b.mantissa = 0 then "0.0"
    else
      let (d, g) := b.shortestDigits
      numberLayout.render d g

/-- The text of a double in the **fewest digits that identify it**. -/
def shortest (x : Float) : String :=
  match classify x with
  | .nan => "nan"
  | .infinite negative => if negative then "-inf" else "inf"
  | .finite b => b.shortest

end ClusterMetrics.Decimal
