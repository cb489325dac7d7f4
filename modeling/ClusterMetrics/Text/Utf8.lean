/-! # UTF-8 with replacement

Bytes are numbers below 256. `encodeChar` writes a character, and `decodeBytes` reads bytes of any
kind: every maximal run of bytes that begins a character but does not finish it, and every byte that
begins none, becomes the replacement character. -/

namespace ClusterMetrics.Text.Utf8

/-- The **replacement character**. -/
def replacement : Char := '\ufffd'

/-- The bytes of a code point. -/
def encodeNat (n : Nat) : List Nat :=
  if n < 0x80 then [n]
  else if n < 0x800 then [0xc0 + n / 0x40, 0x80 + n % 0x40]
  else if n < 0x10000 then [0xe0 + n / 0x1000, 0x80 + n / 0x40 % 0x40, 0x80 + n % 0x40]
  else [0xf0 + n / 0x40000, 0x80 + n / 0x1000 % 0x40, 0x80 + n / 0x40 % 0x40, 0x80 + n % 0x40]

/-- The **bytes of a character**. -/
def encodeChar (c : Char) : List Nat := encodeNat c.toNat

/-- A character **begun** but not finished: the bits read so far, the number of bytes that follow, and
the range that the next one must lie in. -/
structure Pending where
  bits : Nat
  left : Nat
  low : Nat
  high : Nat
  deriving DecidableEq, Repr

/-- What a byte outside a begun character yields: a character, or the begin of one. -/
def start (b : Nat) : List Char × Option Pending :=
  if b < 0x80 then ([Char.ofNat b], none)
  else if b < 0xc2 then ([replacement], none)
  else if b < 0xe0 then ([], some ⟨b - 0xc0, 1, 0x80, 0xbf⟩)
  else if b < 0xf0 then
    ([], some ⟨b - 0xe0, 2, if b = 0xe0 then 0xa0 else 0x80, if b = 0xed then 0x9f else 0xbf⟩)
  else if b < 0xf5 then
    ([], some ⟨b - 0xf0, 3, if b = 0xf0 then 0x90 else 0x80, if b = 0xf4 then 0x8f else 0xbf⟩)
  else ([replacement], none)

/-- What a byte yields, with a character begun or not. -/
def step : Option Pending → Nat → List Char × Option Pending
  | none, b => start b
  | some p, b =>
    if p.low ≤ b ∧ b ≤ p.high then
      let bits := p.bits * 0x40 + (b - 0x80)
      if p.left = 1 then ([Char.ofNat bits], none) else ([], some ⟨bits, p.left - 1, 0x80, 0xbf⟩)
    else
      let (out, next) := start b
      (replacement :: out, next)

/-- What the end of the bytes yields. -/
def finish : Option Pending → List Char
  | none => []
  | some _ => [replacement]

/-- Reads bytes, with a character begun or not. -/
def decodeFrom (pending : Option Pending) : List Nat → List Char
  | [] => finish pending
  | b :: rest =>
    let (out, next) := step pending b
    out ++ decodeFrom next rest

/-- The text of **any bytes**. -/
def decodeBytes (bytes : List Nat) : List Char := decodeFrom none bytes

end ClusterMetrics.Text.Utf8
