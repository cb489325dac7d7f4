import ClusterMetrics.Text.Quoted
import ClusterMetrics.Text.Utf8

/-! # Percent-encoded text

A percent sign and two hexadecimal digits stand for a byte, and runs of bytes are read as UTF-8 with
replacement. A percent sign without two digits stands for itself. Characters beyond ASCII are no
bytes: they are kept, and no character of bytes runs across them.

* **`Piece`**, **`pieces`**: the bytes and kept characters of a text. **`percentDecode`**: its reading.
* **`percentEncode`**: a text with everything but letters, digits and `-._~` encoded. -/

namespace ClusterMetrics.Text

/-- A **piece** of a percent-encoded text. -/
inductive Piece
  | byte (b : Nat)
  | kept (c : Char)
  deriving DecidableEq, Repr

/-- The piece of a character that stands for itself. -/
def Piece.ofChar (c : Char) : Piece := if c.toNat < 0x80 then .byte c.toNat else .kept c

/-- The byte written by two hexadecimal digits. -/
def hexByte? (a b : Char) : Option Nat := do
  let high ← hexValue? a
  let low ← hexValue? b
  return high * 16 + low

/-- The **pieces** of a percent-encoded text. -/
def pieces : List Char → List Piece
  | [] => []
  | c :: a :: b :: rest =>
    match if c = '%' then hexByte? a b else none with
    | some n => .byte n :: pieces rest
    | none => .ofChar c :: pieces (a :: b :: rest)
  | c :: rest => .ofChar c :: pieces rest

/-- The text of pieces, with a character of bytes begun or not. -/
def readPieces (pending : Option Utf8.Pending) : List Piece → List Char
  | [] => Utf8.finish pending
  | .byte b :: rest =>
    let (out, next) := Utf8.step pending b
    out ++ readPieces next rest
  | .kept c :: rest => Utf8.finish pending ++ c :: readPieces none rest

/-- The **reading** of a percent-encoded text. -/
def percentDecode (s : List Char) : List Char := readPieces none (pieces s)

/-- Whether a character is written as itself. -/
def isUnreserved (c : Char) : Bool :=
  c.isAlphanum || c == '-' || c == '.' || c == '_' || c == '~'

/-- A text **percent-encoded**. -/
def percentEncode (s : List Char) : List Char :=
  s.flatMap fun c =>
    if isUnreserved c then [c] else (Utf8.encodeChar c).flatMap fun b => '%' :: hex 2 b

end ClusterMetrics.Text
