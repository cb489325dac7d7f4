/-! # A place in a document

Documents are read from the left. A cursor knows what is left of the text, and the line and the
column that it has come to, both counted from zero.

* **`Fault`**: why a document cannot be read. **`Cursor`**: a place in a document.
* **`Cursor.step`**, **`Cursor.skip`**, **`Cursor.skipWhile`**, **`Cursor.takeWhile`**: moving on.
* **`Cursor.takeBreak`**: a line break and what it counts as. -/

namespace ClusterMetrics.Yaml

/-- Why a document **cannot be read**. -/
inductive Fault
  /-- It holds a character that is not allowed anywhere. -/
  | character
  /-- Its characters make no tokens. -/
  | token
  /-- Its tokens make no nodes. -/
  | node
  /-- Its nodes make no single document: an alias is unknown, an anchor is taken, or more follows. -/
  | composition
  /-- A node has a tag that does not fit it, or is no key. -/
  | construction
  /-- A number or a date does not exist. -/
  | number
  /-- A truth value is not spelled like one. -/
  | truth
  /-- A time is not spelled like one. -/
  | time
  deriving DecidableEq, Repr

/-- A line break. -/
def isBreak (c : Char) : Bool := c == '\n' || c == '\x85' || c == '\u2028' || c == '\u2029'

/-- A space or a tab. -/
def isGap (c : Char) : Bool := c == ' ' || c == '\t'

/-- Whether a place is at the end of a line. -/
def endsLine : Option Char → Bool
  | none => true
  | some c => isBreak c

/-- Whether a place is at the end of a word: a space, or the end of a line. -/
def endsName : Option Char → Bool
  | none => true
  | some c => isBreak c || c == ' '

/-- Whether a place is at the end of a word that a tab ends too. -/
def endsWord : Option Char → Bool
  | none => true
  | some c => isBreak c || isGap c

/-- A **place in a document**. -/
structure Cursor where
  rest : List Char
  index : Nat
  line : Nat
  column : Nat

namespace Cursor

/-- The begin of a text. -/
def ofText (text : List Char) : Cursor := ⟨text, 0, 0, 0⟩

/-- The character at a place. -/
def peek (c : Cursor) : Option Char := c.rest.head?

/-- The character a number of characters ahead. -/
def peekAt (c : Cursor) (n : Nat) : Option Char := c.rest[n]?

/-- Whether the text is at its end. -/
def atEnd (c : Cursor) : Bool := c.rest.isEmpty

/-- One character on. A byte order mark takes no column. -/
def step (c : Cursor) : Cursor :=
  match c.rest with
  | [] => c
  | d :: rest =>
    if isBreak d then ⟨rest, c.index + 1, c.line + 1, 0⟩
    else ⟨rest, c.index + 1, c.line, if d = '\ufeff' then c.column else c.column + 1⟩

/-- A number of characters on. -/
def skip : Nat → Cursor → Cursor
  | 0, c => c
  | n + 1, c => skip n c.step

/-- On for at most a number of characters, as long as the place satisfies a condition. -/
def skipSome (p : Cursor → Bool) : Nat → Cursor → Cursor
  | 0, c => c
  | n + 1, c => if p c then skipSome p n c.step else c

/-- On as long as the characters satisfy a condition. -/
def skipWhile (p : Char → Bool) (c : Cursor) : Cursor :=
  skipSome (fun d => d.peek.any p) c.rest.length c

/-- The characters at a place that satisfy a condition, and the place behind them. -/
def takeWhile (p : Char → Bool) (c : Cursor) : List Char × Cursor :=
  (c.rest.takeWhile p, c.skipWhile p)

/-- The rest of a line, and the place before its break. -/
def takeLine (c : Cursor) : List Char × Cursor := c.takeWhile fun d => !isBreak d

/-- The **line break** at a place, if there is one; the common ones count as a line feed. -/
def takeBreak? (c : Cursor) : Option (Char × Cursor) :=
  match c.peek with
  | some d => if isBreak d then some (if d = '\x85' then '\n' else d, c.step) else none
  | none => none

/-- On through the spaces before a column. -/
def skipIndent (column : Nat) (c : Cursor) : Cursor :=
  skipSome (fun d => d.column < column && d.peek == some ' ') c.rest.length c

/-- Whether a line of a place begins with three marks and then a word ends. -/
def isMarker (mark : Char) (c : Cursor) : Bool :=
  c.rest.take 3 == [mark, mark, mark] && endsWord (c.peekAt 3)

/-- Whether a document ends or begins at a place. -/
def isSeparator (c : Cursor) : Bool := c.isMarker '-' || c.isMarker '.'

end Cursor

end ClusterMetrics.Yaml
