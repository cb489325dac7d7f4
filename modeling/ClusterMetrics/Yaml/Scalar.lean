import ClusterMetrics.Text.Characters
import ClusterMetrics.Text.Quoted
import ClusterMetrics.Yaml.Cursor

/-! # Written scalars

A scalar is written plain, in quotes of either kind, or as an indented block. Lines of the first three
are folded: a break counts as a space, and of several breaks all but the first count as themselves.

* **`scanPlain`**: plain text, which ends before a mark. **`scanQuoted`**: text in quotes.
* **`scanBlock`**: an indented block, with its lines kept or folded. -/

namespace ClusterMetrics.Yaml

open ClusterMetrics.Text

/-! ## Plain text -/

/-- The marks that end plain text inside brackets. -/
def isFlowMark (c : Char) : Bool := c == ',' || c == '?' || c == '[' || c == ']' || c == '{' || c == '}'

/-- Whether plain text ends **before** a character: at white space, at a colon that a word ends
behind, and inside brackets at a mark. -/
def endsPlain (inFlow : Bool) (c : Char) (next : Option Char) : Bool :=
  isBreak c || isGap c ||
    (c == ':' && (endsWord next || (inFlow && next.any fun d => d != '?' && isFlowMark d))) ||
    (inFlow && isFlowMark c)

/-- The characters of plain text up to a place that ends it. -/
def plainRun (inFlow : Bool) : List Char → List Char
  | [] => []
  | c :: rest => if endsPlain inFlow c rest.head? then [] else c :: plainRun inFlow rest

/-- The breaks of blank lines, spaces around them left out; nothing, if a document separator is met. -/
def plainBreaks : Nat → Cursor → Option (List Char) × Cursor
  | 0, c => (some [], c)
  | n + 1, c =>
    let c := c.skipWhile (· == ' ')
    match c.takeBreak? with
    | none => (some [], c)
    | some (b, c) =>
      if c.isSeparator then (none, c)
      else
        let (breaks, c) := plainBreaks n c
        (breaks.map (b :: ·), c)

/-- What line breaks count as: the first one as a space unless more follow. -/
def foldBreaks (first : Char) (more : List Char) : List Char :=
  if first ≠ '\n' then first :: more else if more.isEmpty then [' '] else more

/-- The space between parts of plain text: what it counts as, whether a line ended in it, and the place
behind it. -/
def plainSpace (c : Cursor) : List Char × Bool × Cursor :=
  let (spaces, c) := c.takeWhile (· == ' ')
  match c.takeBreak? with
  | none => (spaces, false, c)
  | some (b, c) =>
    if c.isSeparator then ([], true, c)
    else
      match plainBreaks c.rest.length c with
      | (none, c) => ([], true, c)
      | (some breaks, c) => (foldBreaks b breaks, true, c)

/-- **Plain text** behind some space: its characters, whether a line ended behind it, and the place
there. Outside brackets it ends where the indentation does. -/
def plainParts (inFlow : Bool) (indent : Int) : Nat → List Char → Bool → Cursor →
    List Char × Bool × Cursor
  | 0, _, ended, c => ([], ended, c)
  | n + 1, space, ended, c =>
    let run := if c.peek = some '#' then [] else plainRun inFlow c.rest
    if run.isEmpty then ([], ended, c)
    else
      let (next, ended, c) := plainSpace (c.skip run.length)
      if next.isEmpty || c.peek == some '#' || (!inFlow && (c.column : Int) < indent) then
        (space ++ run, ended, c)
      else
        let (more, ended, c) := plainParts inFlow indent n next ended c
        (space ++ run ++ more, ended, c)

/-- Scans **plain text**. -/
def scanPlain (inFlow : Bool) (indent : Int) (c : Cursor) : List Char × Bool × Cursor :=
  plainParts inFlow indent c.rest.length [] false c

/-! ## Quoted text -/

/-- The breaks of blank lines inside quotes, where no document may end. -/
def quotedBreaks : Nat → Cursor → Except Fault (List Char × Cursor)
  | 0, c => .ok ([], c)
  | n + 1, c =>
    if c.isSeparator then .error .token
    else
      let c := c.skipWhile isGap
      match c.takeBreak? with
      | none => .ok ([], c)
      | some (b, c) => (quotedBreaks n c).map fun (breaks, c) => (b :: breaks, c)

/-- The space inside quotes, folded if it holds a break. -/
def quotedSpace (c : Cursor) : Except Fault (List Char × Cursor) :=
  let (spaces, c) := c.takeWhile isGap
  if c.atEnd then .error .token
  else
    match c.takeBreak? with
    | none => .ok (spaces, c)
    | some (b, c) =>
      (quotedBreaks c.rest.length c).map fun (breaks, c) => (foldBreaks b breaks, c)

/-- The characters of the **one-letter escapes**. -/
def escapes : List (Char × Char) :=
  [('0', '\x00'), ('a', '\x07'), ('b', '\x08'), ('t', '\t'), ('\t', '\t'), ('n', '\n'),
   ('v', '\x0b'), ('f', '\x0c'), ('r', '\r'), ('e', '\x1b'), (' ', ' '), (doubleQuote, doubleQuote),
   (backslash, backslash), ('/', '/'), ('N', '\x85'), ('_', '\xa0'), ('L', '\u2028'),
   ('P', '\u2029')]

/-- The number of hexadecimal digits behind the letter of a numeric escape. -/
def escapeLength? (c : Char) : Option Nat :=
  if c = 'x' then some 2 else if c = 'u' then some 4 else if c = 'U' then some 8 else none

/-- The number that hexadecimal digits write. -/
def hexNumber? (digits : List Char) : Option Nat :=
  digits.foldlM (fun n c => (hexValue? c).map (n * 16 + ·)) 0

/-- The characters of an **escape**, from behind its backslash. -/
def scanEscape (c : Cursor) : Except Fault (List Char × Cursor) :=
  match c.peek with
  | none => .error .token
  | some d =>
    match escapes.lookup d, escapeLength? d, c.takeBreak? with
    | some e, _, _ => .ok ([e], c.step)
    | none, some n, _ =>
      let digits := c.step.rest.take n
      match if digits.length = n then hexNumber? digits else none with
      | some code => .ok ([Char.ofNat code], c.step.skip n)
      | none => .error .token
    | none, none, some (_, c) => quotedBreaks c.rest.length c
    | none, none, none => .error .token

/-- The characters inside quotes `mark` up to white space or the end. -/
def quotedRun (mark : Char) : Nat → Cursor → Except Fault (List Char × Cursor)
  | 0, c => .ok ([], c)
  | n + 1, c =>
    match c.peek with
    | none => .ok ([], c)
    | some d =>
      if isBreak d || isGap d then .ok ([], c)
      else if d = mark then
        if mark = singleQuote ∧ c.peekAt 1 = some mark then
          (quotedRun mark n (c.skip 2)).map fun (run, c) => (mark :: run, c)
        else .ok ([], c)
      else if d = backslash ∧ mark = doubleQuote then do
        let (escaped, c) ← scanEscape c.step
        let (run, c) ← quotedRun mark n c
        return (escaped ++ run, c)
      else (quotedRun mark n c.step).map fun (run, c) => (d :: run, c)

/-- Text inside quotes up to the closing one. -/
def quotedParts (mark : Char) : Nat → Cursor → Except Fault (List Char × Cursor)
  | 0, _ => .error .token
  | n + 1, c => do
    let (run, c) ← quotedRun mark c.rest.length c
    if c.peek = some mark then return (run, c.step)
    else
      let (space, c) ← quotedSpace c
      let (more, c) ← quotedParts mark n c
      return (run ++ space ++ more, c)

/-- Scans **text in quotes** `mark` from the opening one. -/
def scanQuoted (mark : Char) (c : Cursor) : Except Fault (List Char × Cursor) :=
  quotedParts mark (c.rest.length + 1) c.step

/-! ## Blocks -/

/-- What becomes of the breaks at the end of a block. -/
inductive Chomping
  /-- All are dropped. -/
  | strip
  /-- The first is kept. -/
  | clip
  /-- All are kept. -/
  | keep
  deriving DecidableEq, Repr

/-- The mark of a chomping. -/
def Chomping.ofMark? (c : Char) : Option Chomping :=
  if c = '+' then some .keep else if c = '-' then some .strip else none

/-- The head of a block: its chomping, and its indentation if it is told. -/
structure BlockHead where
  chomping : Chomping
  increment : Option Nat

/-- A chomping mark at a place. -/
def takeChomping (c : Cursor) : Option Chomping × Cursor :=
  match c.peek.bind Chomping.ofMark? with
  | some chomping => (some chomping, c.step)
  | none => (none, c)

/-- An indentation at a place, which is not zero. -/
def takeIncrement (c : Cursor) : Except Fault (Option Nat × Cursor) :=
  match c.peek.bind asciiDigit? with
  | none => .ok (none, c)
  | some 0 => .error .token
  | some n => .ok (some n, c.step)

/-- The rest of a line that may hold **nothing but a comment**, and its break. -/
def skipComment (c : Cursor) : Except Fault Cursor :=
  let c := c.skipWhile (· == ' ')
  let c := if c.peek = some '#' then c.takeLine.2 else c
  if endsLine c.peek then
    match c.takeBreak? with
    | some (_, c) => .ok c
    | none => .ok c
  else .error .token

/-- The head of a block: a chomping and an indentation in either order. -/
def scanBlockHead (c : Cursor) : Except Fault (BlockHead × Cursor) := do
  let (before, c) := takeChomping c
  let (increment, c) ← takeIncrement c
  let (after, c) := if before.isNone && increment.isSome then takeChomping c else (none, c)
  if !endsName c.peek then throw .token
  return (⟨(before.or after).getD .clip, increment⟩, ← skipComment c)

/-- The breaks of blank lines in front of a block, and the greatest column of spaces among them. -/
def blockMargin : Nat → Nat → Cursor → List Char × Nat × Cursor
  | 0, column, c => ([], column, c)
  | n + 1, column, c =>
    if c.peek = some ' ' then blockMargin n (max column c.step.column) c.step
    else
      match c.takeBreak? with
      | none => ([], column, c)
      | some (b, c) =>
        let (breaks, column, c) := blockMargin n column c
        (b :: breaks, column, c)

/-- The breaks of blank lines inside a block of an indentation. -/
def blockBreaks (indent : Nat) : Nat → Cursor → List Char × Cursor
  | 0, c => ([], c)
  | n + 1, c =>
    let c := c.skipIndent indent
    match c.takeBreak? with
    | none => ([], c)
    | some (b, c) =>
      let (breaks, c) := blockBreaks indent n c
      (b :: breaks, c)

/-- The lines of a block: their text, the last break, the breaks of the blank lines behind it, and
the place there. -/
structure BlockLines where
  text : List Char
  lastBreak : List Char
  blank : List Char
  cursor : Cursor

/-- The lines of a block behind blank lines. Where lines are folded, a break between two lines that
do not begin with white space counts as a space. -/
def blockLines (folded : Bool) (indent : Nat) : Nat → List Char → Cursor → BlockLines
  | 0, blank, c => ⟨[], [], blank, c⟩
  | n + 1, blank, c =>
    if c.column = indent ∧ ¬ c.atEnd then
      let flush := !c.peek.any isGap
      let (line, c) := c.takeLine
      let (lastBreak, c) := match c.takeBreak? with
        | some (b, c) => ([b], c)
        | none => ([], c)
      let (breaks, c) := blockBreaks indent (c.rest.length + 1) c
      if c.column = indent ∧ ¬ c.atEnd then
        let joint :=
          if folded && lastBreak == ['\n'] && flush && !c.peek.any isGap then
            if breaks.isEmpty then [' '] else []
          else lastBreak
        let more := blockLines folded indent n breaks c
        { more with text := blank ++ line ++ joint ++ more.text }
      else ⟨blank ++ line, lastBreak, breaks, c⟩
    else ⟨[], [], blank, c⟩

/-- Scans an **indented block** from its mark, below a node of some indentation. -/
def scanBlock (folded : Bool) (parent : Int) (c : Cursor) : Except Fault (List Char × Cursor) := do
  let (head, c) ← scanBlockHead c.step
  let least := (max 1 (parent + 1)).toNat
  let (indent, blank, c) := match head.increment with
    | none =>
      let (breaks, column, c) := blockMargin c.rest.length 0 c
      (max least column, breaks, c)
    | some n =>
      let (breaks, c) := blockBreaks (least + n - 1) (c.rest.length + 1) c
      (least + n - 1, breaks, c)
  let lines := blockLines folded indent (c.rest.length + 1) blank c
  let text := lines.text ++ (if head.chomping = .strip then [] else lines.lastBreak) ++
    (if head.chomping = .keep then lines.blank else [])
  return (text, lines.cursor)

end ClusterMetrics.Yaml
