import ClusterMetrics.Text.Utf8
import ClusterMetrics.Yaml.Scalar

/-! # Tokens

A document is a row of tokens: the marks of its structure, most of which follow from indentation, and the
names, tags and scalars between them.

* **`Token`**: the kinds of tokens.
* **`scanDirective`**, **`scanName`**, **`scanTag`**: the tokens that carry a text of their own. -/

namespace ClusterMetrics.Yaml

open ClusterMetrics.Text

/-- A **directive** in front of a document. -/
inductive Directive
  | version (major : Nat)
  | tagHandle (handle uri : String)
  | other
  deriving DecidableEq, Repr

/-- A **token**. -/
inductive Token
  | directive (content : Directive)
  | documentStart
  | documentEnd
  | blockSequenceStart
  | blockMappingStart
  | blockEnd
  | flowSequenceStart
  | flowSequenceEnd
  | flowMappingStart
  | flowMappingEnd
  | blockEntry
  | flowEntry
  | key
  | value
  | alias (name : String)
  | anchor (name : String)
  /-- A tag: a handle, if there is one, and what follows it. -/
  | tag (handle : Option String) (suffix : String)
  /-- A scalar, and whether it was written plain. -/
  | scalar (text : String) (isPlain : Bool)
  | streamEnd
  deriving DecidableEq, Repr

/-- A character of a name. -/
def isNameChar (c : Char) : Bool := c.isAlphanum || c == '-' || c == '_'

/-- A character of the address that a tag names. -/
def isUriChar (c : Char) : Bool :=
  c.isAlphanum || c == singleQuote || "-;/?:@&=+$,_.!~*()[]%".toList.contains c

/-- A name at a place, which is not empty. -/
def takeName (c : Cursor) : Except Fault (List Char × Cursor) :=
  let (name, c) := c.takeWhile isNameChar
  if name.isEmpty then .error .token else .ok (name, c)

/-- Digits at a place, of which there is one at least. -/
def takeNumber (c : Cursor) : Except Fault (Nat × Cursor) :=
  let (digits, c) := c.takeWhile isAsciiDigit
  if digits.isEmpty then .error .token else .ok (digitsToNat digits, c)

/-- The marks that a name may stand in front of. -/
def nameEnds : List Char := ['?', ':', ',', ']', '}', '%', '@', '\x60']

/-- Scans the **name** of an anchor or an alias behind its mark. -/
def scanName (c : Cursor) : Except Fault (String × Cursor) := do
  let (name, c) ← takeName c.step
  if endsWord c.peek || c.peek.any nameEnds.contains then
    return (String.ofList name, c)
  else throw .token

/-! ## Tags -/

/-- The bytes of percent escapes at a place. -/
def takeEscapes : Nat → Cursor → Except Fault (List Nat × Cursor)
  | 0, c => .ok ([], c)
  | n + 1, c =>
    if c.peek = some '%' then
      let digits := c.step.rest.take 2
      match if digits.length = 2 then hexNumber? digits else none with
      | none => .error .token
      | some b => (takeEscapes n (c.skip 3)).map fun (bytes, c) => (b :: bytes, c)
    else .ok ([], c)

/-- The address at a place, with its percent escapes read. -/
def takeUri : Nat → Cursor → Except Fault (List Char × Cursor)
  | 0, c => .ok ([], c)
  | n + 1, c =>
    match c.peek with
    | none => .ok ([], c)
    | some d =>
      if d = '%' then do
        let (bytes, c) ← takeEscapes c.rest.length c
        let text := Utf8.decodeBytes bytes
        if text.flatMap Utf8.encodeChar ≠ bytes then throw .token
        let (rest, c) ← takeUri n c
        return (text ++ rest, c)
      else if isUriChar d then (takeUri n c.step).map fun (rest, c) => (d :: rest, c)
      else .ok ([], c)

/-- Scans an **address**, which is not empty. -/
def scanUri (c : Cursor) : Except Fault (String × Cursor) := do
  let (uri, c) ← takeUri c.rest.length c
  if uri.isEmpty then throw .token else return (String.ofList uri, c)

/-- Scans a **handle**: one mark, or a name between two. -/
def scanHandle (c : Cursor) : Except Fault (String × Cursor) :=
  if c.peek ≠ some '!' then .error .token
  else if c.peekAt 1 = some ' ' then .ok ("!", c.step)
  else
    let (name, c) := c.step.takeWhile isNameChar
    if c.peek = some '!' then .ok (String.ofList ('!' :: name ++ ['!']), c.step) else .error .token

/-- Whether a tag begins with a handle of two marks. -/
def hasHandle (s : List Char) : Bool := (s.takeWhile fun c => !endsName (some c)).contains '!'

/-- The parts of a tag from its mark. -/
def takeTag (c : Cursor) : Except Fault ((Option String × String) × Cursor) := do
  if c.peekAt 1 = some '<' then
    let (uri, c) ← scanUri (c.skip 2)
    if c.peek = some '>' then return ((none, uri), c.step) else throw .token
  else if endsWord (c.peekAt 1) then return ((none, "!"), c.step)
  else
    let (handle, c) ← if hasHandle c.step.rest then scanHandle c else pure ("!", c.step)
    let (suffix, c) ← scanUri c
    return ((some handle, suffix), c)

/-- Scans a **tag**, behind which a name ends. -/
def scanTag (c : Cursor) : Except Fault (Token × Cursor) := do
  let ((handle, suffix), c) ← takeTag c
  if endsName c.peek then return (.tag handle suffix, c) else throw .token

/-! ## Directives -/

/-- The version of a version directive. -/
def scanVersion (c : Cursor) : Except Fault (Directive × Cursor) := do
  let (major, c) ← takeNumber (c.skipWhile (· == ' '))
  if c.peek ≠ some '.' then throw .token
  let (_, c) ← takeNumber c.step
  if endsName c.peek then return (.version major, c) else throw .token

/-- The handle and the address of a tag directive. -/
def scanTagHandle (c : Cursor) : Except Fault (Directive × Cursor) := do
  let (handle, c) ← scanHandle (c.skipWhile (· == ' '))
  if c.peek ≠ some ' ' then throw .token
  let (uri, c) ← scanUri (c.skipWhile (· == ' '))
  if endsName c.peek then return (.tagHandle handle uri, c) else throw .token

/-- Scans a **directive** from its mark to the end of its line. -/
def scanDirective (c : Cursor) : Except Fault (Token × Cursor) := do
  let (name, c) ← takeName c.step
  if !endsName c.peek then throw .token
  let (content, c) ←
    if name = "YAML".toList then scanVersion c
    else if name = "TAG".toList then scanTagHandle c
    else pure (Directive.other, c.takeLine.2)
  return (.directive content, ← skipComment c)

end ClusterMetrics.Yaml
