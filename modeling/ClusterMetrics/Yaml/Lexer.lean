import ClusterMetrics.Yaml.Token

/-! # From text to tokens

Text is cut into tokens from the left. Two things look ahead. A key without a mark of its own is known
only by the colon behind it, so the places where a key may have begun are remembered until they are out
of question. And a node that is indented more than the one around it opens a block, which ends where
the indentation falls back.

* **`PendingKey`**, **`Lexer`**: what is remembered. **`Lexer.advance`**: the next step.
* **`TokenStream`**: the tokens of a text, up to a fault if there is one. **`tokenize`** finds them. -/

namespace ClusterMetrics.Yaml

open ClusterMetrics.Text

/-- A place where a **key may have begun**. -/
structure PendingKey where
  /-- The number of the token that the key begins with. -/
  token : Nat
  /-- Whether nothing else can stand there. -/
  required : Bool
  index : Nat
  line : Nat
  column : Int

/-- The **state** between two steps. -/
structure Lexer where
  cursor : Cursor
  /-- The number of open brackets. -/
  flowLevel : Int
  /-- The column of the innermost block. -/
  indent : Int
  /-- The columns of the blocks around it. -/
  indents : List Int
  /-- Whether a key may begin. -/
  allowsKey : Bool
  /-- The pending keys by their number of open brackets. -/
  pending : List (Int × PendingKey)
  tokens : List Token
  isDone : Bool

namespace Lexer

/-- The state at the begin of a text. -/
def start (text : List Char) : Lexer := ⟨.ofText text, 0, -1, [], true, [], [], false⟩

/-- Whether the place is inside brackets. -/
def inFlow (s : Lexer) : Bool := s.flowLevel != 0

/-- The column of the place. -/
def column (s : Lexer) : Int := s.cursor.column

/-- Adds a token. -/
def push (s : Lexer) (t : Token) : Lexer := { s with tokens := s.tokens ++ [t] }

/-- Adds a token in front of the one with a number. -/
def insertAt (s : Lexer) (n : Nat) (t : Token) : Lexer :=
  { s with tokens := s.tokens.take n ++ t :: s.tokens.drop n }

/-- Adds a token of some characters. -/
def pushMark (s : Lexer) (t : Token) (length : Nat) : Lexer :=
  { s.push t with cursor := s.cursor.skip length }

/-- Adds a scanned token. -/
def pushScanned (s : Lexer) (scanned : Except Fault (Token × Cursor)) : Except Fault Lexer :=
  scanned.map fun (t, cursor) => { s.push t with cursor }

/-! ## Keys -/

/-- The distance beyond which a key is out of question. -/
def keyReach : Nat := 1024

/-- Whether a pending key is **out of question**. -/
def isStale (s : Lexer) (key : PendingKey) : Bool :=
  key.line != s.cursor.line || keyReach < s.cursor.index - key.index

/-- Forgets the keys that are out of question, none of which is required. -/
def dropStale (s : Lexer) : Except Fault Lexer :=
  if s.pending.any fun p => s.isStale p.2 && p.2.required then .error .token
  else .ok { s with pending := s.pending.filter fun p => !s.isStale p.2 }

/-- Forgets the pending key of the innermost brackets, which is not required. -/
def dropKey (s : Lexer) : Except Fault Lexer :=
  if (s.pending.lookup s.flowLevel).any (·.required) then .error .token
  else .ok { s with pending := s.pending.filter fun p => p.1 != s.flowLevel }

/-- Remembers the place as one where a key may begin. -/
def saveKey (s : Lexer) : Except Fault Lexer :=
  if s.allowsKey then do
    let key : PendingKey :=
      ⟨s.tokens.length, !s.inFlow && s.indent == s.column, s.cursor.index, s.cursor.line,
        s.column⟩
    let s ← s.dropKey
    return { s with pending := (s.flowLevel, key) :: s.pending }
  else .ok s

/-! ## Blocks -/

/-- Closes blocks until the columns around are at most the given one. -/
def closeBlocks (column : Int) : List Int → Lexer → Lexer
  | [], s => s
  | outer :: rest, s =>
    if column < s.indent then
      closeBlocks column rest { s.push .blockEnd with indent := outer, indents := rest }
    else s

/-- **Closes the blocks** that are indented more than a column. -/
def unwind (s : Lexer) (column : Int) : Lexer :=
  if s.inFlow then s else closeBlocks column s.indents s

/-- The state in a block at a column that lies inside the innermost one. -/
def openBlock (s : Lexer) (column : Int) : Lexer :=
  { s with indents := s.indent :: s.indents, indent := column }

/-- **Opens a block** if the place lies inside the innermost one. -/
def indentTo (s : Lexer) (t : Token) : Lexer :=
  if s.indent < s.column then (s.openBlock s.column).push t else s

/-! ## Tokens -/

/-- On to the next token: spaces, comments and line breaks. Behind a break a key may begin. -/
def skipSpace : Nat → Lexer → Lexer
  | 0, s => s
  | n + 1, s =>
    let c := s.cursor.skipWhile (· == ' ')
    let c := if c.peek = some '#' then c.takeLine.2 else c
    match c.takeBreak? with
    | none => { s with cursor := c }
    | some (_, c) => skipSpace n { s with cursor := c, allowsKey := s.allowsKey || !s.inFlow }

/-- On to the next token; a byte order mark may begin the text. -/
def toNextToken (s : Lexer) : Lexer :=
  let s := if s.cursor.index = 0 ∧ s.cursor.peek = some '\ufeff' then
    { s with cursor := s.cursor.step } else s
  skipSpace (s.cursor.rest.length + 1) s

/-- Ends the text. -/
def endStream (s : Lexer) : Except Fault Lexer := do
  let s ← (s.unwind (-1)).dropKey
  return { s.push .streamEnd with allowsKey := false, pending := [], isDone := true }

/-- Leaves all blocks, for a token between documents. -/
def leaveDocument (s : Lexer) : Except Fault Lexer :=
  (s.unwind (-1)).dropKey.map fun s => { s with allowsKey := false }

/-- Opens brackets. -/
def openFlow (s : Lexer) (t : Token) : Except Fault Lexer :=
  s.saveKey.map fun s => { s.pushMark t 1 with flowLevel := s.flowLevel + 1, allowsKey := true }

/-- Closes brackets. -/
def closeFlow (s : Lexer) (t : Token) : Except Fault Lexer :=
  s.dropKey.map fun s => { s.pushMark t 1 with flowLevel := s.flowLevel - 1, allowsKey := false }

/-- Separates the entries of brackets. -/
def addFlowEntry (s : Lexer) : Except Fault Lexer :=
  s.dropKey.map fun s => { s.pushMark .flowEntry 1 with allowsKey := true }

/-- Begins the entry of a sequence. -/
def addBlockEntry (s : Lexer) : Except Fault Lexer := do
  if !s.inFlow && !s.allowsKey then throw .token
  let s := if s.inFlow then s else s.indentTo .blockSequenceStart
  let s ← s.dropKey
  return { s.pushMark .blockEntry 1 with allowsKey := true }

/-- Begins a key that has a mark. -/
def addKey (s : Lexer) : Except Fault Lexer := do
  if !s.inFlow && !s.allowsKey then throw .token
  let s := if s.inFlow then s else s.indentTo .blockMappingStart
  let s ← s.dropKey
  return { s.pushMark .key 1 with allowsKey := !s.inFlow }

/-- Turns a pending key into a key. -/
def confirmKey (s : Lexer) (key : PendingKey) : Lexer :=
  let s := { s with pending := s.pending.filter fun p => p.1 != s.flowLevel }
  let s := s.insertAt key.token .key
  let s := if !s.inFlow ∧ s.indent < key.column then
    (s.openBlock key.column).insertAt key.token .blockMappingStart else s
  { s.pushMark .value 1 with allowsKey := false }

/-- Begins a value, behind a pending key or without one. -/
def addValue (s : Lexer) : Except Fault Lexer :=
  match s.pending.lookup s.flowLevel with
  | some key => .ok (s.confirmKey key)
  | none => do
    if !s.inFlow && !s.allowsKey then throw .token
    let s := if s.inFlow then s else s.indentTo .blockMappingStart
    let s ← s.dropKey
    return { s.pushMark .value 1 with allowsKey := !s.inFlow }

/-- Adds a token that a key may begin with and that ends the place of a key. -/
def addWord (s : Lexer) (scan : Cursor → Except Fault (Token × Cursor)) : Except Fault Lexer := do
  let s ← s.saveKey
  { s with allowsKey := false }.pushScanned (scan s.cursor)

/-- Adds an indented block. -/
def addBlock (s : Lexer) (folded : Bool) : Except Fault Lexer := do
  let s ← s.dropKey
  { s with allowsKey := true }.pushScanned <|
    (scanBlock folded s.indent s.cursor).map fun (text, c) => (.scalar (String.ofList text) false, c)

/-- Adds text in quotes. -/
def addQuoted (s : Lexer) (mark : Char) : Except Fault Lexer :=
  s.addWord fun c => (scanQuoted mark c).map fun (text, c) => (.scalar (String.ofList text) false, c)

/-- Adds plain text; a key may begin behind it if a line ended there. -/
def addPlain (s : Lexer) : Except Fault Lexer := do
  let s ← s.saveKey
  let (text, ended, cursor) := scanPlain s.inFlow (s.indent + 1) s.cursor
  return { s.push (.scalar (String.ofList text) true) with cursor, allowsKey := ended }

/-- The marks that plain text cannot begin with, unless it goes on with a character. -/
def marks : List Char :=
  ['-', '?', ':', ',', '[', ']', '{', '}', '#', '&', '*', '!', '|', '>', singleQuote, doubleQuote,
   '%', '@', '\x60']

/-- Whether **plain text** begins with a character in front of another. -/
def beginsPlain (inFlow : Bool) (c : Char) (next : Option Char) : Bool :=
  (!endsWord (some c) && !marks.contains c) ||
    (!endsWord next && (c == '-' || (!inFlow && (c == '?' || c == ':'))))

/-- Adds the token that begins with a character at the place. -/
def addToken (s : Lexer) (c : Char) : Except Fault Lexer :=
  let atLineStart := s.cursor.column == 0
  let standsAlone := endsWord (s.cursor.peekAt 1)
  if c = '%' ∧ atLineStart then
    s.leaveDocument.bind fun s => s.pushScanned (scanDirective s.cursor)
  else if c = '-' ∧ atLineStart ∧ s.cursor.isMarker '-' then
    s.leaveDocument.map (·.pushMark .documentStart 3)
  else if c = '.' ∧ atLineStart ∧ s.cursor.isMarker '.' then
    s.leaveDocument.map (·.pushMark .documentEnd 3)
  else if c = '[' then s.openFlow .flowSequenceStart
  else if c = '{' then s.openFlow .flowMappingStart
  else if c = ']' then s.closeFlow .flowSequenceEnd
  else if c = '}' then s.closeFlow .flowMappingEnd
  else if c = ',' then s.addFlowEntry
  else if c = '-' ∧ standsAlone then s.addBlockEntry
  else if c = '?' ∧ (s.inFlow ∨ standsAlone) then s.addKey
  else if c = ':' ∧ (s.inFlow ∨ standsAlone) then s.addValue
  else if c = '*' then s.addWord fun c => (scanName c).map fun (name, c) => (.alias name, c)
  else if c = '&' then s.addWord fun c => (scanName c).map fun (name, c) => (.anchor name, c)
  else if c = '!' then s.addWord scanTag
  else if c = '|' ∧ !s.inFlow then s.addBlock false
  else if c = '>' ∧ !s.inFlow then s.addBlock true
  else if c = singleQuote then s.addQuoted singleQuote
  else if c = doubleQuote then s.addQuoted doubleQuote
  else if beginsPlain s.inFlow c (s.cursor.peekAt 1) then s.addPlain
  else .error .token

/-- **One step**: the next token, with the ends of blocks before it. -/
def advance (s : Lexer) : Except Fault Lexer := do
  let s ← s.toNextToken.dropStale
  let s := s.unwind s.column
  let s ← match s.cursor.peek with
    | none => s.endStream
    | some c => s.addToken c
  s.dropStale

/-- The number of tokens that are settled: no pending key can move them. -/
def settled (s : Lexer) : Nat := (s.pending.map (·.2.token)).foldl min s.tokens.length

end Lexer

/-- The **tokens of a text**, up to a fault if there is one. -/
structure TokenStream where
  tokens : List Token
  fault : Option Fault

/-- The tokens from a state on. -/
def tokenizeFrom : Nat → Lexer → TokenStream
  | 0, s => ⟨s.tokens.take s.settled, some .token⟩
  | n + 1, s =>
    match s.advance with
    | .error f => ⟨s.tokens.take s.settled, some f⟩
    | .ok next => if next.isDone then ⟨next.tokens, none⟩ else tokenizeFrom n next

/-- The **tokens** of a text. Each step takes at least one character. -/
def tokenize (text : List Char) : TokenStream := tokenizeFrom (text.length + 1) (.start text)

end ClusterMetrics.Yaml
