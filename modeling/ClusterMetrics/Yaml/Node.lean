import ClusterMetrics.Yaml.Lexer

/-! # From tokens to nodes

A document is a tree of nodes: scalars, sequences and mappings, each with a tag. A node may have an
anchor, and an alias stands for the node of its anchor. A node is read by what its first token is.

* **`Node`**: the tree. **`Reader`**: the tokens to come and the anchors seen.
* **`readNode`**: the node at the head of the tokens. **`readDocument`**: the only document of a text. -/

namespace ClusterMetrics.Yaml

open ClusterMetrics.Text

/-- A **node**; a scalar has the tag that it was given, or else may be found by its text if it was
written plain. -/
inductive Node
  | scalar (tag : Option String) (text : String) (isPlain : Bool)
  | sequence (tag : Option String) (items : List Node)
  | mapping (tag : Option String) (entries : List (Node × Node))
  deriving Inhabited

/-- The **tokens to come**, the fault behind them if there is one, the anchors of the nodes read so far,
and the tag handles in force. -/
structure Reader where
  tokens : List Token
  fault : Option Fault
  anchors : List (String × Node)
  handles : List (String × String)

/-- What reads from the tokens. -/
abbrev ReadM := StateT Reader (Except Fault)

/-- The next token. A text ends with a token of its own, so only a fault can end the tokens before. -/
def peekToken : ReadM Token := do
  let r ← get
  match r.tokens with
  | t :: _ => return t
  | [] => throw (r.fault.getD .node)

/-- Takes the next token. -/
def dropToken : ReadM Unit := modify fun r => { r with tokens := r.tokens.tail }

/-- Takes the next token if it is the given one. -/
def takeToken (t : Token) : ReadM Bool := do
  if (← peekToken) = t then dropToken; return true else return false

/-- An empty scalar, where a node is left out. -/
def emptyNode : Node := .scalar none "" true

/-- The handles that are in force without a directive. -/
def commonHandles : List (String × String) := [("!", "!"), ("!!", "tag:yaml.org,2002:")]

/-- What stands in front of a node: an anchor and a tag, in either order. -/
structure Properties where
  anchor : Option String
  tag : Option String

/-- The tag of a handle and what follows it. -/
def expandTag (handle : Option String) (suffix : String) : ReadM String := do
  match handle with
  | none => return suffix
  | some h =>
    match (← get).handles.lookup h with
    | some uri => return uri ++ suffix
    | none => throw .node

/-- Takes an anchor. -/
def takeAnchor : ReadM (Option String) := do
  match ← peekToken with
  | .anchor name => dropToken; return some name
  | _ => return none

/-- Takes a tag. -/
def takeTagToken : ReadM (Option (Option String × String)) := do
  match ← peekToken with
  | .tag handle suffix => dropToken; return some (handle, suffix)
  | _ => return none

/-- Takes the **properties** of a node. -/
def takeProperties : ReadM Properties := do
  let before ← takeAnchor
  let tag ← takeTagToken
  let after ← if before.isNone && tag.isSome then takeAnchor else pure none
  match tag with
  | none => return ⟨before.or after, none⟩
  | some (handle, suffix) => return ⟨before.or after, some (← expandTag handle suffix)⟩

/-- The tag of a node: the mark alone is none. -/
def Properties.ownTag (p : Properties) : Option String := if p.tag = some "!" then none else p.tag

/-- Names a node by its anchor, which no node has yet. -/
def Properties.claim (p : Properties) (node : Node) : ReadM Unit :=
  match p.anchor with
  | none => return ()
  | some name => do
    if ((← get).anchors.lookup name).isSome then throw .composition
    modify fun r => { r with anchors := (name, node) :: r.anchors }

/-- Names a node by its anchor now that all of it is known. -/
def Properties.complete (p : Properties) (node : Node) : ReadM Node := do
  if let some name := p.anchor then
    modify fun r => { r with anchors := (name, node) :: r.anchors }
  return node

/-- The node of an alias. -/
def aliasNode (name : String) : ReadM Node := do
  match (← get).anchors.lookup name with
  | some node => return node
  | none => throw .composition

/-- Whether a token ends the place of a node in a block mapping. -/
def endsBlockNode (t : Token) : Bool := t == .key || t == .value || t == .blockEnd

/-- Where a node stands: what may begin there besides flow nodes and scalars. -/
inductive Place
  | flow
  | block
  /-- In a block mapping, where a sequence need not be indented. -/
  | entry
  deriving DecidableEq, Repr

mutual

/-- The **node at the head** of the tokens. -/
def readNode : Nat → Place → ReadM Node
  | 0, _ => throw .node
  | n + 1, place => do
    match ← peekToken with
    | .alias name => dropToken; aliasNode name
    | _ =>
      let p ← takeProperties
      readContent n place p

/-- The content of a node behind its properties. -/
def readContent : Nat → Place → Properties → ReadM Node
  | 0, _, _ => throw .node
  | n + 1, place, p => do
    match ← peekToken with
    | .scalar text isPlain =>
      dropToken
      let node := Node.scalar p.ownTag text ((isPlain && p.tag.isNone) || p.tag == some "!")
      p.claim node
      return node
    | .flowSequenceStart =>
      p.claim (.sequence p.ownTag [])
      dropToken
      p.complete (.sequence p.ownTag (← readFlowItems n true))
    | .flowMappingStart =>
      p.claim (.mapping p.ownTag [])
      dropToken
      p.complete (.mapping p.ownTag (← readFlowEntries n true))
    | t =>
      if place = .entry ∧ t = .blockEntry then
        p.claim (.sequence p.ownTag [])
        p.complete (.sequence p.ownTag (← readPlainItems n))
      else if place ≠ .flow ∧ t = .blockSequenceStart then
        p.claim (.sequence p.ownTag [])
        dropToken
        p.complete (.sequence p.ownTag (← readBlockItems n))
      else if place ≠ .flow ∧ t = .blockMappingStart then
        p.claim (.mapping p.ownTag [])
        dropToken
        p.complete (.mapping p.ownTag (← readBlockEntries n))
      else if p.anchor.isSome || p.tag.isSome then
        let node := Node.scalar p.ownTag "" p.ownTag.isNone
        p.claim node
        return node
      else throw .node

/-- The items of an indented sequence, to its end. -/
def readBlockItems : Nat → ReadM (List Node)
  | 0 => throw .node
  | n + 1 => do
    if ← takeToken .blockEntry then
      let t ← peekToken
      let item ← if t = .blockEntry ∨ t = .blockEnd then pure emptyNode else readNode n .block
      return item :: (← readBlockItems n)
    else if ← takeToken .blockEnd then return []
    else throw .node

/-- The items of a sequence that is not indented. -/
def readPlainItems : Nat → ReadM (List Node)
  | 0 => throw .node
  | n + 1 => do
    if ← takeToken .blockEntry then
      let t ← peekToken
      let item ← if t = .blockEntry ∨ endsBlockNode t then pure emptyNode else readNode n .block
      return item :: (← readPlainItems n)
    else return []

/-- The entries of an indented mapping, to its end. -/
def readBlockEntries : Nat → ReadM (List (Node × Node))
  | 0 => throw .node
  | n + 1 => do
    if ← takeToken .key then
      let key ← if endsBlockNode (← peekToken) then pure emptyNode else readNode n .entry
      let value ← readBlockValue n
      return (key, value) :: (← readBlockEntries n)
    else if ← takeToken .blockEnd then return []
    else throw .node

/-- The value of an entry of an indented mapping. -/
def readBlockValue : Nat → ReadM Node
  | 0 => throw .node
  | n + 1 => do
    if ← takeToken .value then
      if endsBlockNode (← peekToken) then return emptyNode else readNode n .entry
    else return emptyNode

/-- The items of a sequence in brackets, from the first or from behind an item, to its end. An item with
a key is a mapping of one entry. -/
def readFlowItems : Nat → Bool → ReadM (List Node)
  | 0, _ => throw .node
  | n + 1, first => do
    if ← takeToken .flowSequenceEnd then return []
    if !first && !(← takeToken .flowEntry) then throw .node
    if ← takeToken .flowSequenceEnd then return []
    if ← takeToken .key then
      let t ← peekToken
      let key ← if t = .value ∨ t = .flowEntry ∨ t = .flowSequenceEnd then pure emptyNode
        else readNode n .flow
      let value ← readFlowValue n .flowSequenceEnd
      return .mapping none [(key, value)] :: (← readFlowItems n false)
    let item ← readNode n .flow
    return item :: (← readFlowItems n false)

/-- The entries of a mapping in brackets, from the first or from behind an entry, to its end. -/
def readFlowEntries : Nat → Bool → ReadM (List (Node × Node))
  | 0, _ => throw .node
  | n + 1, first => do
    if ← takeToken .flowMappingEnd then return []
    if !first && !(← takeToken .flowEntry) then throw .node
    if ← takeToken .flowMappingEnd then return []
    if ← takeToken .key then
      let t ← peekToken
      let key ← if t = .value ∨ t = .flowEntry ∨ t = .flowMappingEnd then pure emptyNode
        else readNode n .flow
      let value ← readFlowValue n .flowMappingEnd
      return (key, value) :: (← readFlowEntries n false)
    let key ← readNode n .flow
    return (key, emptyNode) :: (← readFlowEntries n false)

/-- The value of an entry in brackets that end with a token. -/
def readFlowValue : Nat → Token → ReadM Node
  | 0, _ => throw .node
  | n + 1, last => do
    if ← takeToken .value then
      let t ← peekToken
      if t = .flowEntry ∨ t = last then return emptyNode else readNode n .flow
    else return emptyNode

end

/-! ## Documents -/

/-- Takes tokens of one kind. -/
def skipTokens (t : Token) : Nat → ReadM Unit
  | 0 => return ()
  | n + 1 => do if ← takeToken t then skipTokens t n

/-- Takes the **directives** of a document: one version at most, which has to be one of the first kind,
and tag handles that differ. -/
def takeDirectives : Nat → Bool → List (String × String) → ReadM Unit
  | 0, _, _ => throw .node
  | n + 1, hasVersion, handles => do
    match ← peekToken with
    | .directive (.version major) =>
      dropToken
      if hasVersion || major != 1 then throw .node
      takeDirectives n true handles
    | .directive (.tagHandle handle uri) =>
      dropToken
      if (handles.lookup handle).isSome then throw .node
      takeDirectives n hasVersion (handles ++ [(handle, uri)])
    | .directive .other => dropToken; takeDirectives n hasVersion handles
    | _ => modify fun r => { r with handles := handles ++ commonHandles }

/-- Opens a document that has a mark, if the text goes on. -/
def openDocument (n : Nat) : ReadM Bool := do
  skipTokens .documentEnd n
  if (← peekToken) = .streamEnd then return false
  takeDirectives n false []
  if ← takeToken .documentStart then return true else throw .node

/-- Whether a token begins a document with a mark, or ends the text. -/
def isBetweenDocuments : Token → Bool
  | .directive _ => true
  | .documentStart => true
  | .streamEnd => true
  | _ => false

/-- The **only document** of the tokens, or nothing if they hold none. -/
def readDocument (n : Nat) : ReadM (Option Node) := do
  let root ←
    if isBetweenDocuments (← peekToken) then
      if ← openDocument n then
        let t ← peekToken
        if isBetweenDocuments t || t == .documentEnd then pure (some emptyNode)
        else some <$> readNode n .block
      else pure none
    else some <$> readNode n .block
  match root with
  | none => return none
  | some node =>
    let _ ← takeToken .documentEnd
    if ← openDocument n then throw .composition
    return some node

/-- The bound on the steps that reading some tokens takes. -/
def readingBound (tokens : List Token) : Nat := 4 * tokens.length + 8

/-- The **root node** of a text, or nothing if the text holds none. -/
def readRoot? (text : List Char) : Except Fault (Option Node) :=
  let stream := tokenize text
  ((readDocument (readingBound stream.tokens)).run ⟨stream.tokens, stream.fault, [], commonHandles⟩).map
    (·.1)

end ClusterMetrics.Yaml
