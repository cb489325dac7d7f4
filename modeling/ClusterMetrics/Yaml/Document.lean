import ClusterMetrics.Yaml.Node
import ClusterMetrics.Yaml.Plain

/-! # Documents as data

The nodes of a document are turned into data by their tags. The value of the key `<<` is a mapping, or a
sequence of mappings, whose entries are merged in front of the others, so that the others win.

* **`Datum`**: data whose mappings may have keys of any kind. **`construct`**: the datum of a node.
* **`read?`**: the datum of a text, or nothing if the text holds no document. -/

namespace ClusterMetrics.Yaml

/-- **Data** of a document. -/
inductive Datum
  | scalar (v : Value)
  | list (items : List Datum)
  | mapping (entries : List (Datum × Datum))
  deriving Inhabited

/-- The entries that the value of a merge key **brings in**. Of several mappings the first wins. -/
def Datum.merged : Datum → Except Fault (List (Datum × Datum))
  | mapping entries => .ok entries
  | list items => items.foldrM (fun item rest =>
      match item with
      | mapping entries => .ok (rest ++ entries)
      | _ => .error .construction) []
  | scalar _ => .error .construction

/-- Whether a datum can be a key. -/
def Datum.isKey : Datum → Bool
  | scalar _ => true
  | _ => false

/-- The tag of a scalar; a tag of no scalar is a fault. -/
def scalarTag (tag : Option String) (text : String) (isPlain : Bool) : Except Fault ScalarTag :=
  match tag with
  | none => .ok (if isPlain then .ofPlain text.toList else .text)
  | some uri =>
    match ScalarTag.ofUri? uri with
    | some t => .ok t
    | none => .error .construction

/-- Whether a node is the merge key. -/
def Node.isMerge : Node → Bool
  | .scalar tag text isPlain =>
    match scalarTag tag text isPlain with
    | .ok t => t == .merge
    | .error _ => false
  | _ => false

/-- The datum of a scalar. As a key the tag of a default stands for text. -/
def constructScalar (asKey : Bool) (tag : Option String) (text : String) (isPlain : Bool) :
    Except Fault Datum := do
  let t ← scalarTag tag text isPlain
  let t := if asKey ∧ t = .default then .text else t
  return .scalar (← t.read text.toList)

/-- Whether a sequence may have a tag. -/
def isSequenceTag (tag : Option String) : Bool :=
  [none, some "tag:yaml.org,2002:seq", some "tag:yaml.org,2002:omap",
   some "tag:yaml.org,2002:pairs"].contains tag

/-- Whether a mapping may have a tag. -/
def isMappingTag (tag : Option String) : Bool :=
  [none, some "tag:yaml.org,2002:map", some "tag:yaml.org,2002:set"].contains tag

mutual

/-- The **datum of a node**, which may stand as a key. -/
def construct (asKey : Bool) : Node → Except Fault Datum
  | .scalar tag text isPlain => constructScalar asKey tag text isPlain
  | .sequence tag items =>
    if isSequenceTag tag then (constructAll items).map .list else .error .construction
  | .mapping tag entries =>
    if isMappingTag tag then
      (constructEntries entries).map fun e =>
        if tag = some "tag:yaml.org,2002:set" then .list ((e.1 ++ e.2).map (·.1))
        else .mapping (e.1 ++ e.2)
    else .error .construction

/-- The data of nodes. -/
def constructAll : List Node → Except Fault (List Datum)
  | [] => .ok []
  | node :: rest => do
    let datum ← construct false node
    return datum :: (← constructAll rest)

/-- The entries of a mapping: those merged in, and its own. -/
def constructEntries :
    List (Node × Node) → Except Fault (List (Datum × Datum) × List (Datum × Datum))
  | [] => .ok ([], [])
  | (key, value) :: rest => do
    if key.isMerge then
      let source ← (← construct false value).merged
      let (merged, own) ← constructEntries rest
      return (source ++ merged, own)
    else
      let k ← construct true key
      if !k.isKey then throw .construction
      let v ← construct false value
      let (merged, own) ← constructEntries rest
      return (merged, (k, v) :: own)

end

/-- Whether a character may stand in a document. -/
def isAllowed (c : Char) : Bool :=
  c == '\t' || c == '\n' || ('\x20' ≤ c && c ≤ '\x7e') || c == '\x85' ||
    ('\xa0' ≤ c && c ≠ '\ufffe' && c ≠ '\uffff')

/-- The **datum of a text**, or nothing if the text holds no document. -/
def read? (text : List Char) : Except Fault (Option Datum) := do
  if !text.all isAllowed then throw .character
  match ← readRoot? text with
  | none => return none
  | some root => return some (← construct false root)

end ClusterMetrics.Yaml
