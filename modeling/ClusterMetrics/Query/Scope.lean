import ClusterMetrics.Fault
import ClusterMetrics.Text.Characters

/-! # Scopes

A scope narrows a query to a cluster, a node, a kind of entity and perhaps one entity of it. It is
resolved from texts: an identifier is the decimal numeral of a positive number, without sign, leading
zero or any character but the ASCII digits, and an absent or empty text is no identifier.

* **`EntityLevel`**, **`Scope`**: what a query is narrowed to.
* **`parseId`**: the number of one identifier. **`resolveScope`**: the scope of a request. -/

namespace ClusterMetrics

open ClusterMetrics.Text

/-- The **kind of entity** that samples belong to. -/
inductive EntityLevel
  | node
  /-- One process, or every process. -/
  | process (id : Option Int)
  /-- One container, or every container. -/
  | container (id : Option Int)
  deriving DecidableEq, Repr

/-- What a query is **narrowed to**. -/
structure Scope where
  cluster : Option Int
  node : Option Int
  level : EntityLevel
  podNamespace : Option Int
  pod : Option Int
  deriving DecidableEq, Repr

/-- The name of a kind of entity. -/
inductive LevelName
  | node
  | process
  | container
  deriving DecidableEq, Repr

/-- The kind of entity of a name. -/
def LevelName.ofName? (name : String) : Option LevelName :=
  if name = "node" then some .node
  else if name = "process" then some .process
  else if name = "container" then some .container
  else none

/-- A **canonical numeral** of a positive number. -/
def isCanonicalId : List Char → Bool
  | [] => false
  | c :: rest => c != '0' && isAsciiDigit c && rest.all isAsciiDigit

/-- The number of digits up to which a numeral is converted. -/
def numeralLimit : Nat := 4300

/-- The **number of an identifier**, or nothing for an absent one. -/
def parseId (name : IdName) : Option String → Except Failure (Option Int)
  | none => .ok none
  | some text =>
    if text = "" then .ok none
    else if !isCanonicalId text.toList then .error (.parameter (.malformedId name text))
    else if numeralLimit < text.length then .error .numeralTooLong
    else .ok (some (digitsToNat text.toList))

/-- The texts given for the identifiers. -/
abbrev RawIds := IdName → Option String

/-- Whether an identifier is given by a text that is not empty. -/
def RawIds.isGiven (raw : RawIds) (name : IdName) : Bool := (raw name).getD "" != ""

/-- Whether the identifier of a label is given; a label of no identifier never is. -/
def RawIds.hasLabel (raw : RawIds) (label : String) : Bool :=
  match IdName.all.find? (·.label == label) with
  | some name => raw.isGiven name
  | none => false

/-- Resolves the **scope of a request**. Required identifiers are checked first, then all identifiers in
order, then the level. -/
def resolveScope (raw : RawIds) (required : List String) (level : String) :
    Except Failure Scope := do
  if !required.all raw.hasLabel then
    throw (.parameter .missingParameters)
  let cluster ← parseId .cluster (raw .cluster)
  let node ← parseId .node (raw .node)
  let process ← parseId .process (raw .process)
  let container ← parseId .container (raw .container)
  let namespace_ ← parseId .namespace_ (raw .namespace_)
  let pod ← parseId .pod (raw .pod)
  match LevelName.ofName? level with
  | some .node => return ⟨cluster, node, .node, namespace_, pod⟩
  | some .process => return ⟨cluster, node, .process process, namespace_, pod⟩
  | some .container => return ⟨cluster, node, .container container, namespace_, pod⟩
  | none => throw (.unknownLevel level)

end ClusterMetrics
