import ClusterMetrics.Record.Kind

/-! # Shaping

Rows are decoded one by one, and a row that is no record is skipped and counted. The records are then
laid out as a list, in groups by a key, or in cells by two keys, always in the order in which they
arrived.

* **`decodeRows`**: the records of rows, and the number of rows skipped.
* **`shapeList`**, **`shapeGrouped`**, **`shapeByCluster`**, **`shapeNested`**: the layouts.
* **`GroupKey`**: what a value is grouped by; equal numbers of any kind are one key. -/

namespace ClusterMetrics

open ClusterMetrics.Calendar

/-- The records of rows beside the rows they come from, and how many rows were **skipped**. -/
structure DecodedRows where
  entries : List (Row × Record)
  skipped : Nat

/-- **Decodes** rows one by one; a value that is no row is skipped too. -/
def decodeRows (kind : RecordKind) : List Value → DecodedRows
  | [] => ⟨[], 0⟩
  | v :: rest =>
    let decoded := decodeRows kind rest
    match v with
    | .dict row =>
      match kind.decode row with
      | .ok record => ⟨(row, record) :: decoded.entries, decoded.skipped⟩
      | .error _ => ⟨decoded.entries, decoded.skipped + 1⟩
    | _ => ⟨decoded.entries, decoded.skipped + 1⟩

/-- What a value is **grouped by**. -/
inductive GroupKey
  | text (s : String)
  | whole (n : Int)
  /-- A number that is not whole, by its bits. -/
  | fraction (bits : Nat)
  /-- A wall clock reading of unknown offset. -/
  | reading (wall : Int)
  | instant (micros : Int)
  deriving DecidableEq, Repr

/-- The key of a value. Lists and objects are none, and absence groups with the empty text. -/
def Value.groupKey : Value → Except Failure GroupKey
  | .null => .ok (.text "")
  | .bool b => .ok (.whole (if b then 1 else 0))
  | .int n => .ok (.whole n)
  | .float x =>
    match Decimal.finite? x with
    | some b => if b.isWhole then .ok (.whole b.truncate) else .ok (.fraction x.toBits.toNat)
    | none => .ok (.fraction x.toBits.toNat)
  | .text s => .ok (.text s)
  | .moment m => .ok (if m.isAware then .instant m.instant else .reading m.wall)
  | .list _ => .error .wrongType
  | .dict _ => .error .wrongType

/-- A **group**: its key, the value that the key was first seen as, and its members. -/
structure Group (α : Type) where
  key : GroupKey
  shown : Value
  members : List α

/-- Adds a member to the group of a key, which is created at the end if there is none. -/
def addToGroup {α : Type} (key : GroupKey) (shown : Value) (member : α) :
    List (Group α) → List (Group α)
  | [] => [⟨key, shown, [member]⟩]
  | g :: rest =>
    if g.key = key then { g with members := g.members ++ [member] } :: rest
    else g :: addToGroup key shown member rest

/-- Sets a cell of the group of a key, which is created at the end if there is none. -/
def addToCells (key : GroupKey) (shown : Value) (name : String) (value : Value) :
    List (Group (String × Value)) → List (Group (String × Value))
  | [] => [⟨key, shown, [(name, value)]⟩]
  | g :: rest =>
    if g.key = key then { g with members := setEntry name value g.members } :: rest
    else g :: addToCells key shown name value rest

/-- The **layouts** of an answer. -/
inductive Layout
  | records (items : List Row)
  | groups (items : List (Group Row))
  | cells (items : List (Group (String × Value)))

/-- A **shaped** answer: its layout, how many records it holds, and how many rows were skipped. -/
structure Shaped where
  layout : Layout
  count : Nat
  skipped : Nat

/-- The records as a **flat list**. -/
def shapeList (kind : RecordKind) (rows : List Value) : Except Failure Shaped := do
  let decoded := decodeRows kind rows
  let items ← decoded.entries.mapM fun e => e.2.dump
  return ⟨.records items, items.length, decoded.skipped⟩

/-- The records in **groups** by a key that each record and its row yield. -/
def shapeGroups (kind : RecordKind) (rows : List Value) (keyOf : Row → Record → Except Failure Value) :
    Except Failure Shaped := do
  let decoded := decodeRows kind rows
  let groups ← decoded.entries.foldlM (fun groups e => do
    let shown ← keyOf e.1 e.2
    let key ← shown.groupKey
    let item ← e.2.dump
    return addToGroup key shown item groups) []
  return ⟨.groups groups, decoded.entries.length, decoded.skipped⟩

/-- The field of a record that it is grouped by. -/
def fieldKey (name : String) (_ : Row) (record : Record) : Except Failure Value :=
  match record.get? name with
  | some v => .ok v
  | none => .error .unknownField

/-- Whether a value counts as absent: zero, false, or empty. -/
def Value.isEmptyLike : Value → Bool
  | .null => true
  | .bool b => !b
  | .int n => n == 0
  | .float x => x == 0.0
  | .text s => s == ""
  | .list items => items.isEmpty
  | .dict entries => entries.isEmpty
  | .moment _ => false

/-- The name of the cluster that a row belongs to; an absent or empty one is the empty text. -/
def clusterKey (row : Row) (_ : Record) : Except Failure Value :=
  match row.get? "cluster_name" with
  | some v => .ok (if v.isEmptyLike then .text "" else v)
  | none => .ok (.text "")

/-- The records **grouped by a field**. -/
def shapeGrouped (kind : RecordKind) (rows : List Value) (field : String) : Except Failure Shaped :=
  shapeGroups kind rows (fieldKey field)

/-- The records **grouped by the owning cluster**. -/
def shapeByCluster (kind : RecordKind) (rows : List Value) : Except Failure Shaped :=
  shapeGroups kind rows clusterKey

/-- The values of records in **cells** by a field and the name of the metric: a repeated cell keeps its
place and takes the last value. -/
def shapeNested (kind : RecordKind) (rows : List Value) (field : String) : Except Failure Shaped := do
  let decoded := decodeRows kind rows
  let groups ← decoded.entries.foldlM (fun groups e => do
    let shown ← fieldKey field e.1 e.2
    let key ← shown.groupKey
    match e.2.get? "metric_name", e.2.get? "value" with
    | some (.text name), some value => return addToCells key shown name value groups
    | _, _ => throw .unknownField) []
  return ⟨.cells groups, decoded.entries.length, decoded.skipped⟩

end ClusterMetrics
