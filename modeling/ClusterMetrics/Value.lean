import ClusterMetrics.Calendar.WallClock

/-! # Dynamic values

Rows, configuration files and query objects arrive without a schema. A `Value` is what such an input
can hold; whole numbers and binary fractions are told apart, and an object keeps the order of its
entries.

* **`Value`**: an input without a schema. **`setEntry`**: entries with the value of a key set. -/

namespace ClusterMetrics

open ClusterMetrics.Calendar (Moment)

/-- A **dynamic value**. -/
inductive Value
  | null
  | bool (b : Bool)
  | int (n : Int)
  | float (x : Float)
  | text (s : String)
  | list (items : List Value)
  | dict (entries : List (String × Value))
  | moment (m : Moment)
  deriving Inhabited

namespace Value

/-- The value of the **last** entry of a key. -/
def lookupLast (key : String) (entries : List (String × Value)) : Option Value :=
  (entries.reverse.find? (·.1 == key)).map (·.2)

/-- The field of an object. -/
def field? (key : String) : Value → Option Value
  | dict entries => lookupLast key entries
  | _ => none

/-- The text of a value that is one. -/
def text? : Value → Option String
  | text s => some s
  | _ => none

/-- The items of a value that is a list. -/
def list? : Value → Option (List Value)
  | list items => some items
  | _ => none

/-- The number of a value that is a whole number. -/
def int? : Value → Option Int
  | int n => some n
  | _ => none

/-- A value that may be absent, absence being `null`. -/
def ofOption {α : Type} (f : α → Value) : Option α → Value
  | none => null
  | some a => f a

end Value

/-- **Sets the value of a key** of entries, in the place where the key is or else at the end. -/
def setEntry {α : Type} (key : String) (value : α) : List (String × α) → List (String × α)
  | [] => [(key, value)]
  | e :: rest => if e.1 = key then (key, value) :: rest else e :: setEntry key value rest

end ClusterMetrics
