import ClusterMetrics.Fault
import ClusterMetrics.Store.Tables

/-! # The store behind a server

A server reaches its store through statements. A statement fails if the store is out of order, if it is
given more values than a statement can hold, if a table it mentions is gone, or if a number it is given
does not fit 64 bits, in this order.

* **`StoreFault`**, **`Backend`**: a store with its state. **`variableLimit`**: the number of values that a
  statement can hold. **`Backend.access`**: whether a statement can be run. -/

namespace ClusterMetrics

/-- How a store is **out of order**. -/
inductive StoreFault
  /-- It refuses every statement with a message. -/
  | refuses (message : String)
  /-- It breaks down at every statement. -/
  | crashes
  /-- It answers no statement in time. -/
  | hangs
  /-- There is none. -/
  | isAbsent
  deriving DecidableEq, Repr

/-- A **store as a server finds it**. -/
structure Backend where
  store : Store
  /-- The tables that are gone. -/
  dropped : List TableName
  fault : Option StoreFault

/-- The number of **values that a statement can hold**. -/
def variableLimit : Nat := 32766

namespace Backend

/-- A store in order. -/
def ofStore (store : Store) : Backend := ⟨store, [], none⟩

/-- Whether the store answers statements at all. -/
def respond (backend : Backend) : Except Failure Unit :=
  match backend.fault with
  | none => .ok ()
  | some (.refuses message) => .error (.store message)
  | some .crashes => .error .crash
  | some .hangs => .error .timeout
  | some .isAbsent => .error .noStore

/-- The refusal of a statement that mentions a table that is gone. -/
def noSuchTable (table : TableName) : Failure := .store ("no such table: " ++ table.label)

/-- The refusal of a statement that is given more values than it can hold. -/
def tooManyVariables : Failure := .store "too many SQL variables"

/-- Whether a statement on tables, given numbers and so many other values, can be **run**. The values are
counted before the tables are looked up, and the numbers are read last. -/
def access (backend : Backend) (tables : List TableName) (numbers : List Int) (others : Nat) :
    Except Failure Unit := do
  backend.respond
  if variableLimit < numbers.length + others then throw tooManyVariables
  match tables.find? backend.dropped.contains with
  | some table => throw (noSuchTable table)
  | none => if numbers.all fits64 then return () else throw .idOverflow

/-- The store itself, if a statement can be run on it. -/
def query (backend : Backend) (tables : List TableName) (numbers : List Int) (others : Nat) :
    Except Failure Store :=
  (backend.access tables numbers others).map fun _ => backend.store

end Backend

end ClusterMetrics
