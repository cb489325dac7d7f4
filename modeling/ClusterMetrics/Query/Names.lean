import ClusterMetrics.Query.Selection
import ClusterMetrics.Store.Backend

/-! # Resolving metric names

Requests name metrics, and samples carry identifiers. Names are resolved all or none: a name given
twice, or one that the catalog does not hold, refuses the request. Names match exactly.

* **`duplicates`**, **`unknown`**: the names at fault.
* **`Store.foundIds`**, **`Store.resolveNames`**: the identifiers.
* **`Backend.resolveNames`**: the same through a store that may be out of order. -/

namespace ClusterMetrics

/-- The names that are given **more than once**, each once, in the order of code points. -/
def duplicates (names : List String) : List String :=
  (names.filter fun n => 1 < names.count n).eraseDups.mergeSort fun a b => a ≤ b

/-- Notes the identifier of a row under its name, if this is one of some names. -/
def noteId (names : List String) (found : List (String × Option Int)) (row : MetricName) :
    List (String × Option Int) :=
  match row.name with
  | some name => if names.contains name then setEntry name row.id found else found
  | none => found

/-- The identifiers **by name** that the rows of some names give, a later row replacing an earlier. -/
def Store.foundIds (store : Store) (names : List String) : List (String × Option Int) :=
  store.metricNames.foldl (noteId names) []

/-- The names that were **not found**, in order. -/
def unknown (found : List (String × Option Int)) (names : List String) : List String :=
  names.filter fun n => (found.lookup n).isNone

/-- The identifiers of names that are all found. There have to be as many as names. -/
def Store.resolveNames (store : Store) (names : List String) :
    Except ParameterFault MetricFilter :=
  let found := store.foundIds names
  let missing := unknown found names
  if missing ≠ [] ∨ found.length ≠ names.length then .error (.unknownNames missing)
  else .ok (names.map fun n => (found.lookup n).getD none)

/-- A failure while names are looked up. -/
def lookupFailure : Failure → Failure
  | .store message => .store ("failed to get metric names: " ++ message)
  | f => f

/-- The **identifiers of names**, which are looked up by one statement. No names are resolved without the
store, and repeated names are refused without it. -/
def Backend.resolveNames (backend : Backend) (names : List String) :
    Except Failure MetricFilter :=
  if names.isEmpty then .ok []
  else
    match duplicates names with
    | [] => do
      let store ← (backend.query [.metricNames] [] names.length).mapError lookupFailure
      (store.resolveNames names).mapError .parameter
    | repeated => .error (.parameter (.duplicateNames repeated))

end ClusterMetrics
