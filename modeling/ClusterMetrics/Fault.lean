import ClusterMetrics.Text.Quoted

/-! # Faults

What can go wrong with a request is told apart by cause, and each cause has one wording.

* **`ParameterFault`**: the request itself is at fault; its `message` is shown to the client.
* **`ZoneObstacle`**: why the lookup of a time zone breaks off.
* **`Failure`**: everything that keeps an operation from answering. -/

namespace ClusterMetrics

open ClusterMetrics.Text (quoted)

/-- The identifiers that narrow a query. -/
inductive IdName
  | cluster
  | node
  | process
  | container
  | namespace_
  | pod
  deriving DecidableEq, Repr

namespace IdName

/-- The name of an identifier as requests and messages spell it. -/
def label : IdName → String
  | cluster => "cluster_id"
  | node => "node_id"
  | process => "process_id"
  | container => "container_id"
  | namespace_ => "namespace_id"
  | pod => "pod_id"

/-- All identifiers, in the order in which they are checked. -/
def all : List IdName := [cluster, node, process, container, namespace_, pod]

end IdName

/-- A **fault of the request**. -/
inductive ParameterFault
  /-- A required identifier is absent. -/
  | missingParameters
  /-- An identifier is not the numeral of a positive number. -/
  | malformedId (name : IdName) (text : String)
  /-- The query parameters cannot be read, or name no time zone. -/
  | invalidQuery
  /-- A series names no metric. -/
  | metricNamesRequired
  /-- A date range is not a pair. -/
  | dateRangeArity
  /-- A bound of the date range is no timestamp. -/
  | malformedTimestamp (text : String)
  /-- The date range ends before it starts. -/
  | dateRangeReversed
  /-- Metric names that are given more than once. -/
  | duplicateNames (names : List String)
  /-- Metric names that the catalog does not hold. -/
  | unknownNames (names : List String)
  deriving DecidableEq, Repr

/-- Names separated by commas. -/
def commaSeparated (names : List String) : String := String.intercalate ", " names

/-- The **wording** of a fault. -/
def ParameterFault.message : ParameterFault → String
  | missingParameters => "missing parameters"
  | malformedId name text => "invalid " ++ name.label ++ ": " ++ quoted text
  | invalidQuery => "invalid query parameters"
  | metricNamesRequired => "metricNames requires at least one value"
  | dateRangeArity => "dateRange requires exactly two values"
  | malformedTimestamp text => "invalid dateRange value: " ++ quoted text
  | dateRangeReversed => "dateRange end precedes start"
  | duplicateNames names => "duplicate metric names: " ++ commaSeparated names
  | unknownNames names => "unknown metric names: " ++ commaSeparated names

/-- Why the lookup of a time zone **breaks off**, other than at a name that is not there. -/
inductive ZoneObstacle
  /-- The name leads to a directory. -/
  | directory
  /-- The name leads through the file that makes a directory a package, as if it were one itself. -/
  | noPackage
  /-- The last part of the name is longer than file systems take. -/
  | longName
  /-- The name has more parts than packages are nested. -/
  | deepName
  deriving DecidableEq, Repr

/-- The class of an obstacle, as the audit log names it. -/
def ZoneObstacle.className : ZoneObstacle → String
  | directory => "IsADirectoryError"
  | noPackage => "TypeError"
  | longName => "OSError"
  | deepName => "RecursionError"

/-- A **failure**: what keeps an operation from answering. -/
inductive Failure
  /-- The request is at fault. -/
  | parameter (fault : ParameterFault)
  /-- The store refused a statement. -/
  | store (message : String)
  /-- The store did not answer within the bound set for a request. -/
  | timeout
  /-- An identifier does not fit the 64 bits of a stored number. -/
  | idOverflow
  /-- A numeral has more digits than are converted. -/
  | numeralTooLong
  /-- The name of an entity level is not known. -/
  | unknownLevel (name : String)
  /-- A time is outside the years that can be printed. -/
  | unprintableTime
  /-- A number that is infinite or not a number would have to be written as JSON. -/
  | unprintableNumber
  /-- Values that cannot be averaged, compared or used as a key stand where such values are needed. -/
  | wrongType
  /-- A record has no field of the name. -/
  | unknownField
  /-- The store broke down in an unforeseen way. -/
  | crash
  /-- No store has been chosen. -/
  | noStore
  /-- The lookup of a time zone breaks off. -/
  | zoneObstructed (obstacle : ZoneObstacle)
  /-- There is no time zone of the name. -/
  | zoneMissing
  deriving DecidableEq, Repr

/-- The **class** of a failure, as the audit log names it. -/
def Failure.className : Failure → String
  | parameter _ => "InvalidParameterError"
  | store _ => "StoreQueryError"
  | timeout => "QueryTimeoutError"
  | idOverflow => "OverflowError"
  | numeralTooLong => "ValueError"
  | unknownLevel _ => "ValueError"
  | unprintableTime => "PydanticSerializationError"
  | unprintableNumber => "ValueError"
  | wrongType => "TypeError"
  | unknownField => "AttributeError"
  | crash => "RuntimeError"
  | noStore => "AttributeError"
  | zoneObstructed obstacle => obstacle.className
  | zoneMissing => "ZoneInfoNotFoundError"

end ClusterMetrics
