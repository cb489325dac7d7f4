import ClusterMetrics.Record.Kind

/-! # Validation reports

Objects with named fields are read field by field. All fields are looked at before the object is
refused, so a report lists every issue, in the order of the fields.

* **`Report`**: the issues of an object. **`Validated`**: a field's value or its issue.
* **`Row.required`**, **`Row.withDefault`**: one field of an object. -/

namespace ClusterMetrics

/-- The issues of an object, each with the name of its field. -/
abbrev Report := List (String × Issue)

/-- A **field** of an object: its value, or its issue. -/
structure Validated (α : Type) where
  name : String
  result : Except Issue α

namespace Validated

/-- The issue of a field, if it has one. -/
def report {α : Type} (field : Validated α) : Report :=
  match field.result with
  | .ok _ => []
  | .error issue => [(field.name, issue)]

/-- The value of a field that has one; a field with an issue reports it. -/
def value {α : Type} (field : Validated α) : Except Report α :=
  field.result.mapError fun issue => [(field.name, issue)]

end Validated

/-- A field that has to be **present**. -/
def Row.required {α : Type} (row : Row) (name : String) (coerce : Value → Except Issue α) :
    Validated α :=
  ⟨name, match row.get? name with
    | some v => coerce v
    | none => .error .missing⟩

/-- A field that **defaults** to a value when it is absent. -/
def Row.withDefault {α : Type} (row : Row) (name : String) (default : α)
    (coerce : Value → Except Issue α) : Validated α :=
  ⟨name, match row.get? name with
    | some v => coerce v
    | none => .ok default⟩

/-- Refuses an object whose fields have issues. -/
def Report.check (report : Report) : Except Report Unit :=
  if report.isEmpty then .ok () else .error report

end ClusterMetrics
