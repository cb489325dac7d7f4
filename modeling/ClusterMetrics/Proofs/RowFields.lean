import ClusterMetrics.Query.Series

/-! # Fields of rows

A key has a cell for each part, and a part that is absent has an empty one. A row is read by the
names of its fields: the row of a key has the parts of the key under the names of the query, in
order.

* **`ofInt_inj`**, **`ofText_inj`**: cells tell numbers and texts apart.
* **`Row.int?`**, **`Row.text?`**: the whole number and the text in a field.
* **`get?_seriesRow`**: a field of the row of a cell. **`int?_snapshotRow`**: the identifier in the
  row of an entity.
* **`coerce_intValue_iff`**, **`coerce_textValue_iff`**, **`coerce_sumValue_iff`**: when a column is
  a field of a record, and with which value. -/

namespace ClusterMetrics

/-! ## Cells -/

/-- The whole number that a cell holds. -/
def Cell.int? : Cell → Option Int
  | int n => some n
  | _ => none

/-- The text that a cell holds. -/
def Cell.text? : Cell → Option String
  | text s => some s
  | _ => none

@[simp] theorem int?_toValue (a : Cell) : a.toValue.int? = a.int? := by
  cases a <;> rfl

@[simp] theorem int?_ofInt (n : Option Int) : (Cell.ofInt n).int? = n := by
  cases n <;> rfl

@[simp] theorem text?_toValue (a : Cell) : a.toValue.text? = a.text? := by
  cases a <;> rfl

@[simp] theorem text?_ofText (s : Option String) : (Cell.ofText s).text? = s := by
  cases s <;> rfl

@[simp] theorem ofText_none : Cell.ofText none = .null := rfl

@[simp] theorem ofText_some (s : String) : Cell.ofText (some s) = .text s := rfl

theorem ofInt_ne_null {n : Option Int} : (Cell.ofInt n != .null) = n.isSome := by
  cases n <;> rfl

theorem ofText_ne_null {s : Option String} : (Cell.ofText s != .null) = s.isSome := by
  cases s <;> rfl

theorem ofInt_inj {m n : Option Int} : Cell.ofInt m = .ofInt n ↔ m = n := by
  cases m <;> cases n <;> simp [Cell.ofInt]

theorem ofText_inj {s t : Option String} : Cell.ofText s = .ofText t ↔ s = t := by
  cases s <;> cases t <;> simp [Cell.ofText]

/-! ## Rows -/

/-- The **whole number** that a row has in a field. -/
def Row.int? (row : Row) (field : String) : Option Int := (row.get? field).bind Value.int?

/-- The **text** that a row has in a field. -/
def Row.text? (row : Row) (field : String) : Option String := (row.get? field).bind Value.text?

/-- Where names differ, a value is found **under its own name**. -/
theorem find?_reverse_zip {α : Type} {field : String} {names : List String} {values : List α}
    {i : Nat} (hnodup : names.Nodup) (hi : names[i]? = some field) :
    ((names.zip values).reverse.find? (·.1 == field)).map (·.2) = values[i]? := by
  induction names generalizing values i with
  | nil => simp at hi
  | cons name names ih =>
    obtain ⟨hfresh, hnodup⟩ := List.nodup_cons.1 hnodup
    cases values with
    | nil => simp
    | cons v values =>
      rw [List.zip_cons_cons, List.reverse_cons, List.find?_append]
      cases i with
      | zero =>
        obtain rfl : name = field := by simpa using hi
        -- no later name is the same, so the search ends at this one
        have hnone : (names.zip values).reverse.find? (·.1 == name) = none := by
          rw [List.find?_eq_none]
          intro x hx heq
          have hname : x.1 = name := by simpa using heq
          rw [List.mem_reverse] at hx
          exact hfresh (hname ▸ (List.of_mem_zip hx).1)
        rw [hnone]
        simp
      | succ i =>
        have hi : names[i]? = some field := by simpa using hi
        have hne : name ≠ field := by
          rintro rfl
          exact hfresh (List.mem_of_getElem? hi)
        have hlast : [(name, v)].find? (·.1 == field) = none := by simp [hne]
        rw [hlast, Option.or_none, ih hnodup hi, List.getElem?_cons_succ]

/-- The row of a cell has **the parts of the key** under the names of the query. -/
theorem get?_seriesRow {names : List String} (hnodup : names.Nodup) {field : String} {i : Nat}
    (hi : names[i]? = some field) (hbucket : "bucket" ≠ field) (hvalue : "value" ≠ field)
    (c : SeriesCell) : (seriesRow names c).get? field = c.key[i]?.map Cell.toValue := by
  have hlast : [("value", Value.float c.value),
      ("bucket", Value.moment ⟨c.bucket * 1000000, none⟩)].find? (·.1 == field) = none := by
    simp [hbucket, hvalue]
  rw [seriesRow, Row.get?, Value.lookupLast, List.reverse_append, List.find?_append]
  show (Option.or ([("value", _), ("bucket", _)].find? _) _).map _ = _
  rw [hlast, Option.none_or, find?_reverse_zip hnodup hi, List.getElem?_map]

/-- The identifier in the **row of an entity** is that of the entity. -/
theorem int?_snapshotRow (kind : EntityKind) (r : LabelledSample × Entity) :
    (snapshotRow kind r).int? kind.idField = r.2.id := by
  obtain ⟨m, id, name⟩ := r
  cases kind <;> cases id <;> rfl

/-- The metric in the row of an entity is that **of its sample**. -/
theorem text?_snapshotRow (kind : EntityKind) (r : LabelledSample × Entity) :
    (snapshotRow kind r).text? "metric_name" = r.1.name.name := by
  obtain ⟨⟨sample, ⟨id, name, help, metricType⟩, label⟩, entity⟩ := r
  cases kind <;> cases name <;> rfl

/-- The metric in the row of a pod is the one **that was summed**. -/
theorem text?_podSnapshotRow (r : Rollup PodPath) :
    (podSnapshotRow r).text? "metric_name" = r.metricName := by
  obtain ⟨path, metricName, ts, value⟩ := r
  cases metricName <;> rfl

/-- A number in the row of a cell is that of **its part of the key**. -/
theorem int?_seriesRow {names : List String} (hnodup : names.Nodup) {field : String} {i : Nat}
    (hi : names[i]? = some field) (hbucket : "bucket" ≠ field) (hvalue : "value" ≠ field)
    (c : SeriesCell) : (seriesRow names c).int? field = c.key[i]?.bind Cell.int? := by
  rw [Row.int?, get?_seriesRow hnodup hi hbucket hvalue, Option.bind_map]
  congr 1
  funext a
  exact int?_toValue a

/-- A text in the row of a cell is that of **its part of the key**. -/
theorem text?_seriesRow {names : List String} (hnodup : names.Nodup) {field : String} {i : Nat}
    (hi : names[i]? = some field) (hbucket : "bucket" ≠ field) (hvalue : "value" ≠ field)
    (c : SeriesCell) : (seriesRow names c).text? field = c.key[i]?.bind Cell.text? := by
  rw [Row.text?, get?_seriesRow hnodup hi hbucket hvalue, Option.bind_map]
  congr 1
  funext a
  exact text?_toValue a

/-- The identifier in the **row of an entity's cell** stands second in its key. -/
theorem int?_entityRow (kind : EntityKind) (c : SeriesCell) :
    (seriesRow (SeriesQuery.entities kind).keyNames c).int? kind.idField
      = c.key[1]?.bind Cell.int? := by
  cases kind <;> exact int?_seriesRow (by decide) rfl (by decide) (by decide) c

/-- The identifier in the **row of a pod's cell** stands first in its key. -/
theorem int?_podRow (c : SeriesCell) :
    (seriesRow SeriesQuery.pods.keyNames c).int? "pod_id" = c.key[0]?.bind Cell.int? :=
  int?_seriesRow (by decide) rfl (by decide) (by decide) c

/-! ## Columns as fields -/

/-- A **whole field** of a number column. -/
theorem coerce_intValue_iff {n : Option Int} {v : Value} :
    FieldKind.whole.coerce (intValue n) = .ok v ↔ ∃ m, n = some m ∧ .int m = v := by
  cases n <;> simp [FieldKind.coerce, intValue, Value.ofOption, coerceInt, Except.map]

/-- A **time field** of a number column. -/
theorem coerce_second_iff {n : Option Int} {v : Value} :
    FieldKind.second.coerce (intValue n) = .ok v ↔ ∃ m, n = some m ∧ .int m = v := by
  cases n <;> simp [FieldKind.coerce, intValue, Value.ofOption, coerceInt, Except.map]

/-- A **text field** of a text column. -/
theorem coerce_textValue_iff {s : Option String} {v : Value} :
    FieldKind.text.coerce (textValue s) = .ok v ↔ ∃ t, s = some t ∧ .text t = v := by
  cases s <;> simp [FieldKind.coerce, textValue, Value.ofOption, coerceText, Except.map]

/-- A **sample field** of a sum. -/
theorem coerce_sumValue_iff {sum : Option Float} {v : Value} :
    FieldKind.sample.coerce (sumValue sum) = .ok v ↔
      ∃ x, sum = some x ∧ Decimal.isFinite x = true ∧ .float (Decimal.roundTo 2 x) = v := by
  cases sum with
  | none => simp [FieldKind.coerce, sumValue, Value.ofOption, coerceFloat, Except.bind]
  | some x =>
    simp only [FieldKind.coerce, sumValue, Value.ofOption, coerceFloat, Except.bind, roundSample]
    split <;> simp_all

end ClusterMetrics
