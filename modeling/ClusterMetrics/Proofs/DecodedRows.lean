import ClusterMetrics.Proofs.ResolvedScopes
import ClusterMetrics.Record.Shape
import Mathlib.Data.List.Forall2

/-! # Decoded rows

A row is a record if every field of the kind is there and converts, and then the record has the
converted fields, in order. Of some rows, those that are records are kept, in order, and the others
are counted.

* **`decode_eq_ok_iff`**: when a row is a record, and which one. **`get?_of_decode`**: its fields.
* **`exists_dump`**: a record without times has an answer.
* **`RecordKind.entry?`**, **`decodeRows_eq`**: values are decoded one by one.
* **`RecordKind.decoded`**: the records of rows; **`length_decoded_add_skipped`**: every row is
  decoded or skipped. -/

namespace ClusterMetrics

theorem map_eq_ok_iff {ε α β : Type} {x : Except ε α} {f : α → β} {b : β} :
    x.map f = .ok b ↔ ∃ a, x = .ok a ∧ f a = b := by
  cases x <;> simp [Except.map]

/-! ## Outcomes of lists -/

/-- In lists related element by element, an element of the second has **a partner** in the first. -/
theorem exists_of_mem_of_forall₂ {α β : Type} {R : α → β → Prop} {l : List α} {bs : List β}
    (h : List.Forall₂ R l bs) {b : β} (hb : b ∈ bs) : ∃ a ∈ l, R a b := by
  induction h with
  | nil => cases hb
  | @cons a _ l _ hab _ ih =>
    rcases List.mem_cons.1 hb with rfl | hmem
    · exact ⟨a, List.mem_cons_self, hab⟩
    · obtain ⟨c, hc, hcb⟩ := ih hmem
      exact ⟨c, List.mem_cons_of_mem a hc, hcb⟩

/-- A list has an outcome if **each element** has one. -/
theorem mapM_eq_ok_iff {ε α β : Type} {f : α → Except ε β} {l : List α} {bs : List β} :
    l.mapM f = .ok bs ↔ List.Forall₂ (fun a b => f a = .ok b) l bs := by
  induction l generalizing bs with
  | nil => simp [pure, Except.pure, eq_comm]
  | cons a l ih =>
    simp only [List.mapM_cons, bind_eq_ok_iff, ih, List.forall₂_cons_left_iff, pure, Except.pure,
      Except.ok.injEq]
    constructor
    · rintro ⟨b, hb, bs, hbs, rfl⟩
      exact ⟨b, bs, hb, hbs, rfl⟩
    · rintro ⟨b, bs, hb, hbs, rfl⟩
      exact ⟨b, hb, bs, hbs, rfl⟩

/-- What comes out is the outcome **of an element**. -/
theorem exists_of_mem_mapM {ε α β : Type} {f : α → Except ε β} {l : List α} {bs : List β}
    (h : l.mapM f = .ok bs) {b : β} (hb : b ∈ bs) : ∃ a ∈ l, f a = .ok b :=
  exists_of_mem_of_forall₂ (mapM_eq_ok_iff.1 h) hb

/-- As many elements come out **as go in**. -/
theorem length_of_mapM_eq_ok {ε α β : Type} {f : α → Except ε β} {l : List α} {bs : List β}
    (h : l.mapM f = .ok bs) : bs.length = l.length :=
  (mapM_eq_ok_iff.1 h).length_eq.symm

/-- Where every element has an outcome, the list **has one**. -/
theorem exists_mapM_eq_ok {ε α β : Type} {f : α → Except ε β} {l : List α}
    (h : ∀ a ∈ l, ∃ b, f a = .ok b) : ∃ bs, l.mapM f = .ok bs := by
  induction l with
  | nil => exact ⟨[], rfl⟩
  | cons a l ih =>
    obtain ⟨b, hb⟩ := h a List.mem_cons_self
    obtain ⟨bs, hbs⟩ := ih fun c hc => h c (List.mem_cons_of_mem a hc)
    exact ⟨b :: bs, by rw [List.mapM_cons, hb, hbs]; rfl⟩

/-! ## Fields of a record -/

/-- Whether a field of a record is a field of its kind, **converted** from a row. -/
def ConvertsFrom (row : Row) (f : String × FieldKind) (r : String × FieldKind × Value) : Prop :=
  r.1 = f.1 ∧ r.2.1 = f.2 ∧ f.2.decode row f.1 = .ok r.2.2

/-- A row is a record if **each field converts**, and the record has the converted fields. -/
theorem decode_eq_ok_iff {kind : RecordKind} {row : Row} {record : Record} :
    kind.decode row = .ok record ↔ List.Forall₂ (ConvertsFrom row) kind.fields record.fields := by
  obtain ⟨fields⟩ := record
  rw [RecordKind.decode]
  generalize kind.fields = expected
  induction expected generalizing fields with
  | nil => simp [eq_comm]
  | cons f expected ih =>
    rw [List.forall₂_cons_left_iff]
    cases hf : f.2.decode row f.1 with
    | error issue => simp [ConvertsFrom, hf]
    | ok v =>
      simp only [List.map_cons, List.filterMap_cons, hf] at ih ⊢
      constructor
      · intro h
        split at h
        · rename_i hissues
          obtain rfl := Record.mk.inj (Except.ok.inj h)
          exact ⟨_, _, ⟨rfl, rfl, hf⟩, (ih _).1 (by rw [if_pos hissues]), rfl⟩
        · cases h
      · rintro ⟨⟨name, kind, v'⟩, rest, ⟨rfl, rfl, hv⟩, hrest, rfl⟩
        obtain rfl := Except.ok.inj (hf.symm.trans hv)
        have htail := (ih rest).2 hrest
        split at htail
        · rename_i hissues
          rw [if_pos hissues, Record.mk.inj (Except.ok.inj htail)]
        · cases htail

/-- The fields of a kind have **distinct names**. -/
theorem fields_names_nodup (kind : RecordKind) : (kind.fields.map (·.1)).Nodup := by
  cases kind <;> decide

/-- Where names differ, a converted field is found **under its name**. -/
theorem exists_find?_of_convertsFrom {row : Row} {expected : List (String × FieldKind)}
    {fields : List (String × FieldKind × Value)}
    (h : List.Forall₂ (ConvertsFrom row) expected fields) (hnames : (expected.map (·.1)).Nodup)
    {name : String} {field : FieldKind} (hfield : (name, field) ∈ expected) :
    ∃ v, (fields.find? (·.1 == name)).map (·.2.2) = some v ∧ field.decode row name = .ok v := by
  induction h with
  | nil => cases hfield
  | @cons f r expected fields hr _ ih =>
    obtain ⟨hname, -, hv⟩ := hr
    obtain ⟨hfresh, hnames⟩ := List.nodup_cons.1 hnames
    rcases List.mem_cons.1 hfield with rfl | hmem
    · exact ⟨r.2.2, by simp [hname], hv⟩
    · -- the field in front bears another name
      have hne : r.1 ≠ name := by
        rw [hname]
        rintro rfl
        exact hfresh (List.mem_map.2 ⟨_, hmem, rfl⟩)
      rw [List.find?_cons_of_neg (by simpa using hne)]
      exact ih hnames hmem

section Fields

variable {kind : RecordKind} {row : Row} {record : Record} (h : kind.decode row = .ok record)
  {name : String}
include h

/-- The fields of a record are **those of its kind**, converted. -/
theorem mem_fields_of_decode {r : String × FieldKind × Value} (hr : r ∈ record.fields) :
    (r.1, r.2.1) ∈ kind.fields ∧ r.2.1.decode row r.1 = .ok r.2.2 := by
  obtain ⟨f, hf, hname, hkind, hv⟩ := exists_of_mem_of_forall₂ (decode_eq_ok_iff.1 h) hr
  rw [hname, hkind]
  exact ⟨hf, hv⟩

/-- A record is read by the names of **its kind's fields**. -/
theorem get?_of_decode {field : FieldKind} (hfield : (name, field) ∈ kind.fields) :
    ∃ v, record.get? name = some v ∧ field.decode row name = .ok v :=
  exists_find?_of_convertsFrom (decode_eq_ok_iff.1 h) (fields_names_nodup kind) hfield

/-- A field is converted from the value **of its name** in the row. -/
theorem exists_coerce_of_decode {field : FieldKind} (hfield : (name, field) ∈ kind.fields) :
    ∃ v w, record.get? name = some v ∧ row.get? name = some w ∧ field.coerce w = .ok v := by
  obtain ⟨v, hget, hv⟩ := get?_of_decode h hfield
  rw [FieldKind.decode] at hv
  cases hrow : row.get? name with
  | none => simp [hrow] at hv
  | some w => exact ⟨v, w, hget, rfl, by simpa [hrow] using hv⟩

/-- A **text field** of a record is the text of the row. -/
theorem exists_text_of_decode (hfield : (name, .text) ∈ kind.fields) :
    ∃ s, record.get? name = some (.text s) ∧ row.get? name = some (.text s) := by
  obtain ⟨v, w, hget, hrow, hv⟩ := exists_coerce_of_decode h hfield
  obtain ⟨s, hs, rfl⟩ := map_eq_ok_iff.1 hv
  cases w with
  | text t =>
    obtain rfl : t = s := by simpa [coerceText] using hs
    exact ⟨t, hget, hrow⟩
  | _ => simp [coerceText] at hs

/-- A **whole field** of a record is a whole number. -/
theorem exists_int_of_decode (hfield : (name, .whole) ∈ kind.fields) :
    ∃ n, record.get? name = some (.int n) := by
  obtain ⟨v, w, hget, -, hv⟩ := exists_coerce_of_decode h hfield
  obtain ⟨n, -, rfl⟩ := map_eq_ok_iff.1 hv
  exact ⟨n, hget⟩

end Fields

/-! ## Answers of records -/

/-- Whether every time among the fields of a record **has a date** of four digits. -/
def Record.IsDated (record : Record) : Prop :=
  ∀ f ∈ record.fields, ∀ n, f.2 = (.second, .int n) → Record.hasDate n = true

/-- A field that is no time without a date **can be answered**. -/
theorem exists_dumpField {kind : FieldKind} {v : Value}
    (h : ∀ n, (kind, v) = (.second, .int n) → Record.hasDate n = true) :
    ∃ w, Record.dumpField kind v = .ok w := by
  unfold Record.dumpField
  split
  · rename_i n
    exact ⟨_, if_pos (h n rfl)⟩
  · exact ⟨_, rfl⟩
  · exact ⟨_, rfl⟩

/-- A record whose times have dates **can be answered**. -/
theorem exists_dump {record : Record} (h : record.IsDated) : ∃ row, record.dump = .ok row := by
  refine exists_mapM_eq_ok fun f hf => ?_
  obtain ⟨w, hw⟩ := exists_dumpField fun n hn => h f hf n hn
  exact ⟨(f.1, w), by rw [hw]; rfl⟩

/-- A record of a kind without times **is dated**. -/
theorem isDated_of_decode {kind : RecordKind} {row : Row} {record : Record}
    (h : kind.decode row = .ok record) (hkind : ∀ f ∈ kind.fields, f.2 ≠ .second) :
    record.IsDated := by
  intro f hf n hn
  have hsecond : f.2.1 = .second := congrArg Prod.fst hn
  exact absurd hsecond (hkind _ (mem_fields_of_decode h hf).1)

/-! ## The records of rows -/

/-- The record of a value beside its row, if the value is a row **that decodes**. -/
def RecordKind.entry? (kind : RecordKind) : Value → Option (Row × Record)
  | .dict row => (kind.decode row).toOption.map (row, ·)
  | _ => none

/-- Values are decoded **one by one**, and those that do not decode are counted. -/
theorem decodeRows_eq (kind : RecordKind) (values : List Value) :
    decodeRows kind values
      = ⟨values.filterMap kind.entry?, values.countP fun v => (kind.entry? v).isNone⟩ := by
  induction values with
  | nil => rfl
  | cons v values ih =>
    have hcons : decodeRows kind (v :: values) = match kind.entry? v with
        | some e => ⟨e :: (decodeRows kind values).entries, (decodeRows kind values).skipped⟩
        | none => ⟨(decodeRows kind values).entries, (decodeRows kind values).skipped + 1⟩ := by
      cases v with
      | dict row =>
        rw [decodeRows, RecordKind.entry?]
        cases kind.decode row <;> rfl
      | _ => rfl
    rw [hcons, ih, List.filterMap_cons, List.countP_cons]
    cases kind.entry? v <;> rfl

/-- The **records** of those rows that are records, in order. -/
def RecordKind.decoded (kind : RecordKind) (rows : List Row) : List Record :=
  rows.filterMap fun row => (kind.decode row).toOption

/-- The records beside their rows are the rows **that are records**, in order. -/
theorem decodeRows_entries (kind : RecordKind) (rows : List Row) :
    (decodeRows kind (rows.map .dict)).entries
      = rows.filterMap fun row => (kind.decode row).toOption.map (row, ·) := by
  rw [decodeRows_eq, List.filterMap_map]
  rfl

/-- A row that is decoded is **a record**. -/
theorem mem_decodeRows_entries {kind : RecordKind} {rows : List Row} {e : Row × Record} :
    e ∈ (decodeRows kind (rows.map .dict)).entries ↔ e.1 ∈ rows ∧ kind.decode e.1 = .ok e.2 := by
  obtain ⟨row, record⟩ := e
  rw [decodeRows_entries, List.mem_filterMap]
  constructor
  · rintro ⟨row', hmem, hrow⟩
    cases hdecode : kind.decode row' with
    | error issues => simp [hdecode, Except.toOption] at hrow
    | ok record' =>
      obtain ⟨rfl, rfl⟩ : row' = row ∧ record' = record := by
        simpa [hdecode, Except.toOption] using hrow
      exact ⟨hmem, hdecode⟩
  · rintro ⟨hmem, hdecode⟩
    exact ⟨row, hmem, by simp [show kind.decode row = .ok record from hdecode, Except.toOption]⟩

/-- The records alone are **those of the rows**. -/
theorem map_decodeRows_entries (kind : RecordKind) (rows : List Row) :
    (decodeRows kind (rows.map .dict)).entries.map (·.2) = kind.decoded rows := by
  rw [decodeRows_entries, List.map_filterMap, RecordKind.decoded]
  simp only [Option.map_map, Function.comp_def, Option.map_id']

/-- As many records stand beside their rows **as there are records**. -/
@[simp] theorem length_decodeRows_entries (kind : RecordKind) (rows : List Row) :
    (decodeRows kind (rows.map .dict)).entries.length = (kind.decoded rows).length := by
  rw [← map_decodeRows_entries, List.length_map]

/-- Every value is a record **or skipped**. -/
theorem length_entries_add_skipped (kind : RecordKind) (values : List Value) :
    (decodeRows kind values).entries.length + (decodeRows kind values).skipped
      = values.length := by
  rw [decodeRows_eq, List.length_filterMap_eq_countP,
    List.length_eq_countP_add_countP fun v => (kind.entry? v).isSome]
  simp only [Bool.not_eq_true, Option.isSome_eq_false_iff, Bool.decide_eq_true]

/-- Every row is a record **or skipped**. -/
theorem length_decoded_add_skipped (kind : RecordKind) (rows : List Row) :
    (kind.decoded rows).length + (decodeRows kind (rows.map .dict)).skipped = rows.length := by
  rw [← length_decodeRows_entries, length_entries_add_skipped, List.length_map]

end ClusterMetrics
