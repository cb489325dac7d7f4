import ClusterMetrics.Api.Server
import ClusterMetrics.Proofs.ShapedGroups

/-! # Shown records

The records of rows are answered one by one and laid out as a list or in groups. A group whose name is
hidden is left out of the data with all its records. Whatever the layout, the data hold every other
record as often as there is a row of it.

* **`shownGroups_regroup`**: leaving out hidden groups is leaving out what is placed in them.
* **`DataRoute.keyOf?`**, **`DataRoute.shape_eq`**: what a route groups its records by.
* **`DataRoute.shown`**: the records of rows that are not hidden. **`DataRoute.shown_of_list`**,
  **`DataRoute.shown_of_field`**: those of a list, and of groups by a field.
* **`Value.records`**, **`holdsRecords_of_shape`**: the records in the data of an answer. -/

namespace ClusterMetrics

/-! ## Hidden groups -/

/-- Whether a group of a key is **hidden**. -/
def GroupKey.isHiddenKey : GroupKey → Bool
  | text s => isHidden s
  | _ => false

/-- A value hides a group exactly if **its key** does. -/
theorem isHiddenKey_of_groupKey {v : Value} {key : GroupKey} (h : v.groupKey = .ok key) :
    v.isHiddenKey = key.isHiddenKey := by
  cases v with
  | float x =>
    rw [Value.groupKey] at h
    split at h
    · split at h <;> (cases h; rfl)
    · cases h
      rfl
  | moment m =>
    obtain rfl := Except.ok.inj h
    split <;> rfl
  | list items => cases h
  | dict entries => cases h
  | _ =>
    cases h
    rfl

/-- **No field** of a record is hidden, so that a record is answered whole or not at all. -/
theorem isHidden_of_mem_fields (kind : RecordKind) : ∀ f ∈ kind.fields, isHidden f.1 = false := by
  cases kind <;> decide

/-- The groups that are answered are made of the members **that are not hidden**. -/
theorem shownGroups_regroup {α β : Type} {members : List α → List β} {placed : List (Placed α)}
    (keyed : ∀ p ∈ placed, p.shown.groupKey = .ok p.key) :
    shownGroups (regroup members placed)
      = regroup members (placed.filter fun p => !p.shown.isHiddenKey) := by
  have hmembers : (placed.filter fun p => !p.shown.isHiddenKey)
      = placed.filter fun p => !p.key.isHiddenKey :=
    List.filter_congr fun p hp => by rw [isHiddenKey_of_groupKey (keyed p hp)]
  rw [hmembers, regroup_filter fun key => !key.isHiddenKey, shownGroups]
  refine List.filter_congr fun g hg => ?_
  obtain ⟨⟨p, hp, hkey, hshown⟩, -⟩ := exists_of_mem_regroup hg
  rw [← hkey, ← hshown, isHiddenKey_of_groupKey (keyed p hp)]

/-! ## What routes group by -/

/-- Whether a key that records and their rows yield **hides** a record. -/
def hidesBy (keyOf : Row → Record → Except Failure Value) (e : Row × Record) : Bool :=
  match keyOf e.1 e.2 with
  | .ok v => v.isHiddenKey
  | .error _ => false

/-- The field that the records of a snapshot are **grouped by**. -/
def SnapshotQuery.groupField : SnapshotQuery → String
  | entities kind => kind.nameField
  | pods => "pod"

/-- The field that the records of a series are **grouped by**, if they are. -/
def SeriesQuery.groupField? : SeriesQuery → Option String
  | entities kind => some kind.nameField
  | pods => some "pod"
  | clusterSummary => none

namespace DataRoute

/-- The **kind of records** that a route makes of its rows. -/
def record : DataRoute → RecordKind
  | clusters => .clusterItem
  | agents => .agentItem
  | nodes => .nodeItem
  | metricNames => .metricNameItem
  | clusterAgents => .agentItem
  | clusterNodes => .nodeItem
  | snapshot query => query.record
  | series query => query.record
  | summary .clusters => .clusterSummaryRow
  | summary .nodes => .nodeSummaryRow

/-- What a route **groups its records by**, if it does. -/
def keyOf? : DataRoute → Option (Row → Record → Except Failure Value)
  | agents => some clusterKey
  | nodes => some clusterKey
  | snapshot query => some (fieldKey query.groupField)
  | series query => query.groupField?.map fieldKey
  | _ => none

/-- Rows that are not summed up are laid out **in groups or as a list**. -/
theorem shape_eq {route : DataRoute} (unsummed : ∀ query, route ≠ .summary query)
    (rows : List Value) : route.shape rows = match route.keyOf? with
      | some keyOf => shapeGroups route.record rows keyOf
      | none => shapeList route.record rows := by
  cases route with
  | snapshot query => cases query <;> rfl
  | series query => cases query <;> rfl
  | summary query => exact absurd rfl (unsummed query)
  | _ => rfl

/-- Whether a record of a row is **in a hidden group**. -/
def hides (route : DataRoute) (e : Row × Record) : Bool := route.keyOf?.any (hidesBy · e)

/-- The records of rows that are **not hidden**, in order. -/
def shown (route : DataRoute) (rows : List Row) : List Record :=
  ((decodeRows route.record (rows.map .dict)).entries.filter fun e => !route.hides e).map (·.2)

/-- A list hides **no record**. -/
theorem shown_of_list {route : DataRoute} (h : route.keyOf? = none) (rows : List Row) :
    route.shown rows = route.record.decoded rows := by
  rw [shown, List.filter_eq_self.2 (fun e _ => by rw [hides, h]; rfl), map_decodeRows_entries]

/-- Groups by a field hide the records **that bear a hidden name** there. -/
theorem shown_of_field {route : DataRoute} {field : String}
    (h : route.keyOf? = some (fieldKey field)) (rows : List Row) :
    route.shown rows = (route.record.decoded rows).filter fun record =>
      !(record.get? field).any Value.isHiddenKey := by
  rw [shown, ← map_decodeRows_entries, List.filter_map]
  refine congrArg _ (List.filter_congr fun e _ => ?_)
  rw [hides, h, Option.any_some, hidesBy, fieldKey, Function.comp_apply]
  cases e.2.get? field <;> rfl

/-- All records are shown if **none is hidden**, and only then. -/
theorem length_shown_eq_iff {route : DataRoute} {rows : List Row} :
    (route.shown rows).length = (route.record.decoded rows).length ↔
      ∀ e ∈ (decodeRows route.record (rows.map .dict)).entries, route.hides e = false := by
  rw [shown, List.length_map, ← length_decodeRows_entries, List.length_filter_eq_length_iff]
  simp only [Bool.not_eq_true']

end DataRoute

/-! ## The records in the data -/

/-- The **records in the data** of an answer: the items of a list, or those of every group of an
object. -/
def Value.records : Value → List Value
  | .list items => items
  | .dict groups => groups.flatMap fun g => g.2.list?.getD []
  | _ => []

/-- Whether the data of a layout hold **the answered records**, in some order. -/
def Layout.HoldsRecords (layout : Layout) (records : List Record) : Prop :=
  ∃ items, records.mapM Record.dump = .ok items ∧ layout.toValue.records.Perm (items.map .dict)

section Layouts

variable {kind : RecordKind} {rows : List Row} {shaped : Shaped}

/-- A list holds **all records**. -/
theorem holdsRecords_of_shapeList (h : shapeList kind (rows.map .dict) = .ok shaped) :
    shaped.layout.HoldsRecords (kind.decoded rows) := by
  rw [shapeList_eq] at h
  obtain ⟨items, hitems, rfl⟩ := map_eq_ok_iff.1 h
  refine ⟨items, ?_, List.Perm.refl _⟩
  rw [mapM_eq_ok_iff, ← map_decodeRows_entries, List.forall₂_map_left_iff]
  exact mapM_eq_ok_iff.1 hitems

/-- Groups hold the records that are **not hidden** by what they are grouped by. -/
theorem holdsRecords_of_shapeGroups {keyOf : Row → Record → Except Failure Value}
    (h : shapeGroups kind (rows.map .dict) keyOf = .ok shaped) :
    shaped.layout.HoldsRecords
      (((decodeRows kind (rows.map .dict)).entries.filter fun e => !hidesBy keyOf e).map (·.2)) := by
  rw [shapeGroups_eq] at h
  obtain ⟨placed, hplaced, rfl⟩ := map_eq_ok_iff.1 h
  have hkeyed : ∀ p ∈ placed, p.shown.groupKey = .ok p.key := by
    intro p hp
    obtain ⟨e, -, hplace⟩ := exists_of_mem_mapM hplaced hp
    exact (placeRecord_eq_ok_iff.1 hplace).2.1
  -- a record is hidden exactly if it is placed under a hidden name
  have hshown : List.Forall₂ (fun e p => placeRecord keyOf e = .ok p)
      ((decodeRows kind (rows.map .dict)).entries.filter fun e => !hidesBy keyOf e)
      (placed.filter fun p => !p.shown.isHiddenKey) := by
    refine List.rel_filter (fun {e p} hplace => ?_) (mapM_eq_ok_iff.1 hplaced)
    simp only [hidesBy, (placeRecord_eq_ok_iff.1 hplace).1]
  refine ⟨(placed.filter fun p => !p.shown.isHiddenKey).map (·.member), ?_, ?_⟩
  · rw [mapM_eq_ok_iff, List.forall₂_map_left_iff, List.forall₂_map_right_iff]
    exact hshown.imp fun _ _ hplace => (placeRecord_eq_ok_iff.1 hplace).2.2
  · have hrecords : (Layout.groups (regroup id placed)).toValue.records
        = ((shownGroups (regroup id placed)).flatMap (·.members)).map .dict := by
      rw [Layout.toValue, Value.records, List.flatMap_map, List.map_flatMap]
      rfl
    rw [hrecords, shownGroups_regroup hkeyed]
    exact (regroup_perm _).map _

/-- Every layout but the cells of a summary holds **the records that are not hidden**. -/
theorem holdsRecords_of_shape {route : DataRoute} (unsummed : ∀ query, route ≠ .summary query)
    (h : route.shape (rows.map .dict) = .ok shaped) :
    shaped.layout.HoldsRecords (route.shown rows) := by
  rw [DataRoute.shape_eq unsummed] at h
  split at h
  · rename_i keyOf hkeyOf
    have hhides : route.hides = hidesBy keyOf := by
      funext e
      rw [DataRoute.hides, hkeyOf, Option.any_some]
    rw [DataRoute.shown, hhides]
    exact holdsRecords_of_shapeGroups h
  · rename_i hlist
    rw [DataRoute.shown_of_list hlist]
    exact holdsRecords_of_shapeList h

end Layouts

end ClusterMetrics
