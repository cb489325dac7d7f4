import ClusterMetrics.Proofs.ShapedGroups

/-! # Shaped layouts

Rows are laid out as a list, in groups by a field, in groups by the owning cluster, or in cells.
However they are laid out, every row is in the layout or counted as skipped, the layout is that of
the records in the order in which they arrived, and a row that does not decode changes nothing but
the count.

* **`Arrangement`**, **`Arrangement.shape`**: the ways of laying rows out.
* **`AreGroups`**: what it is to be the groups of placed members. **`AreLastCells`**: what it is to be
  the last values of names. **`areGroups_regroup`**: shaping makes such groups.
* **`Arrangement.IsLayout`**: what it is to be the layout of records.
* **`shaping_skips_only_bad_rows`**: what is laid out, and what a bad row changes. -/

namespace ClusterMetrics

/-! ## Arrangements -/

/-- The **ways of laying rows out**. -/
inductive Arrangement
  | list
  | grouped (field : String)
  | byCluster
  | nested (field : String)

namespace Arrangement

/-- Rows **laid out**. -/
def shape (kind : RecordKind) (rows : List Value) : Arrangement → Except Failure Shaped
  | list => shapeList kind rows
  | grouped field => shapeGrouped kind rows field
  | byCluster => shapeByCluster kind rows
  | nested field => shapeNested kind rows field

/-- The layout of records beside their rows. -/
def layout (entries : List (Row × Record)) : Arrangement → Except Failure Layout
  | list => (entries.mapM fun e : Row × Record => e.2.dump).map .records
  | grouped field => (entries.mapM (placeRecord (fieldKey field))).map fun placed =>
      .groups (regroup id placed)
  | byCluster => (entries.mapM (placeRecord clusterKey)).map fun placed =>
      .groups (regroup id placed)
  | nested field => (entries.mapM (placeCell field)).map fun placed =>
      .cells (regroup lastCells placed)

/-- What is laid out are **the records alone**; the other rows are counted. -/
theorem shape_eq (arrangement : Arrangement) (kind : RecordKind) (rows : List Value) :
    arrangement.shape kind rows
      = (arrangement.layout (decodeRows kind rows).entries).map fun layout =>
          ⟨layout, (decodeRows kind rows).entries.length, (decodeRows kind rows).skipped⟩ := by
  cases arrangement with
  | list =>
    rw [shape, shapeList_eq, layout]
    cases hitems : (decodeRows kind rows).entries.mapM fun e : Row × Record => e.2.dump with
    | error f => rfl
    | ok items =>
      rw [← length_of_mapM_eq_ok hitems]
      rfl
  | grouped field =>
    rw [shape, shapeGrouped, shapeGroups_eq, layout]
    cases (decodeRows kind rows).entries.mapM (placeRecord (fieldKey field)) <;> rfl
  | byCluster =>
    rw [shape, shapeByCluster, shapeGroups_eq, layout]
    cases (decodeRows kind rows).entries.mapM (placeRecord clusterKey) <;> rfl
  | nested field =>
    rw [shape, shapeNested_eq, layout]
    cases (decodeRows kind rows).entries.mapM (placeCell field) <;> rfl

/-- A row that does not decode is **counted**, wherever it stands. -/
theorem shape_insert (arrangement : Arrangement) {kind : RecordKind} {bad : Value}
    (hbad : kind.entry? bad = none) (before after : List Value) :
    arrangement.shape kind (before ++ bad :: after)
      = (arrangement.shape kind (before ++ after)).map fun shaped =>
          { shaped with skipped := shaped.skipped + 1 } := by
  have hentries : (decodeRows kind (before ++ bad :: after)).entries
      = (decodeRows kind (before ++ after)).entries := by
    rw [decodeRows_eq, decodeRows_eq, List.filterMap_append, List.filterMap_append,
      List.filterMap_cons_none hbad]
  have hskipped : (decodeRows kind (before ++ bad :: after)).skipped
      = (decodeRows kind (before ++ after)).skipped + 1 := by
    rw [decodeRows_eq, decodeRows_eq, List.countP_append, List.countP_append,
      List.countP_cons_of_pos (by rw [hbad]; rfl), Nat.add_assoc]
  rw [shape_eq, shape_eq, hentries, hskipped]
  cases arrangement.layout (decodeRows kind (before ++ after)).entries <;> rfl

end Arrangement

/-! ## Groups of placed members -/

/-- Whether groups are **those of placed members**: one for each key, in the order of first
occurrence; shown as the first member of the key shows it; not empty; and holding what is to be held
of the members of the key, in order. -/
structure AreGroups {α β : Type} (Holds : List α → List β → Prop) (placed : List (Placed α))
    (groups : List (Group β)) : Prop where
  keys : groups.map (·.key) = (placed.map (·.key)).eraseDups
  shown : ∀ g ∈ groups, ∃ first, (placed.find? fun p => p.key = g.key) = some first ∧
    first.shown = g.shown
  nonempty : ∀ g ∈ groups, g.members ≠ []
  members : ∀ g ∈ groups, Holds ((placed.filter fun p => p.key = g.key).map (·.member)) g.members

/-- Whether cells are **the last ones** of their names, the names in the order of first occurrence. -/
def AreLastCells (cells last : List (String × Value)) : Prop :=
  last.map (·.1) = (cells.map (·.1)).eraseDups ∧
    ∀ c ∈ last, (cells.filter fun d => d.1 = c.1).getLast? = some c

/-- The last cells of names are **such**. -/
theorem areLastCells_lastCells (cells : List (String × Value)) :
    AreLastCells cells (lastCells cells) :=
  ⟨map_fst_lastCells cells, fun _ => mem_lastCells.1⟩

theorem lastCells_ne_nil {cells : List (String × Value)} (h : cells ≠ []) :
    lastCells cells ≠ [] := by
  obtain ⟨c, hc⟩ := List.exists_mem_of_ne_nil _ h
  have hname : c.1 ∈ (lastCells cells).map (·.1) := by
    rw [map_fst_lastCells, List.mem_eraseDups]
    exact List.mem_map_of_mem hc
  intro hnil
  rw [hnil] at hname
  cases hname

/-- Members grouped are **the groups** of the members. -/
theorem areGroups_regroup {α β : Type} {Holds : List α → List β → Prop}
    {members : List α → List β} (holds : ∀ l, Holds l (members l))
    (nonempty : ∀ l, l ≠ [] → members l ≠ []) (placed : List (Placed α)) :
    AreGroups Holds placed (regroup members placed) := by
  refine ⟨map_key_regroup, fun g hg => (first_of_mem_regroup hg).1, fun g hg => ?_,
    fun g hg => ?_⟩
  · obtain ⟨⟨p, hp, hkey, -⟩, hmembers⟩ := exists_of_mem_regroup hg
    rw [hmembers]
    refine nonempty _ (List.ne_nil_of_mem (List.mem_map_of_mem (f := (·.member))
      (List.mem_filter.2 ⟨hp, ?_⟩)))
    simpa using hkey
  · rw [(first_of_mem_regroup hg).2]
    exact holds _

/-! ## Layouts -/

/-- Whether a value is **the owner** of a row: the name of its cluster, which is the empty text if it
is missing, absent or empty. -/
def IsOwner (row : Row) (owner : Value) : Prop :=
  (owner = .text "" ∧ ∀ v, row.get? "cluster_name" = some v → v.isEmptyLike = true) ∨
    (row.get? "cluster_name" = some owner ∧ owner.isEmptyLike = false)

/-- Rows are grouped by **their owners**. -/
theorem clusterKey_eq_ok_iff {row : Row} {record : Record} {owner : Value} :
    clusterKey row record = .ok owner ↔ IsOwner row owner := by
  rw [clusterKey, IsOwner]
  cases row.get? "cluster_name" with
  | none => simp only [Except.ok.injEq, reduceCtorEq, false_implies, implies_true, and_true,
      false_and, or_false, eq_comm (a := owner)]
  | some v =>
    cases hempty : v.isEmptyLike with
    | true =>
      have hne : ∀ w : Value, v = w → w.isEmptyLike ≠ false := by
        rintro w rfl
        simp [hempty]
      simp only [if_true, Except.ok.injEq, Option.some.injEq, forall_eq', hempty, and_true]
      refine ⟨fun h => .inl h.symm, ?_⟩
      rintro (h | ⟨h, hfull⟩)
      · exact h.symm
      · exact absurd hfull (hne owner h)
    | false =>
      simp only [Bool.false_eq_true, if_false, Except.ok.injEq, Option.some.injEq, forall_eq',
        hempty, and_false, false_or]
      refine ⟨?_, fun h => h.1⟩
      rintro rfl
      exact ⟨rfl, hempty⟩

/-- Whether a record beside its row is **placed** under a key, as what it is answered as. -/
def IsPlaced {α : Type} (IsKey : Row → Record → Value → Prop) (IsMember : Record → α → Prop)
    (e : Row × Record) (p : Placed α) : Prop :=
  IsKey e.1 e.2 p.shown ∧ p.shown.groupKey = .ok p.key ∧ IsMember e.2 p.member

/-- Whether a layout is **that of records** beside their rows, arranged in one way. -/
def Arrangement.IsLayout (entries : List (Row × Record)) : Arrangement → Layout → Prop
  | list, .records items => List.Forall₂ (fun e item => e.2.dump = .ok item) entries items
  | grouped field, .groups groups => ∃ placed,
      List.Forall₂ (IsPlaced (fun _ record v => record.get? field = some v)
        fun record item => record.dump = .ok item) entries placed ∧
      AreGroups (fun items members => members = items) placed groups
  | byCluster, .groups groups => ∃ placed,
      List.Forall₂ (IsPlaced (fun row _ v => IsOwner row v)
        fun record item => record.dump = .ok item) entries placed ∧
      AreGroups (fun items members => members = items) placed groups
  | nested field, .cells groups => ∃ placed,
      List.Forall₂ (IsPlaced (fun _ record v => record.get? field = some v)
        fun record cell => record.get? "metric_name" = some (.text cell.1) ∧
          record.get? "value" = some cell.2) entries placed ∧
      AreGroups AreLastCells placed groups
  | _, _ => False

/-- Records are placed **as they are answered**, under what they are keyed by. -/
theorem isPlaced_of_mapM {keyOf : Row → Record → Except Failure Value}
    {IsKey : Row → Record → Value → Prop}
    (hkey : ∀ {row record v}, keyOf row record = .ok v → IsKey row record v)
    {entries : List (Row × Record)} {placed : List (Placed Row)}
    (h : entries.mapM (placeRecord keyOf) = .ok placed) :
    List.Forall₂ (IsPlaced IsKey fun record item => record.dump = .ok item) entries placed := by
  refine (mapM_eq_ok_iff.1 h).imp fun e p hp => ?_
  obtain ⟨hshown, hgroup, hmember⟩ := placeRecord_eq_ok_iff.1 hp
  exact ⟨hkey hshown, hgroup, hmember⟩

/-- Shaping makes **layouts of the records**. -/
theorem isLayout_of_layout {arrangement : Arrangement} {entries : List (Row × Record)}
    {layout : Layout} (h : arrangement.layout entries = .ok layout) :
    arrangement.IsLayout entries layout := by
  have hgroups : ∀ placed : List (Placed Row),
      AreGroups (fun items members => members = items) placed (regroup id placed) :=
    areGroups_regroup (fun _ => rfl) fun _ hne => hne
  cases arrangement with
  | list =>
    rw [Arrangement.layout] at h
    obtain ⟨items, hitems, rfl⟩ := map_eq_ok_iff.1 h
    exact mapM_eq_ok_iff.1 hitems
  | grouped field =>
    rw [Arrangement.layout] at h
    obtain ⟨placed, hplaced, rfl⟩ := map_eq_ok_iff.1 h
    exact ⟨placed, isPlaced_of_mapM fieldKey_eq_ok_iff.1 hplaced, hgroups placed⟩
  | byCluster =>
    rw [Arrangement.layout] at h
    obtain ⟨placed, hplaced, rfl⟩ := map_eq_ok_iff.1 h
    exact ⟨placed, isPlaced_of_mapM clusterKey_eq_ok_iff.1 hplaced, hgroups placed⟩
  | nested field =>
    rw [Arrangement.layout] at h
    obtain ⟨placed, hplaced, rfl⟩ := map_eq_ok_iff.1 h
    exact ⟨placed, (mapM_eq_ok_iff.1 hplaced).imp fun e p hp => placeCell_eq_ok_iff.1 hp,
      areGroups_regroup areLastCells_lastCells (fun _ => lastCells_ne_nil) placed⟩

/-- **Shaping skips only bad rows.** Let rows be laid out, in any arrangement. Every row is counted as
a record or as skipped. The layout is that of the records, in the order in which they arrived: a
list is the records; groups are those of the keys that occur, each holding the records of its key;
cells are those of the outer keys and metrics that occur, each holding the last value. And a further
row that does not decode, put in anywhere, changes nothing but the number skipped, which grows by
one. -/
theorem shaping_skips_only_bad_rows {arrangement : Arrangement} {kind : RecordKind}
    {rows : List Value} {shaped : Shaped} (answers : arrangement.shape kind rows = .ok shaped) :
    shaped.count + shaped.skipped = rows.length ∧
    shaped.count = (rows.filterMap kind.entry?).length ∧
    arrangement.IsLayout (rows.filterMap kind.entry?) shaped.layout ∧
    ∀ before after bad, rows = before ++ after → kind.entry? bad = none →
      arrangement.shape kind (before ++ bad :: after)
        = .ok { shaped with skipped := shaped.skipped + 1 } := by
  have hrows := answers
  rw [arrangement.shape_eq] at hrows
  obtain ⟨layout, hlayout, rfl⟩ := map_eq_ok_iff.1 hrows
  have hentries : (decodeRows kind rows).entries = rows.filterMap kind.entry? := by
    rw [decodeRows_eq]
  refine ⟨length_entries_add_skipped kind rows, congrArg List.length hentries, ?_, ?_⟩
  · rw [← hentries]
    exact isLayout_of_layout hlayout
  · rintro before after bad rfl hbad
    rw [arrangement.shape_insert hbad, answers]
    rfl

/-- The row of an agent of a cluster. -/
def storedAgent (id : Int) (ip : Value) (cluster : Value) : Value :=
  .dict [("id", .int id), ("version", .text "1.4"), ("ip", ip), ("online", .bool true),
    ("cluster_name", cluster)]

/-- Three agents of a named cluster and of an **unnamed** one, between agents without an address: the
unnamed cluster is the second group, and one more bad row in the middle is the third skipped. -/
theorem agents_by_cluster_between_bad_rows :
    ∃ shaped, Arrangement.byCluster.shape .agentItem
        [storedAgent 1 (.text "10.0.0.1") (.text "main"), storedAgent 2 .null (.text "main"),
          storedAgent 3 (.text "10.0.0.3") .null, storedAgent 4 (.text "10.0.0.4") (.text "main"),
          .null] = .ok shaped ∧
      shaped.count = 3 ∧ shaped.skipped = 2 ∧
      (∃ groups, shaped.layout = .groups groups ∧
        groups.map (·.key) = [.text "main", .text ""] ∧
        groups.map (fun g => g.members.map (·.get? "id")) =
          [[some (.int 1), some (.int 4)], [some (.int 3)]]) ∧
      Arrangement.byCluster.IsLayout ([storedAgent 1 (.text "10.0.0.1") (.text "main"),
          storedAgent 2 .null (.text "main"), storedAgent 3 (.text "10.0.0.3") .null,
          storedAgent 4 (.text "10.0.0.4") (.text "main"), .null].filterMap
            RecordKind.agentItem.entry?) shaped.layout ∧
      Arrangement.byCluster.shape .agentItem
        [storedAgent 1 (.text "10.0.0.1") (.text "main"), storedAgent 2 .null (.text "main"),
          storedAgent 5 .null .null, storedAgent 3 (.text "10.0.0.3") .null,
          storedAgent 4 (.text "10.0.0.4") (.text "main"), .null]
        = .ok { shaped with skipped := 3 } := by
  have answers : Arrangement.byCluster.shape .agentItem
      [storedAgent 1 (.text "10.0.0.1") (.text "main"), storedAgent 2 .null (.text "main"),
        storedAgent 3 (.text "10.0.0.3") .null, storedAgent 4 (.text "10.0.0.4") (.text "main"),
        .null] = .ok _ := rfl
  obtain ⟨-, -, hlayout, hinsert⟩ := shaping_skips_only_bad_rows answers
  exact ⟨_, answers, rfl, rfl, ⟨_, rfl, rfl, rfl⟩, hlayout,
    hinsert [storedAgent 1 (.text "10.0.0.1") (.text "main"), storedAgent 2 .null (.text "main")] _
      (storedAgent 5 .null .null) rfl rfl⟩

end ClusterMetrics
