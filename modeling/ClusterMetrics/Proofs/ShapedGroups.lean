import ClusterMetrics.Proofs.DecodedRows
import ClusterMetrics.Proofs.Groups
import Mathlib.Data.List.Nodup

/-! # Shaped groups

Members are added to groups one by one, and so are values to cells. What comes out is the grouping
of all of them at once: a group for each key that occurs, in the order of first occurrence.

* **`upsert`**: one step of collecting by key. **`foldl_upsert`**: all steps are one grouping.
* **`foldl_addToGroup`**, **`foldl_addToCells`**, **`foldl_setEntry`**: the steps of shaping are such
  steps.
* **`shapeList_eq`**, **`shapeGroups_eq`**, **`shapeNested_eq`**: what is shaped. -/

namespace ClusterMetrics

/-! ## Collecting by key -/

section Upsert

variable {α γ κ : Type} [DecidableEq κ] (keyOf : γ → κ) (key : α → κ) (new : α → γ)
  (put : γ → α → γ)

/-- **Puts** an element into the place of its key, or opens a place for it at the end. -/
def upsert (a : α) : List γ → List γ
  | [] => [new a]
  | g :: rest => if keyOf g = key a then put g a :: rest else g :: upsert a rest

/-- What a place **holds** after some elements were put into it. -/
def collected : List α → Option γ
  | [] => none
  | a :: rest => some (rest.foldl put (new a))

variable {new put} (hput : ∀ g a, keyOf g = key a → keyOf (put g a) = keyOf g)
include hput

/-- The first place takes **the elements of its key**, and the other places the others. -/
theorem foldl_upsert_cons (l : List α) (g : γ) (rest : List γ) :
    l.foldl (fun gs a => upsert keyOf key new put a gs) (g :: rest)
      = (l.filter fun a => key a = keyOf g).foldl put g ::
        (l.filter fun a => key a ≠ keyOf g).foldl (fun gs a => upsert keyOf key new put a gs)
          rest := by
  induction l generalizing g rest with
  | nil => rfl
  | cons a l ih =>
    rw [List.foldl_cons, upsert]
    by_cases h : keyOf g = key a
    · rw [if_pos h, ih, hput g a h, List.filter_cons_of_pos (by simpa using h.symm),
        List.filter_cons_of_neg (by simpa using h.symm), List.foldl_cons]
    · have h' : key a ≠ keyOf g := fun e => h e.symm
      rw [if_neg h, ih, List.filter_cons_of_neg (by simpa using h'),
        List.filter_cons_of_pos (by simpa using h'), List.foldl_cons]

/-- Collecting **one by one** is grouping all at once. -/
theorem foldl_upsert (hnew : ∀ a, keyOf (new a) = key a) (l : List α) :
    l.foldl (fun gs a => upsert keyOf key new put a gs) []
      = (groupBy key l).filterMap fun g => collected new put g.2 := by
  cases l with
  | nil => rfl
  | cons a l =>
    rw [List.foldl_cons, upsert, foldl_upsert_cons keyOf key hput, hnew, groupBy_cons]
    -- the first group has taken its elements, so the recursion is on the length
    exact congrArg _ (foldl_upsert hnew (l.filter fun b => key b ≠ key a))
termination_by l.length
decreasing_by exact Nat.lt_succ_of_le (List.length_filter_le _ _)

end Upsert

/-! ## Groups and cells -/

/-- A member **placed** in a group: its key, the value that the key is seen as, and itself. -/
structure Placed (α : Type) where
  key : GroupKey
  shown : Value
  member : α

/-- The group of placed members, the first of which **shows its key**. -/
def Group.collect {α β : Type} (members : List α → List β) (placed : List (Placed α)) :
    Option (Group β) :=
  placed.head?.map fun first => ⟨first.key, first.shown, members (placed.map (·.member))⟩

/-- Placed members **grouped** by their keys. -/
def regroup {α β : Type} (members : List α → List β) (placed : List (Placed α)) :
    List (Group β) :=
  (groupBy Placed.key placed).filterMap fun g => Group.collect members g.2

/-- Members put into their groups **one by one** are grouped. -/
theorem foldl_upsert_placed {α β : Type} (put : List β → α → List β) (placed : List (Placed α)) :
    placed.foldl (fun groups p =>
        upsert Group.key Placed.key (fun p => ⟨p.key, p.shown, put [] p.member⟩)
          (fun g p => { g with members := put g.members p.member }) p groups) []
      = regroup (List.foldl put []) placed := by
  have hrest : ∀ (rest : List (Placed α)) (g : Group β),
      rest.foldl (fun g p => { g with members := put g.members p.member }) g
        = { g with members := (rest.map (·.member)).foldl put g.members } := by
    intro rest
    induction rest with
    | nil => intro g; rfl
    | cons p rest ih =>
      intro g
      rw [List.foldl_cons, ih]
      rfl
  refine (foldl_upsert Group.key Placed.key ?_ ?_ placed).trans ?_
  · exact fun _ _ _ => rfl
  · exact fun _ => rfl
  rw [regroup]
  congr 1
  funext ⟨key, members⟩
  cases members with
  | nil => rfl
  | cons p rest =>
    rw [collected, hrest]
    rfl

/-- Adding members to groups **groups** them. -/
theorem foldl_addToGroup {α : Type} (placed : List (Placed α)) :
    placed.foldl (fun groups p => addToGroup p.key p.shown p.member groups) []
      = regroup id placed := by
  have hstep : ∀ (groups : List (Group α)) (p : Placed α),
      addToGroup p.key p.shown p.member groups
        = upsert Group.key Placed.key (fun p => ⟨p.key, p.shown, [] ++ [p.member]⟩)
            (fun g p => { g with members := g.members ++ [p.member] }) p groups := by
    intro groups p
    induction groups with
    | nil => rfl
    | cons g rest ih => rw [addToGroup, upsert, ih]
  have hmembers : List.foldl (fun (l : List α) a => l ++ [a]) [] = id := by
    funext l
    rw [List.foldl_append_eq_append, ← List.flatMap_def, List.flatMap_singleton']
    rfl
  simp only [hstep]
  rw [foldl_upsert_placed fun l a => l ++ [a], hmembers]

/-- The cells of values: of each name **the last value**. -/
def lastCells (cells : List (String × Value)) : List (String × Value) :=
  (groupBy Prod.fst cells).filterMap fun g => g.2.getLast?

/-- Setting cells leaves **the last value** of each name. -/
theorem foldl_setEntry (cells : List (String × Value)) :
    cells.foldl (fun cells c => setEntry c.1 c.2 cells) [] = lastCells cells := by
  have hstep : ∀ (cells : List (String × Value)) (c : String × Value), setEntry c.1 c.2 cells
      = upsert Prod.fst Prod.fst id (fun _ c => c) c cells := by
    intro cells c
    induction cells with
    | nil => rfl
    | cons d rest ih => rw [setEntry, upsert, ih]
  have hlast : ∀ cells : List (String × Value),
      collected id (fun _ c => c) cells = cells.getLast? := by
    intro cells
    cases cells with
    | nil => rfl
    | cons c rest =>
      induction rest generalizing c with
      | nil => rfl
      | cons d rest ih => rw [List.getLast?_cons_cons, ← ih]; rfl
  simp only [hstep]
  rw [lastCells]
  simp only [← hlast]
  exact foldl_upsert Prod.fst Prod.fst (fun _ _ h => h.symm) (fun _ => rfl) cells

/-- Adding values to cells groups them and leaves **the last value** of each name in a group. -/
theorem foldl_addToCells (placed : List (Placed (String × Value))) :
    placed.foldl (fun groups p => addToCells p.key p.shown p.member.1 p.member.2 groups) []
      = regroup lastCells placed := by
  have hstep : ∀ (groups : List (Group (String × Value))) (p : Placed (String × Value)),
      addToCells p.key p.shown p.member.1 p.member.2 groups
        = upsert Group.key Placed.key
            (fun p => ⟨p.key, p.shown, setEntry p.member.1 p.member.2 []⟩)
            (fun g p => { g with members := setEntry p.member.1 p.member.2 g.members }) p
            groups := by
    intro groups p
    induction groups with
    | nil => rfl
    | cons g rest ih => rw [addToCells, upsert, ih]
  simp only [hstep]
  rw [← funext foldl_setEntry]
  exact foldl_upsert_placed (fun cells c => setEntry c.1 c.2 cells) placed

/-! ## What groups hold -/

section Regroup

variable {α β : Type} {members : List α → List β} {placed : List (Placed α)}

/-- A group shows its key as **the first member** placed in it does, and holds what is placed in
it. -/
theorem first_of_mem_regroup {g : Group β} (hg : g ∈ regroup members placed) :
    (∃ first, (placed.find? fun p => p.key = g.key) = some first ∧ first.shown = g.shown) ∧
      g.members = members ((placed.filter fun p => p.key = g.key).map (·.member)) := by
  obtain ⟨rows, hmem, hcollect⟩ := List.mem_filterMap.1 hg
  obtain ⟨-, hrows⟩ := mem_groupBy.1 hmem
  obtain ⟨first, hfirst, rfl⟩ := Option.map_eq_some_iff.1 hcollect
  have hkey := (List.mem_filter.1 (hrows ▸ List.mem_of_head? hfirst)).2
  rw [← of_decide_eq_true hkey] at hrows
  refine ⟨⟨first, ?_, rfl⟩, by rw [hrows]⟩
  rw [← List.head?_filter, ← hrows, hfirst]

/-- A group holds **what is placed** in it, and shows its key as a placed member does. -/
theorem exists_of_mem_regroup {g : Group β} (hg : g ∈ regroup members placed) :
    (∃ p ∈ placed, p.key = g.key ∧ p.shown = g.shown) ∧
      g.members = members ((placed.filter fun p => p.key = g.key).map (·.member)) := by
  obtain ⟨⟨first, hfirst, hshown⟩, hmembers⟩ := first_of_mem_regroup hg
  exact ⟨⟨first, List.mem_of_find?_eq_some hfirst, by simpa using List.find?_some hfirst, hshown⟩,
    hmembers⟩

/-- A group that is collected **has its key**. -/
theorem exists_collect_of_mem_groupBy {g : GroupKey × List (Placed α)}
    (hg : g ∈ groupBy Placed.key placed) :
    ∃ group, Group.collect members g.2 = some group ∧ group.key = g.1 := by
  obtain ⟨first, hfirst⟩ := Option.isSome_iff_exists.1
    (List.isSome_head?.2 (members_ne_nil_of_mem_groupBy hg))
  have hin := List.mem_of_head? hfirst
  rw [(mem_groupBy.1 hg).2] at hin
  rw [Group.collect, hfirst]
  exact ⟨_, rfl, of_decide_eq_true (List.mem_filter.1 hin).2⟩

/-- The groups are those **of the keys** that occur, in the order of first occurrence. -/
theorem map_key_regroup : (regroup members placed).map Group.key
    = (placed.map (·.key)).eraseDups := by
  have hkeys : (regroup members placed).map Group.key
      = (groupBy Placed.key placed).map (·.1) := by
    refine map_filterMap_of_forall fun g hg => ?_
    obtain ⟨group, hgroup, hkey⟩ := exists_collect_of_mem_groupBy hg
    rw [hgroup, Option.map_some, hkey]
  rw [hkeys, groupBy, List.map_map]
  exact List.map_id _

/-- Members selected **by their keys** are grouped as before. -/
theorem regroup_filter (q : GroupKey → Bool) :
    regroup members (placed.filter fun p => q p.key)
      = (regroup members placed).filter fun g => q g.key := by
  have hgroups : groupBy Placed.key (placed.filter fun p => q p.key)
      = (groupBy Placed.key placed).filter fun g => q g.1 := groupBy_filter fun _ _ => rfl
  rw [regroup, hgroups, List.filterMap_filter, regroup, List.filter_filterMap]
  refine List.filterMap_congr fun g hg => ?_
  obtain ⟨group, hgroup, hkey⟩ := exists_collect_of_mem_groupBy hg
  rw [hgroup, Option.filter_some, hkey]

/-- **No key** has two groups. -/
theorem regroup_keys_nodup : ((regroup members placed).map Group.key).Nodup := by
  rw [map_key_regroup]
  exact nodup_eraseDups _

/-- The groups hold, put together, **all members**. -/
theorem regroup_perm (placed : List (Placed α)) :
    ((regroup id placed).flatMap (·.members)).Perm (placed.map (·.member)) := by
  have hmembers : (regroup id placed).map Group.members
      = (groupBy Placed.key placed).map fun g => g.2.map (·.member) := by
    refine map_filterMap_of_forall fun g hg => ?_
    obtain ⟨first, hfirst⟩ := Option.isSome_iff_exists.1
      (List.isSome_head?.2 (members_ne_nil_of_mem_groupBy hg))
    rw [Group.collect, hfirst]
    rfl
  rw [List.flatMap_def, hmembers, ← List.flatMap_def, ← List.map_flatMap]
  exact (groupBy_perm Placed.key placed).map _

end Regroup

/-- A cell is **the last** of its name. -/
theorem mem_lastCells {cells : List (String × Value)} {c : String × Value} :
    c ∈ lastCells cells ↔ (cells.filter fun d => d.1 = c.1).getLast? = some c := by
  rw [lastCells, List.mem_filterMap]
  constructor
  · rintro ⟨g, hg, hlast⟩
    obtain ⟨-, hrows⟩ := mem_groupBy.1 hg
    have hin : c ∈ g.2 := List.mem_of_getLast? hlast
    rw [hrows] at hin
    obtain ⟨-, hname⟩ := List.mem_filter.1 hin
    rw [← hlast, hrows]
    simp [of_decide_eq_true hname]
  · intro hlast
    refine ⟨(c.1, cells.filter fun d => d.1 = c.1), mem_groupBy.2 ⟨?_, rfl⟩, hlast⟩
    obtain ⟨hin, hname⟩ := List.mem_filter.1 (List.mem_of_getLast? hlast)
    exact ⟨c, hin, rfl⟩

/-- The names of cells are **those that occur**, in the order of first occurrence. -/
theorem map_fst_lastCells (cells : List (String × Value)) :
    (lastCells cells).map (·.1) = (cells.map (·.1)).eraseDups := by
  have hnames : (lastCells cells).map (·.1) = (groupBy Prod.fst cells).map (·.1) := by
    refine map_filterMap_of_forall fun g hg => ?_
    obtain ⟨c, hc⟩ := Option.isSome_iff_exists.1
      (List.getLast?_isSome.2 (members_ne_nil_of_mem_groupBy hg))
    have hin := List.mem_of_getLast? hc
    rw [(mem_groupBy.1 hg).2] at hin
    rw [hc]
    exact congrArg some (of_decide_eq_true (List.mem_filter.1 hin).2)
  rw [hnames, groupBy, List.map_map]
  exact List.map_id _

/-- **No name** has two cells. -/
theorem lastCells_names_nodup (cells : List (String × Value)) :
    ((lastCells cells).map (·.1)).Nodup := by
  rw [map_fst_lastCells]
  exact nodup_eraseDups _

section Cells

variable {placed : List (Placed (String × Value))} {key : GroupKey} {name : String}

/-- A cell holds **the last value** placed under its key and its name. -/
theorem exists_mem_cells_iff {v : Value} :
    (∃ g ∈ regroup lastCells placed, g.key = key ∧ (name, v) ∈ g.members) ↔
      ((placed.filter fun p => p.key = key ∧ p.member.1 = name).getLast?.map (·.member))
        = some (name, v) := by
  have hcell : ∀ k, (name, v) ∈ lastCells ((placed.filter fun p => p.key = k).map (·.member)) ↔
      ((placed.filter fun p => p.key = k ∧ p.member.1 = name).getLast?.map (·.member))
        = some (name, v) := by
    intro k
    rw [mem_lastCells, List.filter_map, List.filter_filter, List.getLast?_map]
    simp [and_comm]
  constructor
  · rintro ⟨g, hg, rfl, hmem⟩
    rw [(exists_of_mem_regroup hg).2] at hmem
    exact (hcell g.key).1 hmem
  · intro hlast
    obtain ⟨p, hp, -⟩ := Option.map_eq_some_iff.1 hlast
    obtain ⟨hplaced, hkey⟩ := List.mem_filter.1 (List.mem_of_getLast? hp)
    have hoccurs : key ∈ (regroup lastCells placed).map Group.key := by
      rw [map_key_regroup, List.mem_eraseDups]
      exact List.mem_map.2 ⟨p, hplaced, (of_decide_eq_true hkey).1⟩
    obtain ⟨g, hg, rfl⟩ := List.mem_map.1 hoccurs
    refine ⟨g, hg, rfl, ?_⟩
    rw [(exists_of_mem_regroup hg).2]
    exact (hcell g.key).2 hlast

/-- **No place** has two cells. -/
theorem cell_places_nodup :
    ((regroup lastCells placed).flatMap fun g => g.members.map fun c => (g.key, c.1)).Nodup := by
  rw [List.nodup_flatMap]
  constructor
  · intro g hg
    have hnames : (g.members.map (·.1)).Nodup := by
      rw [(exists_of_mem_regroup hg).2]
      exact lastCells_names_nodup _
    have hpairs : (g.members.map fun c => (g.key, c.1))
        = (g.members.map (·.1)).map (Prod.mk g.key) := by
      rw [List.map_map]
      rfl
    rw [hpairs]
    exact hnames.map fun _ _ h => (Prod.mk.inj h).2
  · have hkeys : (regroup lastCells placed).Pairwise fun g g' => g.key ≠ g'.key :=
      List.pairwise_map.1 regroup_keys_nodup
    refine hkeys.imp fun hne c hc hc' => hne ?_
    obtain ⟨_, -, rfl⟩ := List.mem_map.1 hc
    obtain ⟨_, -, h⟩ := List.mem_map.1 hc'
    exact (Prod.mk.inj h).1.symm

end Cells

/-! ## Layouts -/

/-- A loop whose steps **do not look at what is built** obtains everything first. -/
theorem foldlM_bind_eq {ε α β σ : Type} (f : α → Except ε β) (step : σ → β → σ) (l : List α)
    (s : σ) :
    l.foldlM (fun s a => f a >>= fun b => pure (step s b)) s
      = (l.mapM f).map fun bs => bs.foldl step s := by
  induction l generalizing s with
  | nil => rfl
  | cons a l ih =>
    rw [List.foldlM_cons, List.mapM_cons]
    cases f a with
    | error e => rfl
    | ok b =>
      refine (ih (step s b)).trans ?_
      simp only [bind, Except.bind]
      cases l.mapM f <;> rfl

/-- A record as it is answered, **placed in the group** of its key. -/
def placeRecord (keyOf : Row → Record → Except Failure Value) (e : Row × Record) :
    Except Failure (Placed Row) := do
  let shown ← keyOf e.1 e.2
  let key ← shown.groupKey
  let item ← e.2.dump
  return ⟨key, shown, item⟩

/-- The value of a record under the name of its metric, **placed in the group** of a field. -/
def placeCell (field : String) (e : Row × Record) : Except Failure (Placed (String × Value)) := do
  let shown ← fieldKey field e.1 e.2
  let key ← shown.groupKey
  match e.2.get? "metric_name", e.2.get? "value" with
  | some (.text name), some value => return ⟨key, shown, (name, value)⟩
  | _, _ => throw .unknownField

/-- A record is placed by **its key**. -/
theorem placeRecord_eq_ok_iff {keyOf : Row → Record → Except Failure Value} {e : Row × Record}
    {p : Placed Row} :
    placeRecord keyOf e = .ok p ↔
      keyOf e.1 e.2 = .ok p.shown ∧ p.shown.groupKey = .ok p.key ∧ e.2.dump = .ok p.member := by
  obtain ⟨key, shown, member⟩ := p
  simp only [placeRecord, bind_eq_ok_iff, pure, Except.pure, Except.ok.injEq, Placed.mk.injEq]
  constructor
  · rintro ⟨_, hshown, _, hkey, _, hmember, rfl, rfl, rfl⟩
    exact ⟨hshown, hkey, hmember⟩
  · rintro ⟨hshown, hkey, hmember⟩
    exact ⟨shown, hshown, key, hkey, member, hmember, rfl, rfl, rfl⟩

/-- A field is a key if the record **has it**. -/
theorem fieldKey_eq_ok_iff {field : String} {row : Row} {record : Record} {v : Value} :
    fieldKey field row record = .ok v ↔ record.get? field = some v := by
  rw [fieldKey]
  cases record.get? field <;> simp

/-- The value of a record is placed by **a field**, under the name of its metric. -/
theorem placeCell_eq_ok_iff {field : String} {e : Row × Record} {p : Placed (String × Value)} :
    placeCell field e = .ok p ↔
      e.2.get? field = some p.shown ∧ p.shown.groupKey = .ok p.key ∧
        e.2.get? "metric_name" = some (.text p.member.1) ∧
        e.2.get? "value" = some p.member.2 := by
  simp only [placeCell, bind_eq_ok_iff, fieldKey_eq_ok_iff]
  constructor
  · rintro ⟨shown, hshown, key, hkey, hcell⟩
    split at hcell
    · cases hcell
      exact ⟨hshown, hkey, ‹_›, ‹_›⟩
    · cases hcell
  · rintro ⟨hshown, hkey, hname, hvalue⟩
    refine ⟨p.shown, hshown, p.key, hkey, ?_⟩
    rw [hname, hvalue]
    rfl

section Layouts

variable (kind : RecordKind) (rows : List Value)

/-- A list holds **the records** as they are answered. -/
theorem shapeList_eq : shapeList kind rows
    = ((decodeRows kind rows).entries.mapM fun e : Row × Record => e.2.dump).map fun items =>
        ⟨.records items, items.length, (decodeRows kind rows).skipped⟩ := by
  rw [shapeList]
  cases (decodeRows kind rows).entries.mapM fun e : Row × Record => e.2.dump <;> rfl

/-- Groups hold **the records** placed by their keys. -/
theorem shapeGroups_eq (keyOf : Row → Record → Except Failure Value) : shapeGroups kind rows keyOf
    = ((decodeRows kind rows).entries.mapM (placeRecord keyOf)).map fun placed =>
        ⟨.groups (regroup id placed), (decodeRows kind rows).entries.length,
          (decodeRows kind rows).skipped⟩ := by
  have hfold : shapeGroups kind rows keyOf
      = ((decodeRows kind rows).entries.foldlM (fun groups e => placeRecord keyOf e >>= fun p =>
            pure (addToGroup p.key p.shown p.member groups)) []) >>= fun groups =>
          pure ⟨.groups groups, (decodeRows kind rows).entries.length,
            (decodeRows kind rows).skipped⟩ := by
    simp only [shapeGroups, placeRecord, bind_assoc, pure_bind]
  rw [hfold, foldlM_bind_eq]
  simp only [foldl_addToGroup]
  cases (decodeRows kind rows).entries.mapM (placeRecord keyOf) <;> rfl

/-- Cells hold **the values of records** placed by a field and their metrics. -/
theorem shapeNested_eq (field : String) : shapeNested kind rows field
    = ((decodeRows kind rows).entries.mapM (placeCell field)).map fun placed =>
        ⟨.cells (regroup lastCells placed), (decodeRows kind rows).entries.length,
          (decodeRows kind rows).skipped⟩ := by
  have hfold : shapeNested kind rows field
      = ((decodeRows kind rows).entries.foldlM (fun groups e => placeCell field e >>= fun p =>
            pure (addToCells p.key p.shown p.member.1 p.member.2 groups)) []) >>= fun groups =>
          pure ⟨.cells groups, (decodeRows kind rows).entries.length,
            (decodeRows kind rows).skipped⟩ := by
    simp only [shapeNested, placeCell, bind_assoc]
    congr 2
    funext groups e
    congr 1
    funext shown
    congr 1
    funext key
    generalize e.2.get? "metric_name" = name, e.2.get? "value" = value
    cases name with
    | none => rfl
    | some name => cases name <;> cases value <;> rfl
  rw [hfold, foldlM_bind_eq]
  simp only [foldl_addToCells]
  cases (decodeRows kind rows).entries.mapM (placeCell field) <;> rfl

end Layouts

end ClusterMetrics
