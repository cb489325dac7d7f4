import ClusterMetrics.Query.Selection
import Mathlib.Data.List.Basic

/-! # Stores of unique identifiers

Identifiers tell the rows of a catalog table apart; rows without an identifier do not count. A join
by identifier then finds at most one row, so a sample has at most one name, label and entity.

* **`IdsDiffer`**, **`Store.HasUniqueIds`**: no two rows of a table bear one identifier.
* **`findById`**: the row of an identifier. **`Store.label?`**, **`Store.entityRow?`**: what a
  sample is joined to.
* **`Store.Joins`**: a row that joins a sample to the catalog rows it refers to.
* **`labelled_eq_filterMap`**, **`join_labelled_eq_filterMap`**: joins as partial functions. -/

namespace ClusterMetrics

/-! ## Joins -/

section Joins

variable {α β : Type} [DecidableEq β]

/-- Columns join when both hold one value. -/
theorem joins_iff {a b : Option β} : joins a b = true ↔ ∃ x, a = some x ∧ b = some x := by
  cases a with
  | none => simp [joins]
  | some x =>
    constructor
    · intro h
      have hb : some x = b := by simpa [joins] using h
      exact ⟨x, rfl, hb.symm⟩
    · rintro ⟨y, hy, rfl⟩
      simp [joins, hy]

@[simp] theorem joins_none_left (b : Option β) : joins none b = false := rfl

theorem joins_some_left {x : β} {b : Option β} : joins (some x) b = true ↔ b = some x := by
  simp [joins_iff]

theorem joins_comm (a b : Option β) : joins a b = joins b a := by
  rw [Bool.eq_iff_iff, joins_iff, joins_iff]
  simp only [and_comm]

theorem joins_trans {a b c : Option β} (h₁ : joins a b = true) (h₂ : joins b c = true) :
    joins a c = true := by
  obtain ⟨x, rfl, rfl⟩ := joins_iff.1 h₁
  obtain ⟨y, hy, rfl⟩ := joins_iff.1 h₂
  cases hy
  exact joins_iff.2 ⟨x, rfl, rfl⟩

/-- Whether **no two rows** bear one identifier. -/
def IdsDiffer (id : α → Option β) (rows : List α) : Prop :=
  rows.Pairwise fun a b => joins (id a) (id b) = false

instance (id : α → Option β) (rows : List α) : Decidable (IdsDiffer id rows) :=
  inferInstanceAs (Decidable (rows.Pairwise fun a b => joins (id a) (id b) = false))

/-- The **row of an identifier**. -/
def findById (id : α → Option β) (rows : List α) (n : Option β) : Option α :=
  rows.find? fun a => joins n (id a)

variable {id : α → Option β} {rows : List α} {n : Option β}

/-- An identifier has a row if **some row** bears it. -/
theorem findById_isSome_iff :
    (findById id rows n).isSome = true ↔ ∃ a ∈ rows, joins n (id a) = true := by
  rw [findById, List.find?_isSome]

/-- A join by unique identifiers finds **at most one row**. -/
theorem filter_joins (hids : IdsDiffer id rows) (n : Option β) :
    rows.filter (fun a => joins n (id a)) = (findById id rows n).toList := by
  induction rows with
  | nil => rfl
  | cons c rows ih =>
    obtain ⟨hfresh, hrows⟩ := List.pairwise_cons.1 hids
    cases hc : joins n (id c) with
    | false =>
      rw [List.filter_cons_of_neg (by simp [hc]), ih hrows]
      simp [findById, hc]
    | true =>
      -- a further row of the identifier would bear the same one as `c`
      have hrest : rows.filter (fun a => joins n (id a)) = [] := by
        rw [List.filter_eq_nil_iff]
        intro a ha hna
        rw [joins_comm] at hc
        simpa [hfresh a ha] using joins_trans hc hna
      rw [List.filter_cons_of_pos (p := fun a => joins n (id a)) hc, hrest]
      simp [findById, hc]

/-- A row is the row of an identifier if it **bears** it. -/
theorem findById_eq_some_iff (hids : IdsDiffer id rows) {a : α} :
    findById id rows n = some a ↔ a ∈ rows ∧ joins n (id a) = true := by
  rw [← Option.mem_toList, ← filter_joins hids, List.mem_filter]

theorem holds_iff {b : Option Int} {n : Int} : holds b n = true ↔ b = some n := by
  rw [holds, beq_iff_eq]

/-- A number joins the columns that **hold it**. -/
theorem joins_some_eq_holds (n : Int) (b : Option Int) : joins (some n) b = holds b n := by
  rw [Bool.eq_iff_iff, joins_some_left, holds_iff]

/-- Some column holds a number if some row **bears** it. -/
theorem any_holds_iff {id : α → Option Int} {n : Int} :
    (rows.any fun a => holds (id a) n) = true ↔ ∃ a ∈ rows, id a = some n := by
  simp only [List.any_eq_true, holds_iff]

/-- Of rows of unique identifiers **one or none** bears a number. -/
theorem length_filter_holds {id : α → Option Int} (hids : IdsDiffer id rows) (n : Int) :
    (rows.filter fun a => holds (id a) n).length
      = if rows.any fun a => holds (id a) n then 1 else 0 := by
  have hany : (rows.any fun a => holds (id a) n) = (findById id rows (some n)).isSome := by
    rw [Bool.eq_iff_iff, findById_isSome_iff, List.any_eq_true]
    simp only [joins_some_eq_holds]
  have hfound := filter_joins hids (some n)
  simp only [joins_some_eq_holds] at hfound
  rw [hfound, hany]
  cases findById id rows (some n) <;> rfl

/-- Unique identifiers are listed **without repetition**. -/
theorem IdsDiffer.nodup_filterMap (hids : IdsDiffer id rows) : (rows.filterMap id).Nodup := by
  refine List.pairwise_filterMap.2 (hids.imp ?_)
  rintro a b hab x hx y hy rfl
  rw [hx, hy, joins_some_left.2 rfl] at hab
  exact Bool.noConfusion hab

end Joins

/-! ## Names, labels and entities -/

/-- Whether **every catalog table** has unique identifiers. -/
structure Store.HasUniqueIds (store : Store) : Prop where
  clusters : IdsDiffer Cluster.id store.clusters
  kubernetesClusters : IdsDiffer KubernetesCluster.id store.kubernetesClusters
  agents : IdsDiffer Agent.id store.agents
  nodes : IdsDiffer Node.id store.nodes
  processes : IdsDiffer Process.id store.processes
  containers : IdsDiffer Container.id store.containers
  podNamespaces : IdsDiffer PodNamespace.id store.podNamespaces
  pods : IdsDiffer Pod.id store.pods
  podContainers : IdsDiffer PodContainer.id store.podContainers
  metricTypes : IdsDiffer MetricType.id store.metricTypes
  metricNames : IdsDiffer MetricName.id store.metricNames
  metricLabels : IdsDiffer MetricLabel.id store.metricLabels

/-- Entities of one kind have unique identifiers. -/
theorem Store.HasUniqueIds.entities {store : Store} (unique : store.HasUniqueIds)
    (kind : EntityKind) : IdsDiffer Entity.id (kind.entities store) := by
  cases kind with
  | node => exact List.pairwise_map.2 unique.nodes
  | process => exact List.pairwise_map.2 unique.processes
  | container => exact List.pairwise_map.2 unique.containers

/-- The **name and label** of a sample. -/
def Store.label? (store : Store) (s : Sample) : Option LabelledSample := do
  let n ← findById MetricName.id store.metricNames s.name
  let l ← findById MetricLabel.id store.metricLabels s.label
  return ⟨s, n, l⟩

/-- The name, label and **entity** of a sample. -/
def Store.entityRow? (store : Store) (kind : EntityKind) (s : Sample) :
    Option (LabelledSample × Entity) := do
  let m ← store.label? s
  let e ← findById Entity.id (kind.entities store) (kind.column s)
  return (m, e)

/-- A row that **joins** a sample to the name, the label and the entity it refers to. -/
structure Store.Joins (store : Store) (kind : EntityKind) (r : LabelledSample × Entity) : Prop where
  name_mem : r.1.name ∈ store.metricNames
  name : joins r.1.sample.name r.1.name.id = true
  label_mem : r.1.label ∈ store.metricLabels
  label : joins r.1.sample.label r.1.label.id = true
  entity_mem : r.2 ∈ kind.entities store
  entity : joins (kind.column r.1.sample) r.2.id = true

/-- A label consists of the **rows found** for a sample. -/
theorem label?_eq_some_iff {store : Store} {s : Sample} {m : LabelledSample} :
    store.label? s = some m ↔
      m.sample = s ∧ findById MetricName.id store.metricNames s.name = some m.name ∧
        findById MetricLabel.id store.metricLabels s.label = some m.label := by
  simp only [Store.label?, Option.bind_eq_bind, Option.bind_eq_some_iff, Option.pure_def,
    Option.some.injEq]
  constructor
  · rintro ⟨n, hn, l, hl, rfl⟩
    exact ⟨rfl, hn, hl⟩
  · rintro ⟨rfl, hn, hl⟩
    exact ⟨m.name, hn, m.label, hl, rfl⟩

/-- An entity row consists of a label and of the **entity found** for a sample. -/
theorem entityRow?_eq_some_iff {store : Store} {kind : EntityKind} {s : Sample}
    {r : LabelledSample × Entity} :
    store.entityRow? kind s = some r ↔
      store.label? s = some r.1 ∧
        findById Entity.id (kind.entities store) (kind.column s) = some r.2 := by
  simp only [Store.entityRow?, Option.bind_eq_bind, Option.bind_eq_some_iff, Option.pure_def,
    Option.some.injEq]
  constructor
  · rintro ⟨m, hm, e, he, rfl⟩
    exact ⟨hm, he⟩
  · rintro ⟨hm, he⟩
    exact ⟨r.1, hm, r.2, he, rfl⟩

/-- A sample has an entity row if **a name, a label and an entity** join it. -/
theorem entityRow?_isSome_iff {store : Store} {kind : EntityKind} {s : Sample} :
    (store.entityRow? kind s).isSome = true ↔
      (∃ n ∈ store.metricNames, joins s.name n.id = true) ∧
        (∃ l ∈ store.metricLabels, joins s.label l.id = true) ∧
          ∃ e ∈ kind.entities store, joins (kind.column s) e.id = true := by
  rw [← findById_isSome_iff, ← findById_isSome_iff, ← findById_isSome_iff, Store.entityRow?,
    Store.label?]
  cases findById MetricName.id store.metricNames s.name with
  | none => simp
  | some n =>
    cases findById MetricLabel.id store.metricLabels s.label with
    | none => simp
    | some l => cases findById Entity.id (kind.entities store) (kind.column s) <;> simp

/-- Rows that a partial function finds, selected and **read back**, are read where they were
found. -/
theorem map_filter_filterMap {α β γ : Type} {f : α → Option β} {g : β → γ} {h : α → γ}
    (hread : ∀ a b, f a = some b → g b = h a) (p : β → Bool) (rows : List α) :
    ((rows.filterMap f).filter p).map g = (rows.filter fun a => (f a).any p).map h := by
  induction rows with
  | nil => rfl
  | cons a rows ih =>
    cases hf : f a with
    | none => rw [List.filterMap_cons_none hf, List.filter_cons_of_neg (by simp [hf]), ih]
    | some b =>
      rw [List.filterMap_cons_some hf]
      cases hp : p b with
      | false =>
        rw [List.filter_cons_of_neg (by simp [hp]), List.filter_cons_of_neg (by simp [hf, hp]), ih]
      | true =>
        rw [List.filter_cons_of_pos hp, List.filter_cons_of_pos (by simp [hf, hp]), List.map_cons,
          List.map_cons, hread a b hf, ih]

section Lookups

variable {store : Store} (unique : store.HasUniqueIds)
include unique

/-- Labelling is a **partial function** of the sample. -/
theorem labelled_eq_filterMap (samples : List Sample) :
    store.labelled samples = samples.filterMap store.label? := by
  rw [Store.labelled, List.filterMap_eq_flatMap_toList]
  congr 1
  funext s
  rw [filter_joins unique.metricNames, filter_joins unique.metricLabels, Store.label?]
  cases findById MetricName.id store.metricNames s.name with
  | none => rfl
  | some n => cases findById MetricLabel.id store.metricLabels s.label <;> rfl

/-- Joining samples to entities is a **partial function** of the sample. -/
theorem join_labelled_eq_filterMap (kind : EntityKind) (samples : List Sample) :
    kind.join store (store.labelled samples) = samples.filterMap (store.entityRow? kind) := by
  rw [labelled_eq_filterMap unique, EntityKind.join, List.filterMap_eq_flatMap_toList,
    List.flatMap_assoc, List.filterMap_eq_flatMap_toList]
  congr 1
  funext s
  rw [Store.entityRow?]
  cases hm : store.label? s with
  | none => rfl
  | some m =>
    have hs : m.sample = s := (label?_eq_some_iff.1 hm).1
    rw [Option.toList_some, List.flatMap_singleton, filter_joins (unique.entities kind), hs]
    cases findById Entity.id (kind.entities store) (kind.column s) <;> rfl

/-- The entity row of a sample **joins it**. -/
theorem joins_of_entityRow? {kind : EntityKind} {s : Sample} {r : LabelledSample × Entity}
    (h : store.entityRow? kind s = some r) : r.1.sample = s ∧ store.Joins kind r := by
  obtain ⟨hlabel, hentity⟩ := entityRow?_eq_some_iff.1 h
  obtain ⟨rfl, hn, hl⟩ := label?_eq_some_iff.1 hlabel
  rw [findById_eq_some_iff unique.metricNames] at hn
  rw [findById_eq_some_iff unique.metricLabels] at hl
  rw [findById_eq_some_iff (unique.entities kind)] at hentity
  exact ⟨rfl, hn.1, hn.2, hl.1, hl.2, hentity.1, hentity.2⟩

end Lookups

end ClusterMetrics
