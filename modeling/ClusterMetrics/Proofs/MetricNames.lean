import ClusterMetrics.Proofs.FoundNames
import ClusterMetrics.Proofs.Selections

/-! # Names of metrics

A request names metrics, and samples refer to them by identifiers. Where neither names nor
identifiers repeat in the catalog, the identifiers of some names filter exactly the samples of
metrics of these names.

* **`Store.NamesDiffer`**: no two metrics bear one name. **`Store.NameIdsFit`**: their identifiers
  are such as a store holds.
* **`mem_duplicates_iff`**: the names that are given more than once.
* **`Backend.resolveNames_eq_ok_iff`**, **`resolveNames_perm`**: when names are resolved, and to
  which identifiers, in which order.
* **`admits_resolved`**: the samples that pass the filter of resolved names. -/

namespace ClusterMetrics

/-! ## Metrics of distinct names -/

/-- Whether **no two metrics** bear one name. -/
def Store.NamesDiffer (store : Store) : Prop := IdsDiffer MetricName.name store.metricNames

instance (store : Store) : Decidable store.NamesDiffer :=
  inferInstanceAs (Decidable (IdsDiffer MetricName.name store.metricNames))

/-- Whether the identifiers of metrics **fit 64 bits**, as every number does that a store holds. -/
def Store.NameIdsFit (store : Store) : Prop :=
  ∀ n ∈ store.metricNames, n.id.all fits64 = true

instance (store : Store) : Decidable store.NameIdsFit :=
  inferInstanceAs (Decidable (∀ n ∈ store.metricNames, n.id.all fits64 = true))

/-- Rows that bear one identifier are **one row**. -/
theorem IdsDiffer.eq_of_joins {α β : Type} [DecidableEq β] {id : α → Option β} {rows : List α}
    (differ : IdsDiffer id rows) {a b : α} (ha : a ∈ rows) (hb : b ∈ rows)
    (h : joins (id a) (id b) = true) : a = b := by
  have haa : joins (id a) (id a) = true := by
    obtain ⟨x, hx, -⟩ := joins_iff.1 h
    exact joins_iff.2 ⟨x, hx, hx⟩
  have hfound := (findById_eq_some_iff differ).2 ⟨hb, h⟩
  rw [(findById_eq_some_iff differ).2 ⟨ha, haa⟩] at hfound
  exact Option.some.inj hfound

/-- The identifier of a name is that of **the metric of the name**. -/
theorem metricId?_eq_some_iff {store : Store} (differ : store.NamesDiffer) {name : String}
    {id : Option Int} :
    store.metricId? name = some id ↔
      ∃ n ∈ store.metricNames, n.name = some name ∧ n.id = id := by
  rw [Store.metricId?, Option.map_eq_some_iff]
  constructor
  · rintro ⟨n, hfind, rfl⟩
    have hname : n.name = some name := by simpa using List.find?_some hfind
    exact ⟨n, List.mem_reverse.1 (List.mem_of_find?_eq_some hfind), hname, rfl⟩
  · rintro ⟨n, hn, hname, rfl⟩
    have hsome : (store.metricNames.reverse.find? fun m => m.name == some name).isSome = true :=
      List.find?_isSome.2 ⟨n, List.mem_reverse.2 hn, by simp [hname]⟩
    obtain ⟨m, hfind⟩ := Option.isSome_iff_exists.1 hsome
    have hm : m.name = some name := by simpa using List.find?_some hfind
    have hmem : m ∈ store.metricNames :=
      List.mem_reverse.1 (List.mem_of_find?_eq_some hfind)
    exact ⟨m, hfind, congrArg MetricName.id
      (differ.eq_of_joins hmem hn (joins_iff.2 ⟨name, hm, hname⟩))⟩

/-! ## Resolved names -/

/-- The repeated names are those that occur **more than once**. -/
theorem mem_duplicates_iff {names : List String} {name : String} :
    name ∈ duplicates names ↔ 1 < names.count name := by
  simp only [duplicates, List.mem_mergeSort, List.mem_eraseDups, List.mem_filter,
    decide_eq_true_eq, and_iff_right_iff_imp]
  intro h
  exact List.count_pos_iff.1 (Nat.zero_lt_of_lt h)

/-- No name is given more than once **exactly if** names do not repeat. -/
theorem duplicates_eq_nil_iff {names : List String} : duplicates names = [] ↔ names.Nodup := by
  rw [List.eq_nil_iff_forall_not_mem, List.nodup_iff_count_le_one]
  exact forall_congr' fun name => by rw [mem_duplicates_iff, Nat.not_lt]

section Resolved

variable {backend : Backend} {names names' : List String} {filter : MetricFilter}

/-- Names that repeat are refused **without the store**. -/
theorem Backend.resolveNames_of_repeated (h : ¬names.Nodup) :
    backend.resolveNames names = .error (.parameter (.duplicateNames (duplicates names))) := by
  have hne : ¬names.isEmpty = true := by
    rintro hempty
    rw [List.isEmpty_iff.1 hempty] at h
    exact h List.nodup_nil
  rw [Backend.resolveNames, if_neg hne]
  split
  · exact absurd (duplicates_eq_nil_iff.1 ‹_›) h
  · rfl

/-- Distinct names are looked up **in the catalog**. -/
theorem Backend.resolveNames_of_nodup (hne : names ≠ []) (hnodup : names.Nodup) :
    backend.resolveNames names
      = ((backend.query [.metricNames] [] names.length).mapError lookupFailure).bind fun store =>
        (store.resolveNames names).mapError .parameter := by
  rw [Backend.resolveNames, if_neg (by simpa using hne), duplicates_eq_nil_iff.2 hnodup]
  rfl

/-- Names are resolved if they do not repeat, the catalog **can be read** and knows them all; and
then to the identifiers of the names, in order. -/
theorem Backend.resolveNames_eq_ok_iff (hne : names ≠ []) :
    backend.resolveNames names = .ok filter ↔
      names.Nodup ∧ backend.access [.metricNames] [] names.length = .ok () ∧
        (∀ n ∈ names, (backend.store.metricId? n).isSome = true) ∧
          filter = names.map fun n => (backend.store.metricId? n).getD none := by
  have hknown : (names.filter fun n => (backend.store.metricId? n).isNone) = [] ↔
      ∀ n ∈ names, (backend.store.metricId? n).isSome = true := by
    simp [List.filter_eq_nil_iff, Option.isSome_iff_ne_none]
  rw [← hknown]
  by_cases hnodup : names.Nodup
  · rw [resolveNames_of_nodup hne hnodup, query]
    cases backend.access [.metricNames] [] names.length with
    | error f => simp [Except.map, Except.mapError, Except.bind]
    | ok u =>
      simp only [Except.map, Except.mapError, Except.bind, Store.resolveNames_eq hnodup]
      cases names.filter fun n => (backend.store.metricId? n).isNone with
      | nil => simp [hnodup, eq_comm]
      | cons n rest => simp
  · simp [resolveNames_of_repeated hnodup, hnodup]

/-- A store in order resolves **one name** that it knows. -/
theorem resolveNames_singleton {store : Store} {name : String} {id : Option Int}
    (h : store.metricId? name = some id) :
    (Backend.ofStore store).resolveNames [name] = .ok [id] := by
  refine (Backend.resolveNames_eq_ok_iff (List.cons_ne_nil _ _)).2
    ⟨List.nodup_singleton name, rfl, ?_, ?_⟩
  · intro n hn
    obtain rfl := List.mem_singleton.1 hn
    exact Option.isSome_iff_exists.2 ⟨id, h⟩
  · change _ = [(store.metricId? name).getD none]
    rw [h, Option.getD_some]

/-- Permuted names are resolved to **permuted identifiers**. -/
theorem resolveNames_perm (hne : names ≠ []) (resolved : backend.resolveNames names = .ok filter)
    (perm : names'.Perm names) :
    ∃ filter', backend.resolveNames names' = .ok filter' ∧ filter'.Perm filter := by
  obtain ⟨hnodup, haccess, hknown, rfl⟩ := (Backend.resolveNames_eq_ok_iff hne).1 resolved
  have hne' : names' ≠ [] := by
    rintro rfl
    exact hne perm.symm.eq_nil
  rw [← perm.length_eq] at haccess
  exact ⟨_, (Backend.resolveNames_eq_ok_iff hne').2 ⟨perm.nodup_iff.2 hnodup, haccess,
    fun n hn => hknown n (perm.mem_iff.1 hn), rfl⟩, perm.map _⟩

variable (hne : names ≠ []) (resolved : backend.resolveNames names = .ok filter)
include hne resolved

/-- Resolved names have **a filter** that is not empty. -/
theorem resolved_ne_nil : filter ≠ [] := by
  obtain ⟨-, -, -, rfl⟩ := (Backend.resolveNames_eq_ok_iff hne).1 resolved
  simpa using hne

variable (differ : backend.store.NamesDiffer)
include differ

/-- Resolved identifiers are those of the metrics **of the names**. -/
theorem mem_resolved_iff {id : Option Int} :
    id ∈ filter ↔ ∃ n ∈ backend.store.metricNames, n.name.any names.contains = true ∧ n.id = id := by
  obtain ⟨-, -, hknown, rfl⟩ := (Backend.resolveNames_eq_ok_iff hne).1 resolved
  rw [List.mem_map]
  constructor
  · rintro ⟨name, hname, rfl⟩
    obtain ⟨id, hid⟩ := Option.isSome_iff_exists.1 (hknown name hname)
    obtain ⟨n, hn, hnname, rfl⟩ := (metricId?_eq_some_iff differ).1 hid
    exact ⟨n, hn, by simpa [hnname] using hname, by rw [hid]; rfl⟩
  · rintro ⟨n, hn, hany, rfl⟩
    obtain ⟨name, hname, hmem⟩ := (Option.any_eq_true _ _).1 hany
    refine ⟨name, by simpa using hmem, ?_⟩
    rw [(metricId?_eq_some_iff differ).2 ⟨n, hn, hname, rfl⟩]
    rfl

/-- Resolved identifiers **fit 64 bits**, as those of the catalog do. -/
theorem fits64_of_mem_resolved (fit : backend.store.NameIdsFit) {n : Int}
    (h : n ∈ filter.filterMap id) : fits64 n = true := by
  obtain ⟨id, hid, rfl⟩ := List.mem_filterMap.1 h
  obtain ⟨row, hrow, -, heq⟩ := (mem_resolved_iff hne resolved differ).1 hid
  have hfit := fit row hrow
  rw [heq] at hfit
  exact hfit

/-- A sample passes the filter of resolved names if the metric it is joined to **has one of the
names**. -/
theorem admits_resolved (unique : backend.store.HasUniqueIds) {samples : List Sample}
    {m : LabelledSample} (hm : m ∈ backend.store.labelled samples) :
    filter.admits m.sample = m.name.name.any names.contains := by
  obtain ⟨s, -, hm⟩ := List.mem_flatMap.1 hm
  obtain ⟨n, hn, hm⟩ := List.mem_flatMap.1 hm
  obtain ⟨l, -, rfl⟩ := List.mem_map.1 hm
  obtain ⟨hn, hjoins⟩ := List.mem_filter.1 hn
  obtain ⟨x, hs, hid⟩ := joins_iff.1 hjoins
  have hempty : filter.isEmpty = false := by
    simpa using resolved_ne_nil hne resolved
  rw [MetricFilter.admits, hempty, hs, Bool.false_or, Option.isSome_some, Bool.true_and,
    Bool.eq_iff_iff, List.contains_iff_mem, mem_resolved_iff hne resolved differ]
  constructor
  · rintro ⟨n', hn', hany, hid'⟩
    -- the metric of a name is the one that the sample is joined to
    rwa [unique.metricNames.eq_of_joins hn' hn (joins_iff.2 ⟨x, hid', hid⟩)] at hany
  · intro hany
    exact ⟨n, hn, hany, hid⟩

end Resolved

end ClusterMetrics
