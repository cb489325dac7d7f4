import ClusterMetrics.Query.Names
import Mathlib.Data.List.Induction
import Mathlib.Data.List.Nodup

/-! # Found names

The rows of some names are collected into a dictionary, where a later row of a name replaces an
earlier one. So the dictionary has a name once, with the identifier of its last row; and it has as
many entries as names were asked for exactly if every one of them was found, as these do not repeat.

* **`lookup_setEntry`**, **`nodup_keys_setEntry`**: what setting an entry does to a dictionary.
* **`Store.metricId?`**, **`lookup_foundIds`**: the identifier that is found for a name.
* **`Store.resolveNames_eq`**: names that do not repeat are resolved if each has an identifier. -/

namespace ClusterMetrics

/-! ## Dictionaries -/

section Entries

variable {α : Type} (key : String) (value : α) (entries : List (String × α))

/-- A dictionary gives a key **its first entry**. -/
theorem lookup_entry_cons (key' : String) :
    ((key, value) :: entries).lookup key'
      = if key' = key then some value else entries.lookup key' := by
  by_cases h : key' = key
  · rw [if_pos h, h, List.lookup_cons_self]
  · rw [if_neg h, List.lookup_cons, beq_false_of_ne h]

/-- Setting an entry changes **the value of its key** only. -/
theorem lookup_setEntry (key' : String) :
    (setEntry key value entries).lookup key'
      = if key' = key then some value else entries.lookup key' := by
  induction entries with
  | nil => exact lookup_entry_cons key value [] key'
  | cons e rest ih =>
    obtain ⟨first, old⟩ := e
    rw [setEntry, lookup_entry_cons]
    by_cases hfirst : first = key
    · rw [if_pos hfirst, lookup_entry_cons, hfirst]
      split <;> rfl
    · rw [if_neg hfirst, lookup_entry_cons, ih]
      by_cases h : key' = first
      · rw [if_pos h, if_neg (h ▸ hfirst), if_pos h]
      · rw [if_neg h, if_neg h]

/-- Setting an entry adds **its key** if it is new. -/
theorem keys_setEntry :
    (setEntry key value entries).map Prod.fst
      = if key ∈ entries.map Prod.fst then entries.map Prod.fst
        else entries.map Prod.fst ++ [key] := by
  induction entries with
  | nil => rfl
  | cons e rest ih =>
    rw [setEntry]
    by_cases hfirst : e.1 = key
    · simp [hfirst]
    · have hmem : key ∈ (e :: rest).map Prod.fst ↔ key ∈ rest.map Prod.fst := by
        simp [Ne.symm hfirst]
      rw [if_neg hfirst, List.map_cons, ih]
      simp only [hmem]
      split <;> rfl

/-- Setting an entry **repeats no key**. -/
theorem nodup_keys_setEntry {entries : List (String × α)} (h : (entries.map Prod.fst).Nodup) :
    ((setEntry key value entries).map Prod.fst).Nodup := by
  rw [keys_setEntry]
  split
  · exact h
  · rename_i hnew
    exact List.nodup_append.2 ⟨h, List.nodup_singleton key, by
      rintro a ha b hb rfl
      exact hnew (List.mem_singleton.1 hb ▸ ha)⟩

/-- A dictionary has a value for **its keys**. -/
theorem mem_keys_iff : key ∈ entries.map Prod.fst ↔ (entries.lookup key).isSome = true := by
  rw [List.lookup_isSome_iff, List.mem_map]
  exact exists_congr fun e => and_congr_right fun _ => by rw [beq_iff_eq, eq_comm]

end Entries

/-! ## Identifiers of names -/

/-- The identifier of a name: that of the **last** row of the name. -/
def Store.metricId? (store : Store) (name : String) : Option (Option Int) :=
  (store.metricNames.reverse.find? fun n => n.name == some name).map (·.id)

/-- Noting a row changes the identifier **of its name** only, if that was asked for. -/
theorem lookup_noteId (names : List String) (found : List (String × Option Int)) (row : MetricName)
    (name : String) :
    (noteId names found row).lookup name
      = if row.name = some name ∧ name ∈ names then some row.id else found.lookup name := by
  rw [noteId]
  split
  · rename_i other hrow
    simp only [hrow, Option.some.injEq]
    by_cases hmem : other ∈ names
    · rw [if_pos (List.contains_iff_mem.2 hmem), lookup_setEntry]
      by_cases hname : other = name
      · rw [if_pos hname.symm, if_pos ⟨hname, hname ▸ hmem⟩]
      · rw [if_neg (Ne.symm hname), if_neg fun h => hname h.1]
    · have hother : ¬(other = name ∧ name ∈ names) := by
        rintro ⟨rfl, hname⟩
        exact hmem hname
      rw [if_neg fun h => hmem (List.contains_iff_mem.1 h), if_neg hother]
  · rename_i hrow
    have hnone : ¬(row.name = some name ∧ name ∈ names) := by
      rw [hrow]
      exact fun h => nomatch h.1
    rw [if_neg hnone]

section Found

variable (store : Store) (names : List String)

/-- The dictionary gives a name that was asked for **the identifier of its last row**. -/
theorem lookup_foundIds (name : String) :
    (store.foundIds names).lookup name = if name ∈ names then store.metricId? name else none := by
  rw [Store.foundIds, Store.metricId?]
  -- by the rows from the last one, as it is noted last and found first
  induction store.metricNames using List.reverseRecOn with
  | nil => simp
  | append_singleton rows row ih =>
    rw [List.foldl_append, List.foldl_cons, List.foldl_nil, lookup_noteId, ih, List.reverse_append,
      List.reverse_singleton, List.singleton_append]
    by_cases hmem : name ∈ names
    · by_cases hrow : row.name = some name
      · rw [if_pos ⟨hrow, hmem⟩, if_pos hmem, List.find?_cons_of_pos (by simpa using hrow)]
        rfl
      · rw [if_neg fun h => hrow h.1, if_pos hmem, if_pos hmem,
          List.find?_cons_of_neg (by simpa using hrow)]
    · rw [if_neg fun h => hmem h.2, if_neg hmem, if_neg hmem]

/-- The dictionary **has a name once**. -/
theorem nodup_keys_foundIds : ((store.foundIds names).map Prod.fst).Nodup := by
  rw [Store.foundIds]
  induction store.metricNames using List.reverseRecOn with
  | nil => exact List.nodup_nil
  | append_singleton rows row ih =>
    rw [List.foldl_append, List.foldl_cons, List.foldl_nil, noteId]
    split
    · split
      · exact nodup_keys_setEntry _ _ ih
      · exact ih
    · exact ih

/-- The dictionary has **the names that were asked for** and have an identifier. -/
theorem mem_keys_foundIds_iff (name : String) :
    name ∈ (store.foundIds names).map Prod.fst ↔
      name ∈ names ∧ (store.metricId? name).isSome = true := by
  rw [mem_keys_iff, lookup_foundIds]
  split <;> simp [*]

/-- The names that were not found are those **without an identifier**. -/
theorem unknown_foundIds :
    unknown (store.foundIds names) names = names.filter fun n => (store.metricId? n).isNone :=
  List.filter_congr fun n hn => by rw [lookup_foundIds, if_pos hn]

variable {store names} (hnodup : names.Nodup)
include hnodup

/-- If every name has an identifier, there are **as many entries** as names. -/
theorem length_foundIds (hknown : ∀ n ∈ names, (store.metricId? n).isSome = true) :
    (store.foundIds names).length = names.length := by
  -- neither the dictionary nor the names repeat, and both have the same
  have hperm : ((store.foundIds names).map Prod.fst).Perm names :=
    (List.perm_ext_iff_of_nodup (nodup_keys_foundIds store names) hnodup).2 fun n =>
      (mem_keys_foundIds_iff store names n).trans (and_iff_left_of_imp (hknown n))
  rw [← hperm.length_eq, List.length_map]

/-- Names that do not repeat are resolved **if each has an identifier**; else those without one are
refused. -/
theorem Store.resolveNames_eq :
    store.resolveNames names
      = match names.filter fun n => (store.metricId? n).isNone with
        | [] => .ok (names.map fun n => (store.metricId? n).getD none)
        | missing => .error (.unknownNames missing) := by
  rw [Store.resolveNames, unknown_foundIds]
  cases hmissing : names.filter fun n => (store.metricId? n).isNone with
  | cons n rest => rfl
  | nil =>
    have hknown : ∀ n ∈ names, (store.metricId? n).isSome = true := by
      simpa [List.filter_eq_nil_iff, Option.isSome_iff_ne_none] using hmissing
    have hids : (names.map fun n => ((store.foundIds names).lookup n).getD none)
        = names.map fun n => (store.metricId? n).getD none :=
      List.map_congr_left fun n hn => by rw [lookup_foundIds, if_pos hn]
    simp [length_foundIds hnodup hknown, hids]

end Found

end ClusterMetrics
