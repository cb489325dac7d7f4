import ClusterMetrics.Proofs.Groups
import ClusterMetrics.Proofs.MetricNames
import ClusterMetrics.Proofs.Numerals
import ClusterMetrics.Proofs.Rejections

/-! # Resolved names

Names are resolved all or none. A name that is given twice refuses them without the store, and
otherwise a name that no row of the catalog bears. If neither is the case, each name has the
identifier of a row of the name, in the order of the names, however often the catalog repeats it.
The catalog is asked by one statement, so it cannot be read for more names than this can hold.

* **`pairwise_lt_duplicates`**: names that are given more than once are told in order.
* **`Store.bears`**: whether a row of the catalog bears a name.
* **`Store.resolveNames_of_missing`**, **`Store.resolveNames_of_borne`**: distinct names are refused or
  resolved by the catalog. **`Backend.resolveNames_of_unread`**: it may not be readable.
  **`Backend.reads_iff`**: when it is.
* **`names_are_resolved_all_or_none`**: when names are resolved, when they are refused, and how. -/

namespace ClusterMetrics

/-! ## Repeated names -/

/-- The repeated names are told once each, **in the order of code points**. -/
theorem pairwise_lt_duplicates (names : List String) : (duplicates names).Pairwise (· < ·) := by
  have htrans : ∀ a b c : String, decide (a ≤ b) = true → decide (b ≤ c) = true →
      decide (a ≤ c) = true := by
    simp only [decide_eq_true_eq]
    exact fun a b c => String.le_trans
  have htotal : ∀ a b : String, (decide (a ≤ b) || decide (b ≤ a)) = true := by
    simp only [Bool.or_eq_true, decide_eq_true_eq]
    exact String.le_total
  have hsorted : (duplicates names).Pairwise fun a b => decide (a ≤ b) = true :=
    List.pairwise_mergeSort htrans htotal _
  have hdistinct : (duplicates names).Nodup :=
    (List.mergeSort_perm _ _).nodup_iff.2 (nodup_eraseDups _)
  refine (hsorted.and hdistinct).imp fun ⟨hle, hne⟩ => String.not_le.1 fun hge => ?_
  exact hne (String.le_antisymm (of_decide_eq_true hle) hge)

/-! ## Borne names -/

/-- Whether **a row** of the catalog bears a name. -/
def Store.bears (store : Store) (name : String) : Bool :=
  store.metricNames.any fun row => row.name == some name

/-- A name has an identifier if **a row bears it**. -/
theorem isSome_metricId? (store : Store) (name : String) :
    (store.metricId? name).isSome = store.bears name := by
  rw [Store.metricId?, Option.isSome_map, Store.bears, Bool.eq_iff_iff, List.find?_isSome,
    List.any_eq_true]
  exact exists_congr fun row => and_congr_left fun _ => List.mem_reverse

/-- The identifier of a name that is borne is that of **a row of the name**. -/
theorem exists_row_of_bears {store : Store} {name : String} (h : store.bears name = true) :
    ∃ row ∈ store.metricNames, row.name = some name ∧
      row.id = (store.metricId? name).getD none := by
  rw [← isSome_metricId?] at h
  obtain ⟨id, hid⟩ := Option.isSome_iff_exists.1 h
  obtain ⟨row, hfind, hrow⟩ := Option.map_eq_some_iff.1 hid
  refine ⟨row, List.mem_reverse.1 (List.mem_of_find?_eq_some hfind), ?_, ?_⟩
  · simpa using List.find?_some hfind
  · rw [hid, hrow, Option.getD_some]

/-- Names that no row bears are **those without an identifier**. -/
theorem filter_isNone_metricId? (store : Store) (names : List String) :
    (names.filter fun n => (store.metricId? n).isNone) = names.filter fun n => !store.bears n :=
  List.filter_congr fun n _ => by rw [← isSome_metricId?, Option.not_isSome]

section Outcomes

variable {names : List String}

/-- Distinct names are refused if **no row bears** one of them, with all of these. -/
theorem Store.resolveNames_of_missing {store : Store} (hnodup : names.Nodup)
    (hmissing : (names.filter fun n => !store.bears n) ≠ []) :
    store.resolveNames names = .error (.unknownNames (names.filter fun n => !store.bears n)) := by
  rw [Store.resolveNames_eq hnodup, filter_isNone_metricId?]
  split
  · exact absurd ‹_› hmissing
  · rfl

/-- Distinct names that rows bear have **their identifiers**. -/
theorem Store.resolveNames_of_borne {store : Store} (hnodup : names.Nodup)
    (hborne : (names.filter fun n => !store.bears n) = []) :
    store.resolveNames names = .ok (names.map fun n => (store.metricId? n).getD none) := by
  rw [Store.resolveNames_eq hnodup, filter_isNone_metricId?, hborne]

variable {backend : Backend}

/-- The catalog **can be read** for names if the store responds, the table is there, and a statement
can hold the names. -/
theorem Backend.reads_iff :
    backend.access [.metricNames] [] names.length = .ok () ↔
      backend.respond = .ok () ∧ .metricNames ∉ backend.dropped ∧ names.length ≤ variableLimit := by
  have htakes : Takes [] names.length ↔ names.length ≤ variableLimit := by
    constructor
    · intro takes
      simpa using takes.few
    · intro few
      exact ⟨by simpa using few, by simp⟩
  rw [access_eq_ok_iff, htakes]
  simp

variable (hne : names ≠ []) (hnodup : names.Nodup)
include hne hnodup

/-- If the catalog cannot be read, distinct names fail **with it**, and not by a fault of the
request. -/
theorem Backend.resolveNames_of_unread {f : Failure}
    (hread : backend.access [.metricNames] [] names.length = .error f) :
    backend.resolveNames names = .error (lookupFailure f) ∧
      ∀ fault, lookupFailure f ≠ .parameter fault := by
  have hquery : backend.query [.metricNames] [] names.length = .error f := by
    rw [query, hread]
    rfl
  refine ⟨?_, fun fault hfault => ?_⟩
  · rw [resolveNames_of_nodup hne hnodup, hquery]
    rfl
  · cases f with
    | parameter fault' => exact backend.query_blameless _ _ _ fault' hquery
    | _ => cases hfault

/-- If the catalog can be read, distinct names are resolved **by its rows**. -/
theorem Backend.resolveNames_of_read
    (hread : backend.access [.metricNames] [] names.length = .ok ()) :
    backend.resolveNames names = (backend.store.resolveNames names).mapError .parameter := by
  have hquery : backend.query [.metricNames] [] names.length = .ok backend.store := by
    rw [query, hread]
    rfl
  rw [resolveNames_of_nodup hne hnodup, hquery]
  rfl

end Outcomes

/-- **Names are resolved all or none.** The catalog can be read for as many names as a statement can
hold, and refuses to be read for more. No names are resolved to none. Names are refused as repeated
exactly if they repeat, and then those that occur more than once are told, once each in the order of
code points. Distinct names are refused as unknown exactly if the catalog can be read for them and no
row of it bears one of them, and then all of these are told, in order. Otherwise, and only then, names
are resolved, each to the identifier of a row of exactly that name, in order; unless the catalog cannot
be read, which fails the lookup. -/
theorem names_are_resolved_all_or_none (backend : Backend) (names : List String) :
    (backend.access [.metricNames] [] names.length = .ok () ↔
      backend.respond = .ok () ∧ .metricNames ∉ backend.dropped ∧ names.length ≤ variableLimit) ∧
    (backend.respond = .ok () → variableLimit < names.length →
      backend.access [.metricNames] [] names.length = .error Backend.tooManyVariables) ∧
    (names = [] → backend.resolveNames names = .ok []) ∧
    ((∃ repeated, backend.resolveNames names = .error (.parameter (.duplicateNames repeated))) ↔
      ¬names.Nodup) ∧
    (∀ repeated, backend.resolveNames names = .error (.parameter (.duplicateNames repeated)) →
      repeated.Pairwise (· < ·) ∧ ∀ name, name ∈ repeated ↔ 1 < names.count name) ∧
    ((∃ missing, backend.resolveNames names = .error (.parameter (.unknownNames missing))) ↔
      names.Nodup ∧ backend.access [.metricNames] [] names.length = .ok () ∧
        ∃ name ∈ names, backend.store.bears name = false) ∧
    (∀ missing, backend.resolveNames names = .error (.parameter (.unknownNames missing)) →
      missing ≠ [] ∧ missing = names.filter fun name => !backend.store.bears name) ∧
    ((∃ ids, backend.resolveNames names = .ok ids) ↔
      names = [] ∨ names.Nodup ∧ backend.access [.metricNames] [] names.length = .ok () ∧
        ∀ name ∈ names, backend.store.bears name = true) ∧
    (∀ ids, backend.resolveNames names = .ok ids →
      List.Forall₂ (fun name id => ∃ row ∈ backend.store.metricNames,
        row.name = some name ∧ row.id = id) names ids) ∧
    ∀ f, names ≠ [] → names.Nodup → backend.access [.metricNames] [] names.length = .error f →
      backend.resolveNames names = .error (lookupFailure f) := by
  refine ⟨Backend.reads_iff, fun responds many =>
    Backend.access_of_many responds (by simpa using many), ?_⟩
  have hmissing : (names.filter fun name => !backend.store.bears name) ≠ [] ↔
      ∃ name ∈ names, backend.store.bears name = false := by
    simp [List.filter_eq_nil_iff]
  by_cases hne : names = []
  · subst hne
    have hnone : backend.resolveNames [] = .ok [] := rfl
    simp [hnone]
  by_cases hnodup : names.Nodup
  swap
  · -- names that repeat do not get as far as the catalog
    rw [Backend.resolveNames_of_repeated hnodup]
    refine ⟨fun h => absurd h hne, ⟨fun _ => hnodup, fun _ => ⟨_, rfl⟩⟩, fun repeated h => ?_, ?_⟩
    · obtain rfl : duplicates names = repeated := by simpa using h
      exact ⟨pairwise_lt_duplicates names, fun _ => mem_duplicates_iff⟩
    · simp [hne, hnodup]
  cases hread : backend.access [.metricNames] [] names.length with
  | error f =>
    obtain ⟨hfails, hblameless⟩ := Backend.resolveNames_of_unread hne hnodup hread
    rw [hfails]
    simp [hne, hnodup, hblameless]
  | ok u =>
    rw [Backend.resolveNames_of_read hne hnodup hread]
    by_cases hborne : (names.filter fun name => !backend.store.bears name) = []
    · have hall : ∀ name ∈ names, backend.store.bears name = true := by
        simpa [List.filter_eq_nil_iff] using hborne
      have hrows : List.Forall₂ (fun name id => ∃ row ∈ backend.store.metricNames,
          row.name = some name ∧ row.id = id) names
          (names.map fun name => (backend.store.metricId? name).getD none) :=
        List.forall₂_map_right_iff.2 (List.forall₂_same.2 fun name h =>
          exists_row_of_bears (hall name h))
      rw [Store.resolveNames_of_borne hnodup hborne]
      simpa [Except.mapError, hne, hnodup, hrows] using hall
    · rw [Store.resolveNames_of_missing hnodup hborne]
      simpa [Except.mapError, hne, hnodup] using hmissing.1 hborne

/-- A catalog with two rows of one name, and a row without a name. -/
def repeatedName : Store :=
  { Store.empty with
    metricNames := [⟨some 1, some "cpu", none, none⟩, ⟨some 2, some "mem", none, none⟩,
      ⟨some 3, some "cpu", none, none⟩, ⟨some 4, none, none, none⟩] }

/-- Names are resolved **although a row repeats one**; unknown names are told in order, and a repeated
name is told though it is unknown. -/
theorem names_of_a_repeated_row :
    (∃ ids, (Backend.ofStore repeatedName).resolveNames ["mem", "cpu"] = .ok ids ∧
        List.Forall₂ (fun name id => ∃ row ∈ repeatedName.metricNames,
          row.name = some name ∧ row.id = id) ["mem", "cpu"] ids) ∧
      (Backend.ofStore repeatedName).resolveNames ["net", "cpu", "disk"]
        = .error (.parameter (.unknownNames ["net", "disk"])) ∧
      ∃ repeated, (Backend.ofStore repeatedName).resolveNames ["net", "cpu", "net"]
          = .error (.parameter (.duplicateNames repeated)) ∧ "net" ∈ repeated ∧ "cpu" ∉ repeated := by
  obtain ⟨-, -, -, -, -, -, -, hresolved, hrows, -⟩ :=
    names_are_resolved_all_or_none (Backend.ofStore repeatedName) ["mem", "cpu"]
  obtain ⟨-, -, -, -, -, hunknown, hmissing, -⟩ :=
    names_are_resolved_all_or_none (Backend.ofStore repeatedName) ["net", "cpu", "disk"]
  obtain ⟨-, -, -, hrefused, hrepeated, -⟩ :=
    names_are_resolved_all_or_none (Backend.ofStore repeatedName) ["net", "cpu", "net"]
  obtain ⟨ids, hids⟩ := hresolved.2 (.inr ⟨by decide, rfl, by decide⟩)
  obtain ⟨missing, hnames⟩ := hunknown.2 ⟨by decide, rfl, "net", by decide, by decide⟩
  obtain ⟨repeated, htwice⟩ := hrefused.2 (by decide)
  obtain ⟨-, rfl⟩ := hmissing missing hnames
  obtain ⟨-, hmem⟩ := hrepeated repeated htwice
  exact ⟨⟨ids, hids, hrows ids hids⟩, hnames, repeated, htwice, (hmem "net").2 (by decide),
    fun h => absurd ((hmem "cpu").1 h) (by decide)⟩

/-- Numerals are **distinct names**. -/
theorem numerals_nodup (n : Nat) : ((List.range n).map toString).Nodup := by
  refine List.nodup_range.map fun i j h => ?_
  simp only [Nat.toString_eq_ofList_toDigits, String.ofList_inj] at h
  rw [← digitsToNat_toDigits i, h, digitsToNat_toDigits]

/-- More distinct names than a statement can hold are **neither resolved nor refused as unknown**. -/
theorem names_beyond_the_values_of_a_statement :
    ((List.range 32767).map toString).Nodup ∧ "0" ∈ (List.range 32767).map toString ∧
      Store.empty.bears "0" = false ∧
      (Backend.ofStore Store.empty).resolveNames ((List.range 32767).map toString)
        = .error (.store "failed to get metric names: too many SQL variables") := by
  have hmem : "0" ∈ (List.range 32767).map toString :=
    List.mem_map.2 ⟨0, List.mem_range.2 (by decide), rfl⟩
  have hmany : variableLimit < ([] : List Int).length + ((List.range 32767).map toString).length := by
    rw [List.length_map, List.length_range]
    decide
  have hquery := @Backend.query_ofStore_of_many [.metricNames] _ _ Store.empty hmany
  refine ⟨numerals_nodup _, hmem, rfl, ?_⟩
  rw [Backend.resolveNames_of_nodup (List.ne_nil_of_mem hmem) (numerals_nodup _), hquery]
  rfl

end ClusterMetrics
