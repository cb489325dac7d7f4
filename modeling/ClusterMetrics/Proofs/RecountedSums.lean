import ClusterMetrics.Proofs.SnapshotSums
import Mathlib.Data.List.Flatten
import Mathlib.Data.List.Forall2
import Mathlib.Data.List.Perm.Basic

/-! # Sums of inserted rows

Rows may be inserted among others, at any places. Selected, replaced and joined rows are inserted
among selected, replaced and joined ones, so it is enough to look where a query starts. Where copies
of rows are inserted, a sum keeps its key and its time. Its value becomes the sum of the values of
the key and of the copies, and stays the same if no copy holds a value.

* **`Inserted`**: rows that stand among others. **`Inserted.filter`**, **`Inserted.flatMap`**,
  **`Inserted.flatMap_of_forall`**: what is made of them.
* **`Recounts`**: what becomes of a sum. **`forall₂_rollup`**: what becomes of all sums.
* **`forall₂_sortBy`**: sorting keeps related rows together. -/

namespace ClusterMetrics

/-! ## Inserted rows -/

section Insertion

variable {α β : Type} {rows again rows' : List α}

/-- Whether rows stand **inserted** among others: the others stay in order, and nothing else is
there. -/
structure Inserted (rows again rows' : List α) : Prop where
  sublist : rows.Sublist rows'
  perm : rows'.Perm (rows ++ again)

/-- A row may be inserted **at any place**. -/
theorem inserted_middle (before after : List α) (a : α) :
    Inserted (before ++ after) [a] (before ++ a :: after) := by
  constructor
  · exact (List.sublist_cons_self a after).append_left before
  · rw [List.append_assoc]
    exact (List.perm_append_singleton a after).symm.append_left before

namespace Inserted

/-- Where no row is inserted, **nothing changes**. -/
theorem eq_of_nil (h : Inserted rows [] rows') : rows' = rows := by
  have hperm := h.perm
  rw [List.append_nil] at hperm
  -- a part in order that is as long as the whole is the whole
  exact (h.sublist.eq_of_length hperm.length_eq.symm).symm

/-- Copies of rows are **no new members**. -/
theorem mem_iff (h : Inserted rows again rows') (known : ∀ a ∈ again, a ∈ rows) {a : α} :
    a ∈ rows' ↔ a ∈ rows := by
  rw [h.perm.mem_iff, List.mem_append]
  exact or_iff_left_of_imp (known a)

theorem filter (p : α → Bool) (h : Inserted rows again rows') :
    Inserted (rows.filter p) (again.filter p) (rows'.filter p) := by
  refine ⟨h.sublist.filter p, ?_⟩
  rw [← List.filter_append]
  exact h.perm.filter p

theorem map (f : α → β) (h : Inserted rows again rows') :
    Inserted (rows.map f) (again.map f) (rows'.map f) := by
  refine ⟨h.sublist.map f, ?_⟩
  rw [← List.map_append]
  exact h.perm.map f

theorem filterMap (f : α → Option β) (h : Inserted rows again rows') :
    Inserted (rows.filterMap f) (again.filterMap f) (rows'.filterMap f) := by
  refine ⟨h.sublist.filterMap f, ?_⟩
  rw [← List.filterMap_append]
  exact h.perm.filterMap f

/-- Inserted rows are **joined to inserted pairs**. -/
theorem flatMap (f : α → List β) (h : Inserted rows again rows') :
    Inserted (rows.flatMap f) (again.flatMap f) (rows'.flatMap f) := by
  refine ⟨h.sublist.flatMap f, ?_⟩
  rw [← List.flatMap_append]
  exact h.perm.flatMap_right f

/-- What is inserted **for each row** is inserted for all of them. -/
theorem flatMap_of_forall {f g f' : α → List β} (h : ∀ a ∈ rows, Inserted (f a) (g a) (f' a)) :
    Inserted (rows.flatMap f) (rows.flatMap g) (rows.flatMap f') := by
  constructor
  · exact List.Sublist.flatMap_right rows fun a ha => (h a ha).sublist
  · have hperm : (rows.flatMap f').Perm (rows.flatMap fun a => f a ++ g a) :=
      List.Perm.flatMap_left rows fun a ha => (h a ha).perm
    exact hperm.trans (List.flatMap_append_perm rows f g).symm

end Inserted

/-- The greatest number **only depends on the members**. -/
theorem max?_eq_of_mem_iff {l l' : List Int} (h : ∀ n, n ∈ l ↔ n ∈ l') : l.max? = l'.max? := by
  cases hmax : l'.max? with
  | none =>
    rw [List.max?_eq_none_iff] at hmax ⊢
    rw [List.eq_nil_iff_forall_not_mem]
    intro n hn
    rw [h, hmax] at hn
    cases hn
  | some n =>
    rw [List.max?_eq_some_iff] at hmax ⊢
    simpa only [h] using hmax

end Insertion

/-! ## Related rows -/

section Related

variable {α β γ : Type} {R : α → β → Prop} {l : List α} {l' : List β}

/-- Rows of the same keys are **related** if rows of one key are. -/
theorem forall₂_of_map_eq {f : α → γ} {g : β → γ} (h : l.map f = l'.map g)
    (hR : ∀ a ∈ l, ∀ b ∈ l', f a = g b → R a b) : List.Forall₂ R l l' := by
  induction l generalizing l' with
  | nil =>
    obtain rfl := List.map_eq_nil_iff.1 h.symm
    exact .nil
  | cons a l ih =>
    obtain ⟨b, l', rfl, hb, htail⟩ := List.map_eq_cons_iff.1 h.symm
    refine .cons (hR a List.mem_cons_self b List.mem_cons_self hb.symm) (ih htail.symm ?_)
    intro c hc d hd
    exact hR c (List.mem_cons_of_mem a hc) d (List.mem_cons_of_mem b hd)

/-- Related rows are the two sides of **related pairs**. -/
theorem exists_pairs_of_forall₂ (h : List.Forall₂ R l l') :
    ∃ pairs : List {p : α × β // R p.1 p.2},
      l = pairs.map (fun p => p.1.1) ∧ l' = pairs.map (fun p => p.1.2) := by
  induction h with
  | nil => exact ⟨[], rfl, rfl⟩
  | cons hab _ ih =>
    obtain ⟨pairs, rfl, rfl⟩ := ih
    exact ⟨⟨(_, _), hab⟩ :: pairs, rfl, rfl⟩

/-- Rows **stay related** when they are sorted by keys that related rows share. -/
theorem forall₂_sortBy {order : α → List Cell} {order' : β → List Cell}
    (horder : ∀ a b, R a b → order' b = order a) (h : List.Forall₂ R l l') :
    List.Forall₂ R (sortBy order l) (sortBy order' l') := by
  obtain ⟨pairs, rfl, rfl⟩ := exists_pairs_of_forall₂ h
  -- both sides are sorted as the pairs are
  let key (p : {p : α × β // R p.1 p.2}) : List Cell := order p.1.1
  have hleft : sortBy order (pairs.map fun p => p.1.1)
      = (sortBy key pairs).map fun p => p.1.1 := by
    refine (List.map_mergeSort fun p _ q _ => ?_).symm
    rfl
  have hright : sortBy order' (pairs.map fun p => p.1.2)
      = (sortBy key pairs).map fun p => p.1.2 := by
    refine (List.map_mergeSort fun p _ q _ => ?_).symm
    rw [horder _ _ p.2, horder _ _ q.2]
  rw [hleft, hright, List.forall₂_map_left_iff, List.forall₂_map_right_iff, List.forall₂_same]
  exact fun p _ => p.2

end Related

/-! ## Sums -/

section Sums

variable {α : Type} {subjectKey : α → List Cell} {rows again rows' : List (LabelledSample × α)}

/-- The **values** that are summed under a key. -/
def keyValues (subjectKey : α → List Cell) (rows : List (LabelledSample × α)) (key : List Cell) :
    List (Option Reading) :=
  (rows.filter fun m => sumKey subjectKey m = key).map (·.1.sample.value)

/-- What becomes of a sum when rows are counted **once more**: it keeps its key and its time. Its
value is the sum of the values before, with those of the inserted rows among them. -/
structure Recounts (subjectKey : α → List Cell) (rows again : List (LabelledSample × α))
    (r r' : Rollup α) : Prop where
  key : r'.key subjectKey = r.key subjectKey
  ts : r'.ts = r.ts
  before : r.value = Reading.sum (keyValues subjectKey rows (r.key subjectKey))
  after : ∃ values, Inserted (keyValues subjectKey rows (r.key subjectKey))
    (keyValues subjectKey again (r.key subjectKey)) values ∧ r'.value = Reading.sum values

/-- A sum **stays the same** if no row that is counted once more holds a value. -/
theorem Recounts.value_eq {r r' : Rollup α} (h : Recounts subjectKey rows again r r')
    (silent : ∀ m ∈ again, sumKey subjectKey m = r.key subjectKey → m.1.sample.value = none) :
    r'.value = r.value := by
  obtain ⟨values, hinserted, hvalue⟩ := h.after
  have hnone : (keyValues subjectKey again (r.key subjectKey)).filterMap id = [] := by
    rw [List.filterMap_eq_nil_iff]
    intro v hv
    obtain ⟨m, hm, rfl⟩ := List.mem_map.1 hv
    obtain ⟨hm, hkey⟩ := List.mem_filter.1 hm
    exact silent m hm (of_decide_eq_true hkey)
  -- the values that are present are those before
  have hpresent := hinserted.filterMap id
  rw [hnone] at hpresent
  rw [hvalue, h.before, Reading.sum, Reading.sum, hpresent.eq_of_nil]

/-- The parts of a sum are made **of the rows of its key**. -/
theorem parts_of_mem_rollup {r : Rollup α} (hr : r ∈ rollup subjectKey rows) :
    r.ts = ((rows.filter fun m => sumKey subjectKey m = r.key subjectKey).filterMap
        (·.1.sample.ts)).max? ∧
      r.value = Reading.sum (keyValues subjectKey rows (r.key subjectKey)) := by
  have heq := eq_ofSamples_of_mem_rollup hr
  constructor
  · have hts := congrArg Rollup.ts heq
    rwa [Rollup.ofSamples, List.filterMap_map] at hts
  · have hvalue := congrArg Rollup.value heq
    rwa [Rollup.ofSamples, List.map_map] at hvalue

/-- Sums have the keys **of the rows**. -/
theorem mem_map_key_rollup {key : List Cell} :
    key ∈ (rollup subjectKey rows).map (Rollup.key subjectKey) ↔
      ∃ m ∈ rows, sumKey subjectKey m = key := by
  rw [map_key_rollup, ((sortBy_perm _ _).map _).mem_iff, List.mem_map]
  constructor
  · rintro ⟨g, hg, rfl⟩
    exact (mem_groupBy.1 hg).1
  · rintro ⟨m, hm, rfl⟩
    exact ⟨(sumKey subjectKey m, rows.filter fun n => sumKey subjectKey n = sumKey subjectKey m),
      mem_groupBy.2 ⟨⟨m, hm, rfl⟩, rfl⟩, rfl⟩

/-- Sums come in the **strict order of their keys**. -/
theorem pairwise_keyLt_rollup :
    ((rollup subjectKey rows).map (Rollup.key subjectKey)).Pairwise
      fun k l => keyLt k l = true := by
  rw [map_key_rollup, List.pairwise_map]
  exact sortBy_pairwise_keyLt (groupBy_keys_nodup _ rows)

/-- Copies of rows make **no further sum**, and each sum becomes one that counts them. -/
theorem forall₂_rollup (h : Inserted rows again rows') (known : ∀ m ∈ again, m ∈ rows) :
    List.Forall₂ (Recounts subjectKey rows again) (rollup subjectKey rows)
      (rollup subjectKey rows') := by
  -- copies may move the first row of a key, but sums stand in the strict order of the same keys
  have hkeys : (rollup subjectKey rows).map (Rollup.key subjectKey)
      = (rollup subjectKey rows').map (Rollup.key subjectKey) := by
    have hmem : ∀ key, key ∈ (rollup subjectKey rows).map (Rollup.key subjectKey) ↔
        key ∈ (rollup subjectKey rows').map (Rollup.key subjectKey) := by
      intro key
      simp only [mem_map_key_rollup, h.mem_iff known]
    exact @eq_of_pairwise_keyLt _ id _ _ pairwise_keyLt_rollup pairwise_keyLt_rollup hmem
  refine forall₂_of_map_eq hkeys fun r hr r' hr' hkey => ?_
  obtain ⟨hts, hvalue⟩ := parts_of_mem_rollup hr
  obtain ⟨hts', hvalue'⟩ := parts_of_mem_rollup hr'
  rw [← hkey] at hts' hvalue'
  refine ⟨hkey.symm, ?_, hvalue, _, (h.filter _).map _, hvalue'⟩
  rw [hts, hts']
  apply max?_eq_of_mem_iff
  intro n
  simp only [List.mem_filterMap, List.mem_filter, h.mem_iff known]

end Sums

end ClusterMetrics
