import ClusterMetrics.Store.Cell
import Mathlib.Data.List.Nodup

/-! # Sorted rows

Keys are compared by a total order, so rows of distinct keys are sorted strictly. Sorting is stable:
it commutes with every selection of rows.

* **`keyLt`**: the strict order of keys; `sortBy_pairwise_keyLt` sorts distinct keys by it, and
  `eq_of_pairwise_keyLt` finds one way of doing so.
* **`filter_append_filter_of_pairwise`**: sorted rows consist of an early and a late part.
* **`filter_sortBy`**: selecting from sorted rows is sorting the selected rows. -/

namespace ClusterMetrics

@[simp] theorem keyLe_refl (k : List Cell) : keyLe k k = true := by
  simpa using keyLe_total k k

/-- Keys that come no later than each other are **the same**. -/
theorem keyLe_antisymm {k l : List Cell} (h₁ : keyLe k l = true) (h₂ : keyLe l k = true) :
    k = l := by
  induction k generalizing l with
  | nil =>
    cases l with
    | nil => rfl
    | cons b bs => simp [keyLe] at h₂
  | cons a as ih =>
    cases l with
    | nil => simp [keyLe] at h₁
    | cons b bs =>
      -- the first cells decide, unless they are the same
      by_cases hab : a = b
      · subst hab
        simp only [keyLe, if_pos] at h₁ h₂
        rw [ih h₁ h₂]
      · have hba : ¬b = a := fun h => hab h.symm
        simp only [keyLe, hab, hba, if_false] at h₁ h₂
        exact absurd (Cell.le_antisymm h₁ h₂) hab

/-- Whether one key comes **strictly before** another. -/
def keyLt (k l : List Cell) : Bool := !keyLe l k

/-- Strictly before is no later and not the same. -/
theorem keyLt_iff {k l : List Cell} : keyLt k l = true ↔ keyLe k l = true ∧ k ≠ l := by
  rw [keyLt, Bool.not_eq_true', ← Bool.not_eq_true]
  constructor
  · intro h
    have htotal := keyLe_total k l
    refine ⟨by simpa [h] using htotal, ?_⟩
    rintro rfl
    exact h (keyLe_refl k)
  · rintro ⟨hle, hne⟩ hge
    exact hne (keyLe_antisymm hle hge)

variable {α : Type}

@[simp] theorem sortBy_nil (key : α → List Cell) : sortBy key [] = [] := List.mergeSort_nil

@[simp] theorem sortBy_singleton (key : α → List Cell) (a : α) : sortBy key [a] = [a] :=
  List.mergeSort_singleton a

/-- Rows that are in order **stay as they are**. -/
theorem sortBy_of_pairwise {key : α → List Cell} {rows : List α}
    (h : rows.Pairwise fun a b => keyLe (key a) (key b) = true) : sortBy key rows = rows :=
  List.mergeSort_of_pairwise h

/-- Images are sorted as **the rows they come from**. -/
theorem sortBy_map {β : Type} (key : β → List Cell) (f : α → β) (rows : List α) :
    sortBy key (rows.map f) = (sortBy (fun a => key (f a)) rows).map f := by
  symm
  apply List.map_mergeSort
  intro a _ b _
  rfl

/-- Rows of **distinct keys** are sorted strictly. -/
theorem sortBy_pairwise_keyLt {key : α → List Cell} {rows : List α}
    (distinct : (rows.map key).Nodup) :
    (sortBy key rows).Pairwise fun a b => keyLt (key a) (key b) = true := by
  have hnodup : ((sortBy key rows).map key).Nodup :=
    (((sortBy_perm key rows).map key).nodup_iff).2 distinct
  have hne : (sortBy key rows).Pairwise fun a b => key a ≠ key b := List.pairwise_map.1 hnodup
  exact ((sortBy_pairwise key rows).and hne).imp fun h => keyLt_iff.2 h

/-- Rows that are sorted strictly are sorted in **one way**. -/
theorem eq_of_pairwise_keyLt {key : α → List Cell} {rows rows' : List α}
    (h : rows.Pairwise fun a b => keyLt (key a) (key b) = true)
    (h' : rows'.Pairwise fun a b => keyLt (key a) (key b) = true)
    (hmem : ∀ a, a ∈ rows ↔ a ∈ rows') : rows = rows' := by
  have hirrefl : ∀ {a b : α}, keyLt (key a) (key b) = true → a ≠ b := by
    rintro a b hlt rfl
    exact (keyLt_iff.1 hlt).2 rfl
  refine List.Perm.eq_of_pairwise ?_ h h'
    ((List.perm_ext_iff_of_nodup (h.imp hirrefl) (h'.imp hirrefl)).2 hmem)
  intro a b _ _ hab hba
  exact absurd (keyLe_antisymm (keyLt_iff.1 hab).1 (keyLt_iff.1 hba).1) (keyLt_iff.1 hab).2

/-- Rows consist of those that satisfy a condition and those that do not, if the former **come
first**. -/
theorem filter_append_filter_of_pairwise {p : α → Bool} {rows : List α}
    (h : rows.Pairwise fun a b => p b = true → p a = true) :
    rows.filter p ++ rows.filter (fun a => !p a) = rows := by
  induction rows with
  | nil => rfl
  | cons a rows ih =>
    obtain ⟨hhead, htail⟩ := List.pairwise_cons.1 h
    cases hp : p a with
    | true =>
      rw [List.filter_cons_of_pos hp, List.filter_cons_of_neg (by simp [hp]), List.cons_append,
        ih htail]
    | false =>
      -- no later row satisfies the condition, as the first one does not
      have hnone : rows.filter p = [] := by
        rw [List.filter_eq_nil_iff]
        intro b hb hpb
        rw [hhead b hb hpb] at hp
        exact Bool.noConfusion hp
      rw [hnone] at ih
      rw [List.filter_cons_of_neg (by simp [hp]), List.filter_cons_of_pos (by simp [hp]), hnone,
        List.nil_append]
      exact congrArg (List.cons a) (ih htail)

/-- A list is cut in **one way** into a part that satisfies a predicate and a part that refutes
it. -/
theorem append_inj_of_predicate {q : α → Bool} {l₁ l₂ m₁ m₂ : List α} (h : l₁ ++ l₂ = m₁ ++ m₂)
    (hl₁ : ∀ a ∈ l₁, q a = true) (hl₂ : ∀ a ∈ l₂, q a = false)
    (hm₁ : ∀ a ∈ m₁, q a = true) (hm₂ : ∀ a ∈ m₂, q a = false) : l₁ = m₁ ∧ l₂ = m₂ := by
  have hfirst : ∀ {a b : List α}, (∀ x ∈ a, q x = true) → (∀ x ∈ b, q x = false) →
      (a ++ b).filter q = a := by
    intro a b ha hb
    rw [List.filter_append, List.filter_eq_self.2 ha, List.filter_eq_nil_iff.2, List.append_nil]
    intro x hx
    simp [hb x hx]
  have hl : l₁ = m₁ := by
    rw [← hfirst hl₁ hl₂, ← hfirst hm₁ hm₂, h]
  refine ⟨hl, ?_⟩
  rw [hl] at h
  exact List.append_cancel_left h

/-- Selecting from sorted rows is **sorting the selected rows**. -/
theorem filter_sortBy (key : α → List Cell) (p : α → Bool) (rows : List α) :
    (sortBy key rows).filter p = sortBy key (rows.filter p) := by
  let le (a b : α) : Bool := keyLe (key a) (key b)
  have htrans : ∀ a b c, le a b = true → le b c = true → le a c = true :=
    fun _ _ _ => keyLe_trans
  have htotal : ∀ a b, (le a b || le b a) = true := fun _ _ => keyLe_total _ _
  have hsorted : ∀ l : List α, (l.mergeSort le).Pairwise fun a b => le a b = true :=
    fun l => List.pairwise_mergeSort htrans htotal l
  change (rows.mergeSort le).filter p = (rows.filter p).mergeSort le
  induction rows with
  | nil => simp
  | cons a rows ih =>
    -- sorting puts the first row somewhere into the sorted others
    obtain ⟨l₁, l₂, hcons, htail, hbefore⟩ := List.mergeSort_cons htrans htotal a rows
    rw [htail] at ih
    cases hp : p a with
    | false => rw [hcons, List.filter_cons_of_neg (by simp [hp])]; simpa [hp] using ih
    | true =>
      rw [List.filter_cons_of_pos hp]
      obtain ⟨m₁, m₂, hcons', htail', hbefore'⟩ :=
        List.mergeSort_cons htrans htotal a (rows.filter p)
      -- both sides put `a` in front of the first row that does not come before it
      have hl₂ : ∀ b ∈ l₂, le a b = true := by
        have h := hsorted (a :: rows)
        rw [hcons] at h
        exact (List.pairwise_cons.1 (List.pairwise_append.1 h).2.1).1
      have hm₂ : ∀ b ∈ m₂, le a b = true := by
        have h := hsorted (a :: rows.filter p)
        rw [hcons'] at h
        exact (List.pairwise_cons.1 (List.pairwise_append.1 h).2.1).1
      have hsplit : l₁.filter p = m₁ ∧ l₂.filter p = m₂ := by
        apply append_inj_of_predicate (q := fun b => !le a b)
        · rw [← List.filter_append, ih, htail']
        · intro b hb
          exact hbefore b (List.mem_filter.1 hb).1
        · intro b hb
          simp [hl₂ b (List.mem_filter.1 hb).1]
        · exact hbefore'
        · intro b hb
          simp [hm₂ b hb]
      rw [hcons, hcons', List.filter_append, List.filter_cons_of_pos hp, hsplit.1, hsplit.2]

end ClusterMetrics
