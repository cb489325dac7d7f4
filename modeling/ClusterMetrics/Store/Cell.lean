/-! # Sort keys and groups

Rows are sorted by lists of cells. Absence comes first, then numbers, then text in the order of code
points; lists compare by their first difference.

* **`sortBy`**: rows in the order of their keys; rows of equal keys keep their order.
* **`groupBy`**: rows split by a key, one group for each key that occurs, in the order of first
  occurrence, holding the rows of that key in order. -/

namespace ClusterMetrics

/-! ## Sort keys -/

/-- A **cell** of a sort key. -/
inductive Cell
  | null
  | int (n : Int)
  | text (s : String)
  deriving DecidableEq, Repr

namespace Cell

/-- Whether one cell comes no later than another. -/
def le : Cell → Cell → Bool
  | null, _ => true
  | int _, null => false
  | int m, int n => m ≤ n
  | int _, text _ => true
  | text _, null => false
  | text _, int _ => false
  | text s, text t => s ≤ t

/-- The cell of a number that may be absent. -/
def ofInt : Option Int → Cell
  | none => null
  | some n => int n

/-- The cell of a text that may be absent. -/
def ofText : Option String → Cell
  | none => null
  | some s => text s

@[simp] theorem le_refl : ∀ a : Cell, a.le a = true
  | null => rfl
  | int _ => by simp [le]
  | text _ => by simp [le]

theorem le_total : ∀ a b : Cell, (a.le b || b.le a) = true
  | null, _ => by simp [le]
  | int _, null => rfl
  | int m, int n => by simpa [le] using Int.le_total m n
  | int _, text _ => rfl
  | text _, null => rfl
  | text _, int _ => rfl
  | text s, text t => by simpa [le] using String.le_total s t

theorem le_trans : ∀ {a b c : Cell}, a.le b = true → b.le c = true → a.le c = true
  | null, _, _, _, _ => rfl
  | int m, int n, int k, h₁, h₂ => by
    simp only [le, decide_eq_true_eq] at h₁ h₂ ⊢
    exact Int.le_trans h₁ h₂
  | int _, _, text _, _, _ => rfl
  | text s, text t, text u, h₁, h₂ => by
    simp only [le, decide_eq_true_eq] at h₁ h₂ ⊢
    exact String.le_trans h₁ h₂
  | int _, null, _, h₁, _ => by simp [le] at h₁
  | int _, int _, null, _, h₂ => by simp [le] at h₂
  | int _, text _, null, _, h₂ => by simp [le] at h₂
  | int _, text _, int _, _, h₂ => by simp [le] at h₂
  | text _, null, _, h₁, _ => by simp [le] at h₁
  | text _, int _, _, h₁, _ => by simp [le] at h₁
  | text _, text _, null, _, h₂ => by simp [le] at h₂
  | text _, text _, int _, _, h₂ => by simp [le] at h₂

theorem le_antisymm : ∀ {a b : Cell}, a.le b = true → b.le a = true → a = b
  | null, null, _, _ => rfl
  | int m, int n, h₁, h₂ => by
    simp only [le, decide_eq_true_eq] at h₁ h₂
    exact congrArg int (Int.le_antisymm h₁ h₂)
  | text s, text t, h₁, h₂ => by
    simp only [le, decide_eq_true_eq] at h₁ h₂
    exact congrArg text (String.le_antisymm h₁ h₂)
  | null, int _, _, h₂ => by simp [le] at h₂
  | null, text _, _, h₂ => by simp [le] at h₂
  | int _, null, h₁, _ => by simp [le] at h₁
  | int _, text _, _, h₂ => by simp [le] at h₂
  | text _, null, h₁, _ => by simp [le] at h₁
  | text _, int _, h₁, _ => by simp [le] at h₁

end Cell

/-- Whether one key comes **no later** than another: their first different cells decide. -/
def keyLe : List Cell → List Cell → Bool
  | [], _ => true
  | _ :: _, [] => false
  | a :: as, b :: bs => if a = b then keyLe as bs else a.le b

@[simp] theorem keyLe_nil (k : List Cell) : keyLe [] k = true := rfl

theorem keyLe_total (k l : List Cell) : (keyLe k l || keyLe l k) = true := by
  induction k generalizing l with
  | nil => simp
  | cons a as ih =>
    cases l with
    | nil => simp
    | cons b bs =>
      by_cases h : a = b
      · subst h; simpa [keyLe] using ih bs
      · have h' : ¬b = a := fun e => h e.symm
        simpa [keyLe, h, h'] using Cell.le_total a b

theorem keyLe_trans {k l m : List Cell} (h₁ : keyLe k l = true) (h₂ : keyLe l m = true) :
    keyLe k m = true := by
  induction k generalizing l m with
  | nil => rfl
  | cons a as ih =>
    cases l with
    | nil => simp [keyLe] at h₁
    | cons b bs =>
      cases m with
      | nil => simp [keyLe] at h₂
      | cons c cs =>
        by_cases hab : a = b
        · subst hab
          by_cases hac : a = c
          · subst hac
            simp only [keyLe, if_pos] at h₁ h₂ ⊢
            exact ih h₁ h₂
          · simp only [keyLe, hac, if_false] at h₂ ⊢
            exact h₂
        · simp only [keyLe, hab, if_false] at h₁
          by_cases hbc : b = c
          · subst hbc
            simp only [keyLe, hab, if_false]
            exact h₁
          · simp only [keyLe, hbc, if_false] at h₂
            by_cases hac : a = c
            · subst hac
              exact absurd (Cell.le_antisymm h₁ h₂) hab
            · simp only [keyLe, hac, if_false]
              exact Cell.le_trans h₁ h₂

/-- Rows **sorted by a key**; rows of equal keys keep their order. -/
def sortBy {α : Type} (key : α → List Cell) (rows : List α) : List α :=
  rows.mergeSort fun a b => keyLe (key a) (key b)

/-- Sorting keeps every row as often as it was there. -/
theorem sortBy_perm {α : Type} (key : α → List Cell) (rows : List α) :
    (sortBy key rows).Perm rows := List.mergeSort_perm _ _

@[simp] theorem mem_sortBy {α : Type} {key : α → List Cell} {rows : List α} {a : α} :
    a ∈ sortBy key rows ↔ a ∈ rows := (sortBy_perm key rows).mem_iff

/-- Sorted rows are in the order of their keys. -/
theorem sortBy_pairwise {α : Type} (key : α → List Cell) (rows : List α) :
    (sortBy key rows).Pairwise fun a b => keyLe (key a) (key b) = true := by
  apply List.pairwise_mergeSort
  · intro a b c
    exact keyLe_trans
  · intro a b
    exact keyLe_total _ _

/-! ## Groups -/

section Groups

variable {α κ : Type} [DecidableEq κ]

/-- The rows **split by a key**. -/
def groupBy (key : α → κ) (rows : List α) : List (κ × List α) :=
  (rows.map key).eraseDups.map fun k => (k, rows.filter fun a => key a = k)

@[simp] theorem groupBy_nil (key : α → κ) : groupBy key [] = [] := rfl

/-- A group is a key that occurs together with all rows of that key. -/
theorem mem_groupBy {key : α → κ} {rows : List α} {g : κ × List α} :
    g ∈ groupBy key rows ↔ (∃ a ∈ rows, key a = g.1) ∧ g.2 = rows.filter fun a => key a = g.1 := by
  obtain ⟨k, members⟩ := g
  simp only [groupBy, List.mem_map, List.mem_eraseDups, Prod.mk.injEq]
  constructor
  · rintro ⟨_, ⟨a, ha, rfl⟩, rfl, rfl⟩
    exact ⟨⟨a, ha, rfl⟩, rfl⟩
  · rintro ⟨⟨a, ha, rfl⟩, h⟩
    exact ⟨key a, ⟨a, ha, rfl⟩, rfl, h.symm⟩

/-- No group is empty. -/
theorem members_ne_nil_of_mem_groupBy {key : α → κ} {rows : List α} {g : κ × List α}
    (h : g ∈ groupBy key rows) : g.2 ≠ [] := by
  obtain ⟨⟨a, ha, hk⟩, hg⟩ := mem_groupBy.1 h
  rw [hg]
  exact List.ne_nil_of_mem (List.mem_filter.2 ⟨ha, by simpa using hk⟩)

end Groups

end ClusterMetrics
