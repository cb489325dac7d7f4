import ClusterMetrics.Store.Cell
import Mathlib.Data.List.Basic

/-! # Groups

A key has one group. Selecting rows by their keys before they are grouped is selecting groups.

* **`groupBy_keys_nodup`**: no key has two groups.
* **`groupBy_filter`**: rows selected by their keys are grouped as before.
* **`flatMap_filter_perm`**: rows are those of each of their keys.
* **`groupBy_members_eq_iff`**: keys that tell the same rows apart make the same groups. -/

namespace ClusterMetrics

variable {α κ : Type} [DecidableEq κ]

/-- Erasing repetitions leaves **no repetition**. -/
theorem nodup_eraseDups (keys : List κ) : keys.eraseDups.Nodup := by
  cases keys with
  | nil => simp
  | cons k keys =>
    rw [List.eraseDups_cons, List.nodup_cons, List.mem_eraseDups]
    -- the tail has lost every copy of the head, so the recursion is on the length
    exact ⟨by simp, nodup_eraseDups (keys.filter fun l => !l == k)⟩
termination_by keys.length
decreasing_by exact Nat.lt_succ_of_le (List.length_filter_le _ _)

/-- Erasing repetitions **commutes** with selecting. -/
theorem eraseDups_filter (p : κ → Bool) (keys : List κ) :
    (keys.filter p).eraseDups = keys.eraseDups.filter p := by
  cases keys with
  | nil => simp
  | cons k keys =>
    have ih := eraseDups_filter p (keys.filter fun l => !l == k)
    rw [List.eraseDups_cons]
    cases hk : p k with
    | true =>
      rw [List.filter_cons_of_pos hk, List.filter_cons_of_pos hk, List.eraseDups_cons, ← ih,
        List.filter_filter, List.filter_filter]
      simp only [Bool.and_comm]
    | false =>
      -- the copies of the head go with the head, so nothing is left of them to erase
      rw [List.filter_cons_of_neg (by simp [hk]), List.filter_cons_of_neg (by simp [hk]), ← ih,
        List.filter_filter]
      congr 1
      apply List.filter_congr
      intro l _
      by_cases hl : l = k
      · subst hl; simp [hk]
      · simp [hl]
termination_by keys.length
decreasing_by exact Nat.lt_succ_of_le (List.length_filter_le _ _)

/-- **No key has two groups**. -/
theorem groupBy_keys_nodup (key : α → κ) (rows : List α) :
    ((groupBy key rows).map (·.1)).Nodup := by
  have hkeys : (groupBy key rows).map (·.1) = (rows.map key).eraseDups := by
    simp [groupBy, Function.comp_def]
  rw [hkeys]
  exact nodup_eraseDups _

/-- Rows that are selected **by their keys** are grouped as they were before. -/
theorem groupBy_filter {key : α → κ} {rows : List α} {q : α → Bool} {p : κ → Bool}
    (h : ∀ a ∈ rows, q a = p (key a)) :
    groupBy key (rows.filter q) = (groupBy key rows).filter fun g => p g.1 := by
  have hrows : rows.filter q = rows.filter fun a => p (key a) := List.filter_congr h
  have hkeys : ((rows.filter fun a => p (key a)).map key).eraseDups
      = (rows.map key).eraseDups.filter p := by
    rw [← eraseDups_filter, List.filter_map]
    rfl
  rw [hrows, groupBy, groupBy, hkeys, List.filter_map]
  apply List.map_congr_left
  intro k hk
  have hpk : p k = true := (List.mem_filter.1 hk).2
  have hmembers : ((rows.filter fun a => p (key a)).filter fun a => key a = k)
      = rows.filter fun a => key a = k := by
    rw [List.filter_filter]
    apply List.filter_congr
    intro a _
    by_cases ha : key a = k <;> simp [ha, hpk]
  rw [hmembers]

/-- The first row opens **the first group**. -/
theorem groupBy_cons (key : α → κ) (a : α) (rows : List α) :
    groupBy key (a :: rows) = (key a, a :: rows.filter fun b => key b = key a) ::
      groupBy key (rows.filter fun b => key b ≠ key a) := by
  have hkeys : (rows.map key).filter (fun k => !k == key a)
      = (rows.filter fun b => key b ≠ key a).map key := by
    rw [List.filter_map]
    congr 1
    apply List.filter_congr
    intro b _
    by_cases hb : key b = key a <;> simp [hb]
  rw [groupBy, List.map_cons, List.eraseDups_cons, hkeys, List.map_cons, groupBy,
    List.filter_cons_of_pos (by simp)]
  congr 1
  apply List.map_congr_left
  intro k hk
  obtain ⟨b, hb, rfl⟩ := List.mem_map.1 (List.mem_eraseDups.1 hk)
  have hne : key b ≠ key a := by simpa using (List.mem_filter.1 hb).2
  have hmembers : ((a :: rows).filter fun c => key c = key b)
      = (rows.filter fun c => key c ≠ key a).filter fun c => key c = key b := by
    rw [List.filter_cons_of_neg (by simpa using hne.symm), List.filter_filter]
    apply List.filter_congr
    intro c _
    by_cases hc : key c = key b
    · simp [hc, hne]
    · simp [hc]
  rw [hmembers]

/-- Rows of one key are **one group**. -/
theorem groupBy_of_forall_eq {key : α → κ} {k : κ} {rows : List α} (hne : rows ≠ [])
    (h : ∀ a ∈ rows, key a = k) : groupBy key rows = [(k, rows)] := by
  cases rows with
  | nil => exact absurd rfl hne
  | cons a rows =>
    have hhead : key a = k := h a List.mem_cons_self
    have htail : ∀ b ∈ rows, key b = k := fun b hb => h b (List.mem_cons_of_mem a hb)
    have hsame : (rows.filter fun b => key b = k) = rows :=
      List.filter_eq_self.2 fun b hb => by simp [htail b hb]
    have hother : (rows.filter fun b => key b ≠ k) = [] :=
      List.filter_eq_nil_iff.2 fun b hb => by simp [htail b hb]
    rw [groupBy_cons, hhead, hsame, hother, groupBy_nil]

/-- Rows of **different keys** are a group each. -/
theorem groupBy_of_nodup {key : α → κ} {rows : List α} (h : (rows.map key).Nodup) :
    groupBy key rows = rows.map fun a => (key a, [a]) := by
  induction rows with
  | nil => rfl
  | cons a rows ih =>
    obtain ⟨hfresh, hrows⟩ := List.nodup_cons.1 h
    have hne : ∀ b ∈ rows, key b ≠ key a := fun b hb heq =>
      hfresh (heq ▸ List.mem_map_of_mem hb)
    have hsame : (rows.filter fun b => key b = key a) = [] :=
      List.filter_eq_nil_iff.2 fun b hb => by simp [hne b hb]
    have hother : (rows.filter fun b => key b ≠ key a) = rows :=
      List.filter_eq_self.2 fun b hb => by simp [hne b hb]
    rw [groupBy_cons, hsame, hother, ih hrows, List.map_cons]

/-- Images are grouped as **the rows they come from**. -/
theorem groupBy_map {β : Type} (key : β → κ) (f : α → β) (rows : List α) :
    groupBy key (rows.map f) = (groupBy (key ∘ f) rows).map fun g => (g.1, g.2.map f) := by
  rw [groupBy, groupBy, List.map_map, List.map_map]
  apply List.map_congr_left
  intro k _
  rw [List.filter_map]
  rfl

/-- Rows of given keys are, put together, the rows **of each key**. -/
theorem flatMap_filter_perm {key : α → Option κ} {keys : List κ} {rows : List α}
    (hnodup : keys.Nodup) (hkeys : ∀ a ∈ rows, ∃ k ∈ keys, key a = some k) :
    (keys.flatMap fun k => rows.filter fun a => key a = some k).Perm rows := by
  induction keys generalizing rows with
  | nil =>
    have hnone : rows = [] := by
      rw [List.eq_nil_iff_forall_not_mem]
      intro a ha
      obtain ⟨k, hk, -⟩ := hkeys a ha
      cases hk
    rw [hnone]
    exact List.Perm.refl []
  | cons k keys ih =>
    obtain ⟨hfresh, hnodup⟩ := List.nodup_cons.1 hnodup
    -- the other keys share out the rows that the first key leaves
    have hrest : (keys.flatMap fun l => rows.filter fun a => key a = some l)
        = keys.flatMap fun l =>
            (rows.filter fun a => !decide (key a = some k)).filter fun a => key a = some l := by
      refine List.flatMap_congr fun l hl => ?_
      have hne : l ≠ k := fun h => hfresh (h ▸ hl)
      rw [List.filter_filter]
      apply List.filter_congr
      intro a _
      by_cases ha : key a = some l <;> simp [ha, hne]
    have hothers : ∀ a ∈ rows.filter fun a => !decide (key a = some k),
        ∃ l ∈ keys, key a = some l := by
      intro a ha
      obtain ⟨ha, hak⟩ := List.mem_filter.1 ha
      obtain ⟨l, hl, hal⟩ := hkeys a ha
      rcases List.mem_cons.1 hl with rfl | hl
      · simp [hal] at hak
      · exact ⟨l, hl, hal⟩
    rw [List.flatMap_cons, hrest]
    exact ((ih hnodup hothers).append_left _).trans
      (List.filter_append_perm (fun a => decide (key a = some k)) rows)

variable {κ' : Type} [DecidableEq κ'] {key : α → κ} {key' : α → κ'}

/-- Where each element yields a value, the values are those **of the elements**. -/
theorem map_filterMap_of_forall {α β γ : Type} {f : α → Option β} {g : β → γ} {h : α → γ}
    {l : List α} (hf : ∀ a ∈ l, (f a).map g = some (h a)) : (l.filterMap f).map g = l.map h := by
  rw [List.map_filterMap, List.filterMap_congr hf, List.filterMap_eq_map']

/-- The groups hold, put together, **the rows**. -/
theorem groupBy_perm (key : α → κ) (rows : List α) :
    ((groupBy key rows).flatMap (·.2)).Perm rows := by
  have hperm : ((rows.map key).eraseDups.flatMap fun k =>
      rows.filter fun a => some (key a) = some k).Perm rows :=
    flatMap_filter_perm (nodup_eraseDups _) fun a ha =>
      ⟨key a, List.mem_eraseDups.2 (List.mem_map_of_mem ha), rfl⟩
  simpa [groupBy, List.flatMap_map] using hperm

/-- Keys that tell the same rows apart make **the same groups**. -/
theorem groupBy_members_eq (rows : List α)
    (h : ∀ a ∈ rows, ∀ b ∈ rows, key a = key b ↔ key' a = key' b) :
    (groupBy key rows).map (·.2) = (groupBy key' rows).map (·.2) := by
  match rows with
  | [] => rfl
  | a :: rows =>
    -- the first groups agree, and the others are the groups of what the first ones leave
    have htail : ∀ b ∈ rows, key b = key a ↔ key' b = key' a := fun b hb =>
      h b (List.mem_cons_of_mem a hb) a List.mem_cons_self
    have hfirst : (rows.filter fun b => key b = key a) = rows.filter fun b => key' b = key' a :=
      List.filter_congr fun b hb => by simp [htail b hb]
    have hrest : (rows.filter fun b => key b ≠ key a) = rows.filter fun b => key' b ≠ key' a :=
      List.filter_congr fun b hb => by simp [htail b hb]
    have ih := groupBy_members_eq (rows.filter fun b => key' b ≠ key' a) fun b hb c hc =>
      h b (List.mem_cons_of_mem a (List.mem_filter.1 hb).1) c
        (List.mem_cons_of_mem a (List.mem_filter.1 hc).1)
    rw [groupBy_cons, groupBy_cons, List.map_cons, List.map_cons, hfirst, hrest, ih]
termination_by rows.length
decreasing_by exact Nat.lt_succ_of_le (List.length_filter_le _ _)

/-- Two keys make the same groups **exactly if** they tell the same rows apart. -/
theorem groupBy_members_eq_iff {rows : List α} :
    (groupBy key rows).map (·.2) = (groupBy key' rows).map (·.2) ↔
      ∀ a ∈ rows, ∀ b ∈ rows, key a = key b ↔ key' a = key' b := by
  refine ⟨fun h a ha b hb => ?_, groupBy_members_eq rows⟩
  -- two rows bear one key exactly if some group has both
  have hsplit : ∀ {ι : Type} [DecidableEq ι] (k : α → ι),
      k a = k b ↔ ∃ members ∈ (groupBy k rows).map (·.2), a ∈ members ∧ b ∈ members := by
    intro ι _ k
    constructor
    · intro hk
      refine ⟨rows.filter fun c => k c = k a, List.mem_map.2
        ⟨(k a, rows.filter fun c => k c = k a), mem_groupBy.2 ⟨⟨a, ha, rfl⟩, rfl⟩, rfl⟩, ?_, ?_⟩
      · exact List.mem_filter.2 ⟨ha, by simp⟩
      · exact List.mem_filter.2 ⟨hb, by simp [hk]⟩
    · rintro ⟨members, hmembers, hma, hmb⟩
      obtain ⟨g, hg, rfl⟩ := List.mem_map.1 hmembers
      rw [(mem_groupBy.1 hg).2, List.mem_filter, decide_eq_true_eq] at hma hmb
      exact hma.2.trans hmb.2.symm
  rw [hsplit key, hsplit key', h]

end ClusterMetrics
