import ClusterMetrics.Proofs.NewestSamples
import ClusterMetrics.Proofs.SeriesCells
import Mathlib.Data.List.Basic

/-! # Selecting before and after

A condition on samples that only depends on what a query groups by may be checked before the query,
on its samples, or after it, on its rows. Every stage of a query lets such a condition pass: finding
the newest samples, joining, sorting, summing and averaging.

* **`flatMap_filter`**: joins.
* **`latest_filter_of_series`**, **`snapshot_filter`**: newest samples.
* **`rollup_filter`**: sums. **`SeriesQuery.cells_filter`**: means. -/

namespace ClusterMetrics

/-! ## Joins -/

/-- Selected rows are joined to **selected pairs**. -/
theorem flatMap_filter {α β : Type} {p : α → Bool} {q : β → Bool} {g : α → List β} {rows : List α}
    (h : ∀ a ∈ rows, ∀ b ∈ g a, q b = p a) :
    (rows.filter p).flatMap g = (rows.flatMap g).filter q := by
  induction rows with
  | nil => rfl
  | cons a rows ih =>
    have hhead := h a List.mem_cons_self
    rw [List.flatMap_cons, List.filter_append,
      ← ih fun c hc => h c (List.mem_cons_of_mem a hc)]
    cases hp : p a with
    | true =>
      have hall : (g a).filter q = g a := List.filter_eq_self.2 fun b hb => (hhead b hb).trans hp
      rw [List.filter_cons_of_pos hp, List.flatMap_cons, hall]
    | false =>
      have hnone : (g a).filter q = [] :=
        List.filter_eq_nil_iff.2 fun b hb => by simp [hhead b hb, hp]
      rw [List.filter_cons_of_neg (by simp [hp]), hnone, List.nil_append]

/-- Rows that are replaced by one row or none are **selected**. -/
theorem flatMap_eq_map_filter {α β : Type} {g : α → List β} {p : α → Bool} {f : α → β}
    {rows : List α} (h : ∀ a ∈ rows, g a = if p a then [f a] else []) :
    rows.flatMap g = (rows.filter p).map f := by
  induction rows with
  | nil => rfl
  | cons a rows ih =>
    rw [List.flatMap_cons, h a List.mem_cons_self,
      ih fun b hb => h b (List.mem_cons_of_mem a hb)]
    cases hp : p a with
    | true => rw [List.filter_cons_of_pos hp]; rfl
    | false => rw [List.filter_cons_of_neg (by simp [hp])]; rfl

/-- Selected samples have **selected labels**. -/
theorem labelled_filter (store : Store) (p : Sample → Bool) (samples : List Sample) :
    store.labelled (samples.filter p) = (store.labelled samples).filter fun m => p m.sample := by
  refine flatMap_filter fun s _ m hm => ?_
  obtain ⟨n, -, hm⟩ := List.mem_flatMap.1 hm
  obtain ⟨l, -, rfl⟩ := List.mem_map.1 hm
  rfl

/-- Selected samples are joined to **selected entities**. -/
theorem join_filter (store : Store) (kind : EntityKind) (p : LabelledSample → Bool)
    (samples : List LabelledSample) :
    kind.join store (samples.filter p) = (kind.join store samples).filter fun r => p r.1 := by
  refine flatMap_filter fun m _ r hr => ?_
  obtain ⟨e, -, rfl⟩ := List.mem_map.1 hr
  rfl

/-- Selected samples are joined to **selected pods**. -/
theorem joinPods_filter (store : Store) (scope : Scope) (p : LabelledSample → Bool)
    (samples : List LabelledSample) :
    store.joinPods scope (samples.filter p)
      = (store.joinPods scope samples).filter fun r => p r.1 := by
  refine flatMap_filter fun m _ r hr => ?_
  obtain ⟨path, -, rfl⟩ := List.mem_map.1 hr
  rfl

/-- A sample is joined to an entity that **bears the identifier** it refers to. -/
theorem joins_of_mem_join {store : Store} {kind : EntityKind} {samples : List LabelledSample}
    {r : LabelledSample × Entity} (h : r ∈ kind.join store samples) :
    joins (kind.column r.1.sample) r.2.id = true := by
  obtain ⟨m, -, hr⟩ := List.mem_flatMap.1 h
  obtain ⟨e, he, rfl⟩ := List.mem_map.1 hr
  exact (List.mem_filter.1 he).2

/-! ## Newest samples -/

section Newest

variable {p : Sample → Bool}

/-- Among selected candidates the newest are **the selected newest**, if a series is selected as a
whole. -/
theorem isNewest_filter {candidates : List Sample} {m : Sample}
    (hseries : ∀ s ∈ candidates, ∀ key, s.seriesKey? = some key → m.seriesKey? = some key →
      p s = p m) :
    isNewest (candidates.filter p) m = (p m && isNewest candidates m) := by
  rw [isNewest, isNewest]
  cases hkey : m.seriesKey? with
  | none => simp
  | some key =>
    -- the candidates of a series are selected together or not at all
    have hselected : (candidates.filter p).filter (fun s => s.seriesKey? = some key)
        = if p m then candidates.filter fun s => s.seriesKey? = some key else [] := by
      cases hp : p m with
      | true =>
        rw [if_pos rfl, List.filter_filter]
        apply List.filter_congr
        intro s hmem
        by_cases hs : s.seriesKey? = some key
        · simp [hs, hseries s hmem key hs hkey, hp]
        · simp [hs]
      | false =>
        rw [if_neg Bool.false_ne_true, List.filter_filter, List.filter_eq_nil_iff]
        intro s hmem
        by_cases hs : s.seriesKey? = some key
        · simp [hseries s hmem key hs hkey, hp]
        · simp [hs]
    show joins m.ts (newestTime (candidates.filter p) key)
      = (p m && joins m.ts (newestTime candidates key))
    rw [newestTime, hselected]
    cases hp : p m with
    | true => rfl
    | false => simp [joins_comm m.ts]

variable {store : Store} {scope scope' : Scope} {filter filter' : MetricFilter}

/-- The newest samples under further conditions are **selected** from the newest samples, if no
series of the store is torn apart. -/
theorem latest_filter_of_series
    (hseries : ∀ s ∈ store.samples, ∀ t ∈ store.samples, ∀ key, s.seriesKey? = some key →
      t.seriesKey? = some key → p s = p t)
    (hadmits : ∀ s ∈ store.samples, (scope'.admits s && filter'.admits s)
      = (p s && (scope.admits s && filter.admits s))) (now : Int) :
    store.latest scope' filter' now = (store.latest scope filter now).filter p := by
  have hcandidates : store.candidates scope' filter' now
      = (store.candidates scope filter now).filter p := by
    rw [Store.candidates, Store.candidates, List.filter_filter]
    apply List.filter_congr
    intro s hs
    have h := hadmits s hs
    cases isFresh now s with
    | true => simpa using h
    | false => simp
  rw [Store.latest, Store.latest, hcandidates, List.filter_filter]
  exact List.filter_congr fun m hm => isNewest_filter fun s hs key =>
    hseries s (mem_candidates.1 hs).1 m hm key

variable {keeps : SeriesKey → Bool}
  (hkeeps : ∀ s key, s.seriesKey? = some key → p s = keeps key)
  (hadmits : ∀ s ∈ store.samples, (scope'.admits s && filter'.admits s)
    = (p s && (scope.admits s && filter.admits s)))
include hkeeps hadmits

/-- The newest samples under further conditions **on the series** are selected from the newest
samples. -/
theorem latest_filter (now : Int) :
    store.latest scope' filter' now = (store.latest scope filter now).filter p := by
  refine latest_filter_of_series (fun s _ t _ key hs ht => ?_) hadmits now
  rw [hkeeps s key hs, hkeeps t key ht]

/-- A snapshot under further conditions is **selected** from the snapshot. -/
theorem snapshot_filter (kind : EntityKind) (now : Int) :
    store.snapshot kind scope' filter' now
      = (store.snapshot kind scope filter now).filter fun r => p r.1.sample := by
  rw [Store.snapshot, Store.latestLabelled, latest_filter hkeeps hadmits, labelled_filter,
    join_filter, ← filter_sortBy]
  rfl

end Newest

/-! ## Sums -/

/-- The part of a sum's key that says **what is summed**. -/
def Rollup.key {α : Type} (subjectKey : α → List Cell) (r : Rollup α) : List Cell :=
  subjectKey r.subject ++ [.ofText r.metricName]

/-- A sum bears the key **of its group**. -/
theorem map_key_rollup {α : Type} (subjectKey : α → List Cell) (rows : List (LabelledSample × α)) :
    (rollup subjectKey rows).map (Rollup.key subjectKey)
      = (sortBy (·.1) (groupBy (fun r : LabelledSample × α =>
          subjectKey r.2 ++ [.ofText r.1.name.name]) rows)).map (·.1) := by
  refine map_filterMap_of_forall fun g hg => ?_
  obtain ⟨first, hfirst⟩ := Option.isSome_iff_exists.1
    (List.isSome_head?.2 (members_ne_nil_of_mem_groupBy (mem_sortBy.1 hg)))
  have hmem := List.mem_of_head? hfirst
  rw [(mem_groupBy.1 (mem_sortBy.1 hg)).2] at hmem
  rw [hfirst]
  exact congrArg some (of_decide_eq_true (List.mem_filter.1 hmem).2)

/-- **No key** has two sums. -/
theorem rollup_keys_nodup {α : Type} (subjectKey : α → List Cell)
    (rows : List (LabelledSample × α)) :
    ((rollup subjectKey rows).map (Rollup.key subjectKey)).Nodup := by
  rw [map_key_rollup]
  exact (((sortBy_perm _ _).map _).nodup_iff).2 (groupBy_keys_nodup _ rows)

/-- Rows that are selected by what they are summed by have **selected sums**. -/
theorem rollup_filter {α : Type} {subjectKey : α → List Cell} {q : LabelledSample × α → Bool}
    {p : List Cell → Bool} {rows : List (LabelledSample × α)}
    (h : ∀ r ∈ rows, q r = p (subjectKey r.2 ++ [.ofText r.1.name.name])) :
    rollup subjectKey (rows.filter q)
      = (rollup subjectKey rows).filter fun r => p (r.key subjectKey) := by
  rw [rollup, groupBy_filter h, ← filter_sortBy, rollup, List.filterMap_eq_flatMap_toList,
    List.filterMap_eq_flatMap_toList]
  refine flatMap_filter fun g hg r hr => ?_
  -- the first row of a group bears the key of the group
  obtain ⟨-, hmembers⟩ := mem_groupBy.1 (mem_sortBy.1 hg)
  rw [Option.mem_toList] at hr
  obtain ⟨first, hfirst, rfl⟩ := Option.map_eq_some_iff.1 hr
  have hmem := List.mem_of_head? hfirst
  rw [hmembers, List.mem_filter, decide_eq_true_eq] at hmem
  exact congrArg p hmem.2

/-! ## Means -/

/-- Samples that meet further conditions are **selected** from those of the range. -/
theorem inRange_eq_filter {store : Store} {p : Sample → Bool} {scope scope' : Scope}
    {filter filter' : MetricFilter} {rule rule' : BucketRule}
    (h : ∀ s ∈ store.samples,
      s.isInRange scope' filter' rule' = (p s && s.isInRange scope filter rule)) :
    store.inRange scope' filter' rule'
      = (store.inRange scope filter rule).filter fun m => p m.sample := by
  have hsamples : (store.samples.filter fun s => s.isInRange scope' filter' rule')
      = (store.samples.filter fun s => s.isInRange scope filter rule).filter p := by
    rw [List.filter_filter]
    exact List.filter_congr h
  exact (congrArg store.labelled hsamples).trans (labelled_filter store p _)

/-- The samples of a range under a narrower scope or filter are **selected** from those of the
range. -/
theorem inRange_filter {store : Store} {p : Sample → Bool} {scope scope' : Scope}
    {filter filter' : MetricFilter}
    (hadmits : ∀ s ∈ store.samples, (scope'.admits s && filter'.admits s)
      = (p s && (scope.admits s && filter.admits s))) (rule : BucketRule) :
    store.inRange scope' filter' rule
      = (store.inRange scope filter rule).filter fun m => p m.sample := by
  refine inRange_eq_filter fun s hs => ?_
  have h := hadmits s hs
  rw [Sample.isInRange, Sample.isInRange]
  cases rule.covers s with
  | true => simpa using h
  | false => simp

/-- Where the samples of a query are selected by what the answer is keyed by, so is
**its answer**. -/
theorem SeriesQuery.cells_filter {query : SeriesQuery} {store : Store} {scope scope' : Scope}
    {filter filter' : MetricFilter} {rule : BucketRule} {cells : List SeriesCell}
    {p : List Cell → Bool}
    (hsamples : query.samples store scope' filter' rule
      = (query.samples store scope filter rule).filter fun s => p (query.part s.key))
    (h : query.cells store scope filter rule = .ok cells) :
    query.cells store scope' filter' rule = .ok (cells.filter fun c => p c.key) := by
  rcases cells_eq_ok_iff.1 h with ⟨hnone, rfl⟩ | ⟨-, bucketing, means, hb, hm, rfl⟩
  · exact cells_eq_ok_iff.2 (.inl ⟨by rw [hsamples, hnone]; rfl, rfl⟩)
  · have hselected : cellMeans bucketing (query.samples store scope' filter' rule)
        = .ok (means.filter fun c => p (query.part c.key)) := by
      rw [hsamples]
      exact cellMeans_filter hm fun l => p (query.part l.1)
    rw [cells_of_cellMeans hb hselected]
    exact congrArg Except.ok (answer_filter query means fun l => p l.1)

end ClusterMetrics
