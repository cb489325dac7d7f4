import ClusterMetrics.Proofs.Groups
import ClusterMetrics.Proofs.NewestSamples
import ClusterMetrics.Proofs.RowFields
import ClusterMetrics.Proofs.Selections

/-! # Sums of newest samples

A rollup sums the newest samples by a subject and a metric. Where a sample leads to a subject at
most once, a subject and a metric have one sum, of each of their samples once, and none without
samples.

* **`Store.IsNewestOf`**, **`Store.newestOf`**: the newest samples of a metric.
* **`Rollup.ofSamples`**: the sum of samples. **`SumsUp`**: sums that there is one of for each
  subject and metric that has samples.
* **`rollup_sumsUp`**: a rollup sums up the samples that lead to its subjects. -/

namespace ClusterMetrics

/-! ## Newest samples of a metric -/

/-- Whether a sample is **one of the newest of a metric**: it meets the conditions of a snapshot, no
sample of its series that meets them is newer, and the catalog knows its label, and its name as that
of the metric. -/
structure Store.IsNewestOf (store : Store) (scope : Scope) (filter : MetricFilter) (now : Int)
    (metric : Option String) (s : Sample) : Prop where
  hasKey : s.seriesKey?.isSome = true
  candidate : s.isCandidate scope filter now = true
  greatest : ∀ t ∈ store.samples, t.seriesKey? = s.seriesKey? →
    t.isCandidate scope filter now = true → ∀ u ∈ t.ts, ∀ v ∈ s.ts, u ≤ v
  named : ∃ n ∈ store.metricNames, joins s.name n.id = true ∧ n.name = metric
  labelled : ∃ l ∈ store.metricLabels, joins s.label l.id = true

/-- A sample is newest of a metric if it is newest **and the catalog knows it**. -/
theorem isNewestOf_iff_and {store : Store} {scope : Scope} {filter : MetricFilter} {now : Int}
    {metric : Option String} {s : Sample} :
    store.IsNewestOf scope filter now metric s ↔
      (s.seriesKey?.isSome = true ∧ s.isCandidate scope filter now = true ∧
        ∀ t ∈ store.samples, t.seriesKey? = s.seriesKey? → t.isCandidate scope filter now = true →
          ∀ u ∈ t.ts, ∀ v ∈ s.ts, u ≤ v) ∧
        (∃ n ∈ store.metricNames, joins s.name n.id = true ∧ n.name = metric) ∧
          ∃ l ∈ store.metricLabels, joins s.label l.id = true := by
  constructor
  · intro h
    exact ⟨⟨h.hasKey, h.candidate, h.greatest⟩, h.named, h.labelled⟩
  · rintro ⟨⟨hkey, hcandidate, hgreatest⟩, hname, hlabel⟩
    exact ⟨hkey, hcandidate, hgreatest, hname, hlabel⟩

instance (store : Store) (scope : Scope) (filter : MetricFilter) (now : Int)
    (metric : Option String) (s : Sample) :
    Decidable (store.IsNewestOf scope filter now metric s) :=
  decidable_of_iff _ isNewestOf_iff_and.symm

/-- The **newest samples of a metric**. -/
def Store.newestOf (store : Store) (scope : Scope) (filter : MetricFilter) (now : Int)
    (metric : Option String) : List Sample :=
  store.samples.filter fun s => store.IsNewestOf scope filter now metric s

section Newest

variable {store : Store} {scope : Scope} {filter : MetricFilter} {now : Int}

/-- A newest sample of a metric is **in the scope**. -/
theorem admits_of_mem_newestOf {metric : Option String} {s : Sample}
    (h : s ∈ store.newestOf scope filter now metric) : scope.admits s = true := by
  have hcandidate := (of_decide_eq_true (List.mem_filter.1 h).2 :
    store.IsNewestOf scope filter now metric s).candidate
  rw [Sample.isCandidate, Bool.and_eq_true, Bool.and_eq_true] at hcandidate
  exact hcandidate.1.1

/-- Where samples differ, a newest sample is **listed once**. -/
theorem newestOf_nodup (differ : store.SamplesDiffer) (metric : Option String) :
    (store.newestOf scope filter now metric).Nodup := by
  refine (List.Pairwise.filter _ differ).imp_of_mem ?_
  rintro s t hs - hagrees rfl
  -- a newest sample has a series and a time, so it agrees with itself
  have hnewest : store.IsNewestOf scope filter now metric s :=
    of_decide_eq_true (List.mem_filter.1 hs).2
  obtain ⟨key, hkey⟩ := Option.isSome_iff_exists.1 hnewest.hasKey
  obtain ⟨u, hts⟩ := exists_ts_of_isCandidate hnewest.candidate
  have hself : s.agrees s = true := by simp [Sample.agrees, joins_iff, hkey, hts]
  rw [hself] at hagrees
  exact Bool.noConfusion hagrees

variable (unique : store.HasUniqueIds)
include unique

/-- A sample has a label of a metric if the catalog knows **its label, and the metric by its
name**. -/
theorem any_label?_iff {metric : Option String} {s : Sample} :
    ((store.label? s).any fun m => m.name.name = metric) = true ↔
      (∃ n ∈ store.metricNames, joins s.name n.id = true ∧ n.name = metric) ∧
        ∃ l ∈ store.metricLabels, joins s.label l.id = true := by
  rw [Option.any_eq_true]
  constructor
  · rintro ⟨m, hm, hmetric⟩
    obtain ⟨-, hn, hl⟩ := label?_eq_some_iff.1 hm
    rw [findById_eq_some_iff unique.metricNames] at hn
    rw [findById_eq_some_iff unique.metricLabels] at hl
    exact ⟨⟨m.name, hn.1, hn.2, of_decide_eq_true hmetric⟩, m.label, hl⟩
  · rintro ⟨⟨n, hn, hname, hmetric⟩, l, hl⟩
    refine ⟨⟨s, n, l⟩, label?_eq_some_iff.2 ⟨rfl, ?_, ?_⟩, decide_eq_true hmetric⟩
    · exact (findById_eq_some_iff unique.metricNames).2 ⟨hn, hname⟩
    · exact (findById_eq_some_iff unique.metricLabels).2 hl

/-- The labelled newest samples of a metric are **its newest samples**. -/
theorem latestLabelled_eq_newestOf (differ : store.SamplesDiffer) (metric : Option String) :
    ((store.latestLabelled scope filter now).filter fun m => m.name.name = metric).map (·.sample)
      = store.newestOf scope filter now metric := by
  rw [Store.latestLabelled, labelled_eq_filterMap unique,
    map_filter_filterMap (f := store.label?) (g := LabelledSample.sample) (h := id)
      (fun _ _ h => (label?_eq_some_iff.1 h).1), List.map_id,
    Store.latest, List.filter_filter, Store.newestOf]
  apply List.filter_congr
  intro s hs
  rw [Bool.eq_iff_iff, Bool.and_eq_true, decide_eq_true_eq, isNewestOf_iff_and,
    isNewest_candidates_iff differ hs, any_label?_iff unique, and_comm]

end Newest

/-! ## Sums -/

section Sums

variable {α : Type}

/-- The **sum of samples** for a subject and a metric. -/
def Rollup.ofSamples (subject : α) (metric : Option String) (samples : List Sample) : Rollup α :=
  ⟨subject, metric, (samples.filterMap (·.ts)).max?, Reading.sum (samples.map (·.value))⟩

/-- Whether a sum is **for** a metric and the subject of an identifier. -/
def Rollup.isFor (ident : α → Option Int) (n : Int) (metric : Option String) (r : Rollup α) :
    Bool :=
  holds (ident r.subject) n && r.metricName = metric

/-- Whether sums **sum up** the samples of subjects and metrics: a subject and a metric have one sum
if they have samples, that of all these samples, and they have none otherwise. -/
structure SumsUp (sums : List (Rollup α)) (ident : α → Option Int) (subject? : Int → Option α)
    (samples : Int → Option String → List Sample) : Prop where
  subject : ∀ r ∈ sums, ∃ n, ident r.subject = some n ∧ subject? n = some r.subject
  present : ∀ n metric, samples n metric ≠ [] → ∃ a, subject? n = some a ∧
    sums.filter (Rollup.isFor ident n metric) = [Rollup.ofSamples a metric (samples n metric)]
  absent : ∀ n metric, samples n metric = [] → sums.filter (Rollup.isFor ident n metric) = []

/-- The order of the sums **does not matter**. -/
theorem SumsUp.sortBy {sums : List (Rollup α)} {ident : α → Option Int} {subject? : Int → Option α}
    {samples : Int → Option String → List Sample} (h : SumsUp sums ident subject? samples)
    (order : Rollup α → List Cell) : SumsUp (sortBy order sums) ident subject? samples := by
  constructor
  · intro r hr
    exact h.subject r (mem_sortBy.1 hr)
  · intro n metric hne
    obtain ⟨a, ha, hsum⟩ := h.present n metric hne
    refine ⟨a, ha, ?_⟩
    rw [filter_sortBy, hsum, sortBy_singleton]
  · intro n metric hnone
    rw [filter_sortBy, h.absent n metric hnone, sortBy_nil]

section Rows

@[simp] theorem rollup_nil (subjectKey : α → List Cell) : rollup subjectKey [] = [] := by
  rw [rollup, groupBy_nil, sortBy_nil, List.filterMap_nil]

variable {subjectKey : α → List Cell} {rows : List (LabelledSample × α)}

/-- The key that a joined sample **is summed under**: that of its subject, and its metric. -/
def sumKey (subjectKey : α → List Cell) (m : LabelledSample × α) : List Cell :=
  subjectKey m.2 ++ [.ofText m.1.name.name]

/-- A sum has its subject and its metric **from a row** of its key. -/
theorem exists_row_of_mem_rollup {r : Rollup α} (hr : r ∈ rollup subjectKey rows) :
    ∃ m ∈ rows, m.2 = r.subject ∧ m.1.name.name = r.metricName := by
  obtain ⟨g, hg, hr⟩ := List.mem_filterMap.1 hr
  obtain ⟨first, hfirst, rfl⟩ := Option.map_eq_some_iff.1 hr
  have hmem := List.mem_of_head? hfirst
  rw [(mem_groupBy.1 (mem_sortBy.1 hg)).2] at hmem
  exact ⟨first, (List.mem_filter.1 hmem).1, rfl, rfl⟩

/-- A sum is made **of the rows of its key**. -/
theorem eq_ofSamples_of_mem_rollup {r : Rollup α} (hr : r ∈ rollup subjectKey rows) :
    r = Rollup.ofSamples r.subject r.metricName
      ((rows.filter fun m => sumKey subjectKey m = r.key subjectKey).map (·.1.sample)) := by
  obtain ⟨g, hg, hr⟩ := List.mem_filterMap.1 hr
  obtain ⟨first, hfirst, rfl⟩ := Option.map_eq_some_iff.1 hr
  obtain ⟨-, hmembers⟩ := mem_groupBy.1 (mem_sortBy.1 hg)
  -- the first row of the group bears the key of the group
  have hkey : sumKey subjectKey first = g.1 := by
    have hmem := List.mem_of_head? hfirst
    rw [hmembers] at hmem
    exact of_decide_eq_true (List.mem_filter.1 hmem).2
  have hrows : rows.filter (fun m => sumKey subjectKey m = sumKey subjectKey first) = g.2 := by
    rw [hmembers, hkey]
    rfl
  change _ = Rollup.ofSamples first.2 first.1.name.name
    ((rows.filter fun m => sumKey subjectKey m = sumKey subjectKey first).map (·.1.sample))
  rw [hrows, Rollup.ofSamples, List.filterMap_map, List.map_map]
  rfl

/-- Rows of one subject and one metric have **one sum**. -/
theorem rollup_eq_singleton {a : α} {metric : Option String} (hne : rows ≠ [])
    (h : ∀ r ∈ rows, r.2 = a ∧ r.1.name.name = metric) :
    rollup subjectKey rows = [Rollup.ofSamples a metric (rows.map (·.1.sample))] := by
  have hgroup : groupBy (fun r : LabelledSample × α => subjectKey r.2 ++ [.ofText r.1.name.name])
      rows = [(subjectKey a ++ [.ofText metric], rows)] := by
    refine groupBy_of_forall_eq hne fun r hr => ?_
    rw [(h r hr).1, (h r hr).2]
  cases rows with
  | nil => exact absurd rfl hne
  | cons r rows =>
    obtain ⟨hsubject, hmetric⟩ := h r List.mem_cons_self
    rw [rollup, hgroup, sortBy_singleton, Rollup.ofSamples, List.filterMap_map, List.map_map,
      ← hsubject, ← hmetric]
    rfl

variable {ident : α → Option Int} (hkey : ∀ a, (subjectKey a).head? = some (.ofInt (ident a)))
include hkey

/-- The sums for a subject and a metric are the sums **of their rows**. -/
theorem filter_isFor_rollup (n : Int) (metric : Option String) :
    (rollup subjectKey rows).filter (Rollup.isFor ident n metric)
      = rollup subjectKey
          (rows.filter fun r => holds (ident r.2) n && r.1.name.name = metric) := by
  -- the key starts with the identifier and ends in the metric
  let p (key : List Cell) : Bool :=
    key.head? = some (.ofInt (some n)) && key.getLast? = some (.ofText metric)
  have hp : ∀ a name,
      p (subjectKey a ++ [.ofText name]) = (holds (ident a) n && name = metric) := by
    intro a name
    simp [p, List.head?_append, hkey, holds, ofInt_inj, ofText_inj, Bool.beq_eq_decide_eq]
  rw [rollup_filter (p := p) fun r _ => (hp r.2 r.1.name.name).symm]
  apply List.filter_congr
  intro r _
  exact (hp r.subject r.metricName).symm

/-- A rollup **sums up** its rows, if identifiers determine their subjects. -/
theorem rollup_sumsUp {subject? : Int → Option α}
    (hrows : ∀ r ∈ rows, ∃ n, ident r.2 = some n ∧ subject? n = some r.2) :
    SumsUp (rollup subjectKey rows) ident subject? fun n metric =>
      (rows.filter fun r => holds (ident r.2) n && r.1.name.name = metric).map (·.1.sample) := by
  constructor
  · intro r hr
    obtain ⟨g, hg, hr⟩ := List.mem_filterMap.1 hr
    obtain ⟨first, hfirst, rfl⟩ := Option.map_eq_some_iff.1 hr
    obtain ⟨-, hmembers⟩ := mem_groupBy.1 (mem_sortBy.1 hg)
    have hmem := List.mem_of_head? hfirst
    rw [hmembers] at hmem
    exact hrows first (List.mem_filter.1 hmem).1
  · intro n metric hne
    rw [ne_eq, List.map_eq_nil_iff] at hne
    obtain ⟨r, hr⟩ := List.exists_mem_of_ne_nil _ hne
    -- the identifier determines the subject, so all of its rows have that of `r`
    have hmem : ∀ r ∈ rows.filter fun r => holds (ident r.2) n && r.1.name.name = metric,
        subject? n = some r.2 ∧ r.1.name.name = metric := by
      intro r hr
      obtain ⟨hr, hcond⟩ := List.mem_filter.1 hr
      rw [Bool.and_eq_true, holds_iff, decide_eq_true_eq] at hcond
      obtain ⟨k, hk, hsubject⟩ := hrows r hr
      obtain rfl := Option.some.inj (hk.symm.trans hcond.1)
      exact ⟨hsubject, hcond.2⟩
    refine ⟨r.2, (hmem r hr).1, ?_⟩
    rw [filter_isFor_rollup hkey]
    refine rollup_eq_singleton hne fun q hq => ⟨?_, (hmem q hq).2⟩
    exact Option.some.inj ((hmem q hq).1.symm.trans (hmem r hr).1)
  · intro n metric hnone
    rw [List.map_eq_nil_iff] at hnone
    rw [filter_isFor_rollup hkey, hnone, rollup_nil]

end Rows

end Sums

/-! ## Subjects of samples -/

section Subjects

variable {α : Type} {store : Store} {scope : Scope} {filter : MetricFilter} {now : Int}
  (unique : store.HasUniqueIds) (differ : store.SamplesDiffer)
include unique differ

variable (scope filter now) in
/-- Where a sample leads to one admitted subject at most, the rows of the newest samples of a metric
and of admitted subjects have **each sample that leads to one**, once. -/
theorem samples_joined {subjects : Sample → List α} {admits : α → Bool} {leads : Sample → Bool}
    (hone : ∀ s, ((subjects s).filter admits).length = if leads s then 1 else 0)
    (metric : Option String) :
    ((((store.latestLabelled scope filter now).flatMap fun m =>
        (subjects m.sample).map (m, ·)).filter fun r =>
          admits r.2 && r.1.name.name = metric).map (·.1.sample))
      = (store.newestOf scope filter now metric).filter leads := by
  rw [List.filter_flatMap, List.map_flatMap, flatMap_eq_map_filter
    (p := fun m => leads m.sample && m.name.name = metric) (f := fun m => m.sample),
    ← latestLabelled_eq_newestOf unique differ, List.filter_map, List.filter_filter]
  · rfl
  · intro m _
    rw [List.filter_map, List.map_map]
    by_cases hmetric : m.name.name = metric
    · -- every subject left of the sample gives the sample once more
      have hcopies : ((subjects m.sample).filter admits).map (fun _ => m.sample)
          = if leads m.sample then [m.sample] else [] := by
        rw [List.map_const', hone]
        cases leads m.sample <;> rfl
      simpa [Function.comp_def, hmetric] using hcopies
    · simp [Function.comp_def, hmetric]

variable {subjectKey : α → List Cell} {ident : α → Option Int}
  (hkey : ∀ a, (subjectKey a).head? = some (.ofInt (ident a)))
include hkey

/-- Where identifiers determine subjects, and a sample leads to each at most once, the sums of the
newest samples **sum up** those that lead to the subject. -/
theorem rollup_joined_sumsUp (subjects : Sample → List α) {subject? : Int → Option α}
    {leads : Int → Sample → Bool}
    (hsubject : ∀ s, ∀ a ∈ subjects s, ∃ n, ident a = some n ∧ subject? n = some a)
    (hone : ∀ n s, ((subjects s).filter fun a => holds (ident a) n).length
      = if leads n s then 1 else 0) :
    SumsUp (rollup subjectKey ((store.latestLabelled scope filter now).flatMap fun m =>
        (subjects m.sample).map (m, ·))) ident subject? fun n metric =>
      (store.newestOf scope filter now metric).filter (leads n) := by
  have hrows : ∀ r ∈ (store.latestLabelled scope filter now).flatMap fun m =>
      (subjects m.sample).map (m, ·), ∃ n, ident r.2 = some n ∧ subject? n = some r.2 := by
    intro r hr
    obtain ⟨m, -, hr⟩ := List.mem_flatMap.1 hr
    obtain ⟨a, ha, rfl⟩ := List.mem_map.1 hr
    exact hsubject m.sample a ha
  have hsums := rollup_sumsUp hkey hrows
  simpa only [samples_joined scope filter now unique differ (hone _)] using hsums

omit unique differ hkey in
/-- A sample leads to a catalog row of an identifier **once**, if it refers to the identifier and
the catalog has the row. -/
theorem length_filter_joins {catalog : List α} (hids : IdsDiffer ident catalog)
    (column : Option Int) (n : Int) :
    ((catalog.filter fun a => joins column (ident a)).filter fun a => holds (ident a) n).length
      = if holds column n && catalog.any fun a => holds (ident a) n then 1 else 0 := by
  by_cases hcolumn : column = some n
  · subst hcolumn
    simp only [joins_some_eq_holds, List.filter_filter, Bool.and_self, length_filter_holds hids n]
    simp [holds]
  · -- a row that the sample is joined to bears another identifier
    have hnone : (catalog.filter fun a => joins column (ident a)).filter
        (fun a => holds (ident a) n) = [] := by
      rw [List.filter_filter, List.filter_eq_nil_iff]
      intro a _ h
      rw [Bool.and_eq_true, holds_iff, joins_iff] at h
      obtain ⟨hident, k, hk, hidk⟩ := h
      exact hcolumn (hk.trans (hidk.symm.trans hident))
    rw [hnone]
    simp [holds, hcolumn]

/-- The sums by the rows of a catalog table **sum up** the newest samples that refer to them. -/
theorem rollup_catalog_sumsUp {catalog : List α} (hids : IdsDiffer ident catalog)
    (column : Sample → Option Int) :
    SumsUp (rollup subjectKey ((store.latestLabelled scope filter now).flatMap fun m =>
        (catalog.filter fun a => joins (column m.sample) (ident a)).map (m, ·))) ident
      (fun n => findById ident catalog (some n)) fun n metric =>
        (store.newestOf scope filter now metric).filter fun s =>
          holds (column s) n && catalog.any fun a => holds (ident a) n := by
  refine rollup_joined_sumsUp unique differ hkey
    (fun s => catalog.filter fun a => joins (column s) (ident a)) ?_
    fun n s => length_filter_joins hids (column s) n
  intro s a ha
  obtain ⟨hmem, hjoins⟩ := List.mem_filter.1 ha
  obtain ⟨n, -, hident⟩ := joins_iff.1 hjoins
  exact ⟨n, hident, (findById_eq_some_iff hids).2 ⟨hmem, joins_some_left.2 hident⟩⟩

end Subjects

end ClusterMetrics
