import ClusterMetrics.Proofs.SeriesRollups

/-! # Series of selected samples

A series may be narrowed to some metrics, or to a part of its range. Both selects samples by the
metric and the bucket of their cells, and so selects cells. One thing may get in between: the column
of nodes holds doubles in the broader series if a sample of no node is in it, and whole numbers in
the narrower series if that sample is not, so the two may tell nodes apart in different ways.

* **`SeriesQuery.metric?`**: the metric in the key of a cell. **`Row.withoutValue`**: what the row of
  a cell says of its place.
* **`SelectsSeries`**: a series that is narrowed by metric and bucket.
* **`SelectsSeries.cells_eq_filter`**: the cells of a narrowed series of entities or pods.
* **`Store.TellsNodesAlike`**: whether a narrowed series tells nodes apart as the broader one does.
* **`SelectsSeries.cells_select`**: the cells of a narrowed series, whatever it is of. -/

namespace ClusterMetrics

/-! ## Rows of cells -/

/-- Cells of the same row have **the same value**. -/
theorem value_eq_of_seriesRow_eq {names : List String} {c d : SeriesCell}
    (h : seriesRow names c = seriesRow names d) : c.value = d.value := by
  simpa [seriesRow] using congrArg List.getLast? h

/-- A row **without its value**. -/
def Row.withoutValue (row : Row) : Row := row.filter fun field => field.1 != "value"

/-- Cells of the same places have the same rows **without values**. -/
theorem map_withoutValue_seriesRow (names : List String) {cells cells' : List SeriesCell}
    (h : cells.map SeriesCell.place = cells'.map SeriesCell.place) :
    (cells.map (seriesRow names)).map Row.withoutValue
      = (cells'.map (seriesRow names)).map Row.withoutValue := by
  have hrow : Row.withoutValue ∘ seriesRow names
      = (fun place => (seriesRow names ⟨place.1, place.2, 0.0⟩).withoutValue)
          ∘ SeriesCell.place := by
    funext c
    simp [Row.withoutValue, seriesRow, SeriesCell.place]
  rw [List.map_map, List.map_map, hrow, ← List.map_map, ← List.map_map, h]

namespace SeriesQuery

/-- The place of the metric in the key of a cell. -/
def metricIndex : SeriesQuery → Nat
  | entities _ => 2
  | pods => 3
  | clusterSummary => 0

/-- The **metric** in the key of a cell. -/
def metric? (query : SeriesQuery) (key : List Cell) : Option String :=
  key[query.metricIndex]?.bind Cell.text?

/-- The metric in the row of a cell is that **of its key**. -/
theorem text?_metric (query : SeriesQuery) (c : SeriesCell) :
    (seriesRow query.keyNames c).text? "metric_name" = query.metric? c.key := by
  cases query with
  | entities kind => cases kind <;> exact text?_seriesRow (by decide) rfl (by decide) (by decide) c
  | pods => exact text?_seriesRow (by decide) rfl (by decide) (by decide) c
  | clusterSummary => exact text?_seriesRow (by decide) rfl (by decide) (by decide) c

end SeriesQuery

/-- Whether a series, given by its filter and rule, is **narrowed by metric and bucket** to another
one: the samples of the other are those whose metric and bucket satisfy a condition. -/
structure SelectsSeries (store : Store) (scope : Scope) (filter : MetricFilter) (rule : BucketRule)
    (filter' : MetricFilter) (rule' : BucketRule) (selects : Option String → Int → Bool) :
    Prop where
  bucketing : rule'.bucketing = rule.bucketing
  subset : store.inRange scope filter' rule' ⊆ store.inRange scope filter rule
  inRange : ∀ bucketing, rule.bucketing = .ok bucketing →
    store.inRange scope filter' rule' = (store.inRange scope filter rule).filter fun m =>
      selects m.name.name (bucketing.bucket (m.sample.ts.getD 0))

namespace SelectsSeries

variable {store : Store} {scope : Scope} {filter filter' : MetricFilter} {rule rule' : BucketRule}
  {selects : Option String → Int → Bool}
  (h : SelectsSeries store scope filter rule filter' rule' selects)
include h

/-! ## Entities and pods -/

/-- The samples of a narrowed series of entities or pods are **selected** from those of the
series. -/
theorem samples_eq_filter {query : SeriesQuery} (hquery : query ≠ .clusterSummary)
    {bucketing : Bucketing} (hb : rule.bucketing = .ok bucketing) :
    query.samples store scope filter' rule'
      = (query.samples store scope filter rule).filter fun s =>
          selects (query.metric? (query.part s.key)) (bucketing.bucket s.ts) := by
  cases query with
  | entities kind =>
    show store.entitySamples kind scope filter' rule' = (store.entitySamples kind _ _ _).filter _
    rw [Store.entitySamples, h.inRange bucketing hb, join_filter, Store.entitySamples,
      List.filter_map]
    congr 1
    apply List.filter_congr
    intro r _
    simp [SeriesQuery.metric?, SeriesQuery.metricIndex, SeriesQuery.part, keyed]
  | pods =>
    show store.podSamples scope filter' rule' = (store.podSamples _ _ _).filter _
    rw [Store.podSamples, h.inRange bucketing hb, joinPods_filter, Store.podSamples,
      List.filter_map]
    congr 1
    apply List.filter_congr
    intro r _
    simp [SeriesQuery.metric?, SeriesQuery.metricIndex, SeriesQuery.part, keyed]
  | clusterSummary => exact absurd rfl hquery

/-- A narrowed series of entities or pods has **no further samples**, also where the rule has no
bucketing. -/
theorem samples_subset {query : SeriesQuery} (hquery : query ≠ .clusterSummary) :
    query.samples store scope filter' rule' ⊆ query.samples store scope filter rule := by
  have hjoined : ∀ {β : Type} (g : LabelledSample → List β),
      (store.inRange scope filter' rule').flatMap g
        ⊆ (store.inRange scope filter rule).flatMap g := by
    intro β g r hr
    obtain ⟨m, hm, hr⟩ := List.mem_flatMap.1 hr
    exact List.mem_flatMap.2 ⟨m, h.subset hm, hr⟩
  cases query with
  | entities kind => exact List.map_subset _ (hjoined _)
  | pods => exact List.map_subset _ (hjoined _)
  | clusterSummary => exact absurd rfl hquery

/-- The cells of a narrowed series of entities or pods are **selected** from those of the series. -/
theorem cells_eq_filter {query : SeriesQuery} (hquery : query ≠ .clusterSummary)
    {cells : List SeriesCell} (answered : query.cells store scope filter rule = .ok cells) :
    query.cells store scope filter' rule'
      = .ok (cells.filter fun c => selects (query.metric? c.key) c.bucket) := by
  rcases SeriesQuery.cells_eq_ok_iff.1 answered with
    ⟨hnone, rfl⟩ | ⟨-, bucketing, means, hb, hm, rfl⟩
  · have hnone' : query.samples store scope filter' rule' = [] :=
      List.eq_nil_of_subset_nil (hnone ▸ h.samples_subset hquery)
    exact SeriesQuery.cells_eq_ok_iff.2 (.inl ⟨hnone', rfl⟩)
  · let p : List Cell × Int → Bool := fun place => selects (query.metric? place.1) place.2
    have hselected : cellMeans bucketing (query.samples store scope filter' rule')
        = .ok (means.filter fun c => p (query.part c.key, c.bucket)) := by
      rw [h.samples_eq_filter hquery hb]
      exact cellMeans_filter hm fun place => p (query.part place.1, place.2)
    rw [SeriesQuery.cells_of_cellMeans (h.bucketing.trans hb) hselected]
    exact congrArg Except.ok (SeriesQuery.answer_filter query means p)

/-! ## Clusters -/

/-- The samples of a metric and a bucket stay in a narrowed series **together or not at all**. -/
theorem nodeMembers_eq (i : String × Int) :
    store.nodeMembers scope filter' rule' i
      = if selects (some i.1) i.2 then store.nodeMembers scope filter rule i else [] := by
  obtain ⟨metric, bucket⟩ := i
  have hrule : ∀ m : LabelledSample, m.isOf rule' metric bucket = m.isOf rule metric bucket := by
    intro m
    have hbucket : rule'.bucket? = rule.bucket? := by
      funext t
      rw [BucketRule.bucket?, BucketRule.bucket?, h.bucketing]
    rw [LabelledSample.isOf, LabelledSample.isOf, hbucket]
  simp only [Store.nodeMembers, hrule]
  cases hb : rule.bucketing with
  | error f => simp [isOf_of_bucketing_error hb]
  | ok bucketing =>
    -- a sample of the metric and the bucket is selected exactly if these are
    have hselects : ∀ m ∈ store.inRange scope filter rule, m.isOf rule metric bucket = true →
        selects m.name.name (bucketing.bucket (m.sample.ts.getD 0))
          = selects (some metric) bucket := by
      intro m hm hof
      rw [LabelledSample.isOf, exists_bucket_of_mem_inRange hb hm] at hof
      simp only [Bool.and_eq_true, decide_eq_true_eq, Option.some.injEq] at hof
      rw [hof.1.1, hof.2]
    rw [h.inRange bucketing hb, List.filter_filter]
    cases hs : selects (some metric) bucket with
    | true =>
      rw [if_pos rfl]
      apply List.filter_congr
      intro m hm
      cases hof : m.isOf rule metric bucket with
      | true => rw [hselects m hm hof, hs, Bool.and_true]
      | false => simp
    | false =>
      rw [if_neg Bool.false_ne_true, List.filter_eq_nil_iff]
      intro m hm hcond
      simp only [Bool.and_eq_true] at hcond
      rw [hselects m hm hcond.1.2, hs] at hcond
      exact Bool.noConfusion hcond.2

end SelectsSeries

/-- Whether a narrowed series tells nodes that share a bucket of a metric apart **as the broader
series does**. -/
def Store.TellsNodesAlike (store : Store) (scope : Scope) (filter : MetricFilter)
    (rule : BucketRule) (filter' : MetricFilter) (rule' : BucketRule) : Prop :=
  ∀ i, ∀ m ∈ store.nodeMembers scope filter' rule' i,
    ∀ m' ∈ store.nodeMembers scope filter' rule' i,
      m.nodeCells (namesNodes (store.inRange scope filter rule))
          = m'.nodeCells (namesNodes (store.inRange scope filter rule)) ↔
        m.nodeCells (namesNodes (store.inRange scope filter' rule'))
          = m'.nodeCells (namesNodes (store.inRange scope filter' rule'))

section Clusters

variable {store : Store} {scope : Scope} {filter filter' : MetricFilter} {rule rule' : BucketRule}

/-- Nodes are told apart alike **exactly if** they make the same children in every bucket. -/
theorem tellsNodesAlike_iff :
    store.TellsNodesAlike scope filter rule filter' rule' ↔
      ∀ i, (groupBy (LabelledSample.nodeCells (namesNodes (store.inRange scope filter rule)))
          (store.nodeMembers scope filter' rule' i)).map (·.2)
        = (groupBy (LabelledSample.nodeCells (namesNodes (store.inRange scope filter' rule')))
          (store.nodeMembers scope filter' rule' i)).map (·.2) :=
  forall_congr' fun _ => groupBy_members_eq_iff.symm

/-- Nodes are told apart alike where **both columns** hold whole numbers, or both hold doubles. -/
theorem tellsNodesAlike_of_eq (same : namesNodes (store.inRange scope filter rule)
      = namesNodes (store.inRange scope filter' rule')) :
    store.TellsNodesAlike scope filter rule filter' rule' := by
  intro i m _ m' _
  rw [same]

namespace SelectsSeries

variable {selects : Option String → Int → Bool}
  (h : SelectsSeries store scope filter rule filter' rule' selects)
include h

/-- A narrowed series has no samples of no node **unless the series has some**. -/
theorem namesNodes_of_namesNodes (names : namesNodes (store.inRange scope filter rule) = true) :
    namesNodes (store.inRange scope filter' rule') = true := by
  rw [namesNodes, List.all_eq_true] at names ⊢
  intro m hm
  exact names m (h.subset hm)

/-- Nodes that the series keeps apart are **told apart alike**. -/
theorem tellsNodesAlike_of_keepsNodesApart (apart : store.KeepsNodesApart scope filter rule) :
    store.TellsNodesAlike scope filter rule filter' rule' := by
  cases hbroad : namesNodes (store.inRange scope filter rule) with
  | true => exact tellsNodesAlike_of_eq (hbroad.trans (h.namesNodes_of_namesNodes hbroad).symm)
  | false =>
    cases hnarrow : namesNodes (store.inRange scope filter' rule') with
    | false => exact tellsNodesAlike_of_eq (hbroad.trans hnarrow.symm)
    | true =>
      have hmembers : ∀ {i m}, m ∈ store.nodeMembers scope filter' rule' i →
          m ∈ store.nodeMembers scope filter rule i := by
        intro i m hm
        rw [h.nodeMembers_eq] at hm
        cases hs : selects (some i.1) i.2 with
        | true => rwa [hs, if_pos rfl] at hm
        | false => simp [hs] at hm
      intro i m hm m' hm'
      -- both columns tell apart what the nodes and labels themselves do
      rw [nodeCells_eq_iff apart (hmembers hm) (hmembers hm'),
        nodeCells_eq_iff (keepsNodesApart_of_namesNodes hnarrow) hm hm']

/-- A narrowed series of a cluster **is answered** if the series is. -/
theorem clusterSummary_answered {cells : List SeriesCell}
    (answered : SeriesQuery.clusterSummary.cells store scope filter rule = .ok cells) :
    ∃ cells', SeriesQuery.clusterSummary.cells store scope filter' rule' = .ok cells' := by
  rcases SeriesQuery.cells_eq_ok_iff.1 answered with
    ⟨hnone, -⟩ | ⟨-, bucketing, means, hb, hm, -⟩
  · have hrange : store.inRange scope filter rule = [] := List.map_eq_nil_iff.1 hnone
    have hrange' : store.inRange scope filter' rule' = [] :=
      List.eq_nil_of_subset_nil (hrange ▸ h.subset)
    refine ⟨[], SeriesQuery.cells_eq_ok_iff.2 (.inl ⟨?_, rfl⟩)⟩
    exact List.map_eq_nil_iff.2 hrange'
  · have htext : ∀ s ∈ store.nodeSamples scope filter' rule', isComplete s.key = true →
        isText s.value = false := by
      intro s hs hcomplete
      obtain ⟨m, hmem, rfl⟩ := List.mem_map.1 hs
      -- whether a key is complete does not depend on what its column holds
      have hbroad := (cellMeans_eq_ok_iff.1 hm).1 (keyed
        (m.nodeCells (namesNodes (store.inRange scope filter rule)) ++ [.ofText m.name.name]) m)
        (List.mem_map.2 ⟨m, h.subset hmem, rfl⟩)
      refine hbroad ?_
      simpa [keyed, isComplete, LabelledSample.nodeCells, nodeCell_ne_null] using hcomplete
    exact ⟨_, SeriesQuery.cells_of_cellMeans (h.bucketing.trans hb)
      (cellMeans_eq_ok_iff.2 ⟨htext, rfl⟩)⟩

/-- A narrowed series of a cluster has cells in **selected places** of the series, and these are the
cells of the series if nodes are told apart alike. -/
theorem clusterSummary_cells {cells cells' : List SeriesCell}
    (answered : SeriesQuery.clusterSummary.cells store scope filter rule = .ok cells)
    (answered' : SeriesQuery.clusterSummary.cells store scope filter' rule' = .ok cells') :
    cells'.map SeriesCell.place
        = (cells.filter fun c => selects (SeriesQuery.clusterSummary.metric? c.key) c.bucket).map
            SeriesCell.place ∧
      (store.TellsNodesAlike scope filter rule filter' rule' → cells'
        = cells.filter fun c => selects (SeriesQuery.clusterSummary.metric? c.key) c.bucket) := by
  obtain ⟨hsums, horder⟩ := clusterSummary_cells_addUp answered
  obtain ⟨hsums', horder'⟩ := clusterSummary_cells_addUp answered'
  have hselected := hsums.filter
    (p := fun place => selects (SeriesQuery.clusterSummary.metric? place.1) place.2)
    (q := fun i => selects (some i.1) i.2) (by rintro i place ⟨⟩; rfl) h.nodeMembers_eq
  have hselectedOrder := horder.filter fun c =>
    selects (SeriesQuery.clusterSummary.metric? c.key) c.bucket
  constructor
  · let order : List Cell × Int → List Cell := fun place => .int place.2 :: place.1
    refine @eq_of_pairwise_keyLt _ order _ _ (List.pairwise_map.2 horder')
      (List.pairwise_map.2 hselectedOrder) fun place => ?_
    exact hsums'.mem_places_iff.trans hselected.mem_places_iff.symm
  · intro alike
    have hdiffer : ∀ i j place, metricPlace? i = some place → metricPlace? j = some place →
        i = j := by
      rintro ⟨metric, bucket⟩ ⟨metric', bucket'⟩ place ⟨⟩ heq
      simpa [metricPlace?, eq_comm] using heq
    refine eq_of_pairwise_keyLt horder' hselectedOrder fun c => ?_
    exact (hsums'.mem_iff hdiffer).trans ((hselected.congr alike).mem_iff hdiffer).symm

/-- A narrowed series has cells in **selected places** of the series, and these are the cells of the
series unless it is one of a cluster that tells nodes apart in another way. -/
theorem cells_select {query : SeriesQuery} {cells : List SeriesCell}
    (answered : query.cells store scope filter rule = .ok cells) :
    ∃ cells', query.cells store scope filter' rule' = .ok cells' ∧
      cells'.map SeriesCell.place
        = (cells.filter fun c => selects (query.metric? c.key) c.bucket).map SeriesCell.place ∧
      ((query = .clusterSummary → store.TellsNodesAlike scope filter rule filter' rule') →
        cells' = cells.filter fun c => selects (query.metric? c.key) c.bucket) := by
  by_cases hquery : query = .clusterSummary
  · subst hquery
    obtain ⟨cells', answered'⟩ := h.clusterSummary_answered answered
    obtain ⟨hplaces, hcells⟩ := h.clusterSummary_cells answered answered'
    exact ⟨cells', answered', hplaces, fun alike => hcells (alike rfl)⟩
  · exact ⟨_, h.cells_eq_filter hquery answered, rfl, fun _ => rfl⟩

end SelectsSeries

end Clusters

end ClusterMetrics
