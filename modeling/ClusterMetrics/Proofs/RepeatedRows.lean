import ClusterMetrics.Proofs.CorruptValues
import ClusterMetrics.Proofs.RecountedSums
import ClusterMetrics.Proofs.SilentCells

/-! # Repeated rows

A sample that is stored twice is found twice, if it is newest of its series: the newest times are
looked up again in the store, and each copy has the series and the time that are looked for. A link
that is stored twice leads to its pod twice. Every copy that is found is listed once more and
counted once more in sums; a copy that is not found changes nothing.

* **`latestLabelled_inserted`**, **`joinPods_inserted`**: the copies that are found.
* **`ListsAgain`**, **`CountsAgain`**: what becomes of rows and of sums.
* **`Backend.RepeatsSamples`**, **`Backend.RepeatsLinks`**: what becomes of every query.
* **`repeated_rows_are_counted_again`**: repeated samples and repeated links. -/

namespace ClusterMetrics

/-! ## Copies that are found -/

section Found

variable {store : Store} {scope : Scope} {filter : MetricFilter} {now : Int}

/-- Those of some samples that are **newest** in a store, with their names and labels. -/
def Store.latestAmong (store : Store) (samples : List Sample) (scope : Scope)
    (filter : MetricFilter) (now : Int) : List LabelledSample :=
  store.labelled (samples.filter (isNewest (store.candidates scope filter now)))

section Samples

variable {copies samples' : List Sample} (h : Inserted store.samples copies samples')
  (known : ∀ s ∈ copies, s ∈ store.samples)
include h known

/-- Copies of samples do not change **what is newest**. -/
theorem isNewest_inserted :
    isNewest ({ store with samples := samples' }.candidates scope filter now)
      = isNewest (store.candidates scope filter now) := by
  have htime : ∀ key,
      newestTime ({ store with samples := samples' }.candidates scope filter now) key
        = newestTime (store.candidates scope filter now) key := by
    intro key
    -- the candidates have the same members as before, each perhaps more often
    apply max?_eq_of_mem_iff
    intro n
    simp only [Store.candidates, List.mem_filterMap, List.mem_filter, h.mem_iff known]
  funext s
  simp only [isNewest, htime]

/-- The newest copies are inserted **among the newest samples**. -/
theorem latestLabelled_inserted :
    Inserted (store.latestLabelled scope filter now) (store.latestAmong copies scope filter now)
      ({ store with samples := samples' }.latestLabelled scope filter now) := by
  have hlatest : Inserted (store.latest scope filter now)
      (copies.filter (isNewest (store.candidates scope filter now)))
      ({ store with samples := samples' }.latest scope filter now) := by
    rw [Store.latest, Store.latest, isNewest_inserted h known]
    exact h.filter _
  exact hlatest.flatMap _

omit h in
/-- The newest copies are **newest samples**. -/
theorem mem_latestLabelled_of_copy {m : LabelledSample}
    (hm : m ∈ store.latestAmong copies scope filter now) :
    m ∈ store.latestLabelled scope filter now := by
  obtain ⟨s, hs, hm⟩ := List.mem_flatMap.1 hm
  obtain ⟨hcopy, hnewest⟩ := List.mem_filter.1 hs
  exact List.mem_flatMap.2 ⟨s, List.mem_filter.2 ⟨known s hcopy, hnewest⟩, hm⟩

end Samples

section Links

variable {copies links' : List PodContainer}

/-- The links of a container that are copied lead to **copied paths**. -/
theorem podPaths_inserted (h : Inserted store.podContainers copies links')
    (container : Option Int) :
    Inserted (store.podPaths scope container)
      ({ store with podContainers := copies }.podPaths scope container)
      ({ store with podContainers := links' }.podPaths scope container) := by
  -- links are looked up once for each container, so copies stand behind each container
  refine Inserted.filter _ (Inserted.flatMap_of_forall fun c _ => ?_)
  exact (h.filter _).flatMap _

/-- The links that are copied are inserted **among the pods of samples**. -/
theorem joinPods_inserted (h : Inserted store.podContainers copies links')
    (samples : List LabelledSample) :
    Inserted (store.joinPods scope samples)
      ({ store with podContainers := copies }.joinPods scope samples)
      ({ store with podContainers := links' }.joinPods scope samples) :=
  Inserted.flatMap_of_forall fun m _ => (podPaths_inserted h m.sample.container).map _

/-- Whether a link **repeats** one of a store, be it under another identifier. -/
def Store.HasLink (store : Store) (k : PodContainer) : Prop :=
  ∃ l ∈ store.podContainers, l.externalId = k.externalId ∧ l.pod = k.pod

/-- A copied link leads to pods **that are found already**. -/
theorem mem_joinPods_of_copy (known : ∀ k ∈ copies, store.HasLink k)
    {samples : List LabelledSample} {r : LabelledSample × PodPath}
    (hr : r ∈ { store with podContainers := copies }.joinPods scope samples) :
    r ∈ store.joinPods scope samples := by
  obtain ⟨m, hm, hr⟩ := List.mem_flatMap.1 hr
  obtain ⟨path, hpath, rfl⟩ := List.mem_map.1 hr
  obtain ⟨hpath, hadmits⟩ := List.mem_filter.1 hpath
  obtain ⟨c, hc, hpath⟩ := List.mem_flatMap.1 hpath
  obtain ⟨k, hk, hpath⟩ := List.mem_flatMap.1 hpath
  obtain ⟨hk, hjoins⟩ := List.mem_filter.1 hk
  obtain ⟨l, hl, hexternal, hpod⟩ := known k hk
  rw [← hexternal] at hjoins
  rw [← hpod] at hpath
  refine List.mem_flatMap.2 ⟨m, hm, List.mem_map.2 ⟨path, List.mem_filter.2 ⟨?_, hadmits⟩, rfl⟩⟩
  exact List.mem_flatMap.2 ⟨c, hc, List.mem_flatMap.2 ⟨l, List.mem_filter.2 ⟨hl, hjoins⟩, hpath⟩⟩

end Links

end Found

/-! ## Rows and sums -/

/-- Rows are **listed again**: there is a row more for each row of a copy, so nothing changes
exactly if there is none. -/
structure ListsAgain (again rows rows' : List Row) : Prop where
  perm : rows'.Perm (rows ++ again)
  same : rows' = rows ↔ again = []

/-- Sums are **counted again**: there are the sums there were, and each counts the joined rows of
the copies besides. Without a value among these rows nothing changes. -/
structure CountsAgain {α : Type} (toRow : Rollup α → Row) (subjectKey : α → List Cell)
    (joined again : List (LabelledSample × α)) (rows rows' : List Row) : Prop where
  sums : ∃ sums sums', rows = sums.map toRow ∧ rows' = sums'.map toRow ∧
    List.Forall₂ (Recounts subjectKey joined again) sums sums'
  same : (∀ m ∈ again, m.1.sample.value = none) → rows' = rows

/-- Inserted entities are **listed again**. -/
theorem listsAgain_of_inserted (kind : EntityKind)
    {joined again joined' : List (LabelledSample × Entity)} (h : Inserted joined again joined') :
    ListsAgain (again.map (snapshotRow kind)) ((sortBy entityOrder joined).map (snapshotRow kind))
      ((sortBy entityOrder joined').map (snapshotRow kind)) := by
  have hperm : ((sortBy entityOrder joined').map (snapshotRow kind)).Perm
      ((sortBy entityOrder joined).map (snapshotRow kind) ++ again.map (snapshotRow kind)) := by
    rw [← List.map_append]
    refine List.Perm.map _ ?_
    exact ((sortBy_perm entityOrder joined').trans h.perm).trans
      ((sortBy_perm entityOrder joined).symm.append_right again)
  refine ⟨hperm, fun hsame => ?_, fun hnone => ?_⟩
  · have hlength := hperm.length_eq
    rw [hsame, List.length_append] at hlength
    exact List.length_eq_zero_iff.1 (Nat.left_eq_add.1 hlength)
  · rw [List.map_eq_nil_iff] at hnone
    rw [hnone] at h
    rw [h.eq_of_nil]

/-- Copies that are inserted among the rows of sums are **counted again**. -/
theorem countsAgain_of_inserted {α : Type} {toRow : Rollup α → Row} {subjectKey : α → List Cell}
    {order : Rollup α → List Cell} {joined again joined' : List (LabelledSample × α)}
    (horder : ∀ r r', r'.key subjectKey = r.key subjectKey → order r' = order r)
    (hrow : ∀ r r', r'.key subjectKey = r.key subjectKey → r'.ts = r.ts → r'.value = r.value →
      toRow r' = toRow r)
    (h : Inserted joined again joined') (known : ∀ m ∈ again, m ∈ joined) :
    CountsAgain toRow subjectKey joined again ((sortBy order (rollup subjectKey joined)).map toRow)
      ((sortBy order (rollup subjectKey joined')).map toRow) := by
  have hsums := forall₂_sortBy (fun r r' hr => horder r r' hr.key) (forall₂_rollup h known)
  refine ⟨⟨_, _, rfl, rfl, hsums⟩, fun silent => Eq.symm ?_⟩
  rw [← List.forall₂_eq_eq_eq, List.forall₂_map_left_iff, List.forall₂_map_right_iff]
  refine hsums.imp fun r r' hr => ?_
  exact (hrow r r' hr.key hr.ts (hr.value_eq fun m hm _ => silent m hm)).symm

section Keys

/-- Sums of pods **count copies again**. -/
theorem countsAgain_pods {joined again joined' : List (LabelledSample × PodPath)}
    (h : Inserted joined again joined') (known : ∀ m ∈ again, m ∈ joined) :
    CountsAgain podSnapshotRow podKey joined again
      ((sortBy podOrder (rollup podKey joined)).map podSnapshotRow)
      ((sortBy podOrder (rollup podKey joined')).map podSnapshotRow) := by
  have hparts : ∀ r r' : Rollup PodPath, r'.key podKey = r.key podKey →
      r'.subject.pod.name = r.subject.pod.name ∧
        r'.subject.podNamespace.name = r.subject.podNamespace.name ∧
          r'.metricName = r.metricName := by
    intro r r' hkey
    simp only [Rollup.key, podKey, List.cons_append, List.nil_append, List.cons.injEq, ofText_inj,
      and_true] at hkey
    exact hkey.2
  refine countsAgain_of_inserted (fun r r' hkey => ?_) (fun r r' hkey hts hvalue => ?_) h known
  · obtain ⟨hname, hspace, hmetric⟩ := hparts r r' hkey
    rw [podOrder, podOrder, hname, hspace, hmetric]
  · obtain ⟨hname, hspace, hmetric⟩ := hparts r r' hkey
    rw [podSnapshotRow, podSnapshotRow, hname, hspace, hmetric, hts, hvalue]

/-- Sums of clusters **count copies again**. -/
theorem countsAgain_clusters {joined again joined' : List (LabelledSample × Cluster)}
    (h : Inserted joined again joined') (known : ∀ m ∈ again, m ∈ joined) :
    CountsAgain clusterSummaryRow clusterKeyCells joined again
      ((sortBy clusterOrder (rollup clusterKeyCells joined)).map clusterSummaryRow)
      ((sortBy clusterOrder (rollup clusterKeyCells joined')).map clusterSummaryRow) := by
  have hparts : ∀ r r' : Rollup Cluster, r'.key clusterKeyCells = r.key clusterKeyCells →
      r'.subject.id = r.subject.id ∧ r'.subject.name = r.subject.name ∧
        r'.metricName = r.metricName := by
    intro r r' hkey
    simpa only [Rollup.key, clusterKeyCells, List.cons_append, List.nil_append, List.cons.injEq,
      ofInt_inj, ofText_inj, and_true] using hkey
  refine countsAgain_of_inserted (fun r r' hkey => ?_) (fun r r' hkey _ hvalue => ?_) h known
  · obtain ⟨hid, -, hmetric⟩ := hparts r r' hkey
    rw [clusterOrder, clusterOrder, hid, hmetric]
  · obtain ⟨hid, hname, hmetric⟩ := hparts r r' hkey
    rw [clusterSummaryRow, clusterSummaryRow, hid, hname, hmetric, hvalue]

/-- Sums of nodes **count copies again**. -/
theorem countsAgain_nodes {joined again joined' : List (LabelledSample × Entity)}
    (h : Inserted joined again joined') (known : ∀ m ∈ again, m ∈ joined) :
    CountsAgain nodeSummaryRow nodeKey joined again
      ((sortBy nodeOrder (rollup nodeKey joined)).map nodeSummaryRow)
      ((sortBy nodeOrder (rollup nodeKey joined')).map nodeSummaryRow) := by
  have hparts : ∀ r r' : Rollup Entity, r'.key nodeKey = r.key nodeKey →
      r'.subject.id = r.subject.id ∧ r'.subject.name = r.subject.name ∧
        r'.metricName = r.metricName := by
    intro r r' hkey
    simpa only [Rollup.key, nodeKey, List.cons_append, List.nil_append, List.cons.injEq,
      ofInt_inj, ofText_inj, and_true] using hkey
  refine countsAgain_of_inserted (fun r r' hkey => ?_) (fun r r' hkey _ hvalue => ?_) h known
  · obtain ⟨-, hname, hmetric⟩ := hparts r r' hkey
    rw [nodeOrder, nodeOrder, hname, hmetric]
  · obtain ⟨hid, hname, hmetric⟩ := hparts r r' hkey
    rw [nodeSummaryRow, nodeSummaryRow, hid, hname, hmetric, hvalue]

end Keys

/-! ## Answers -/

/-- How two runs of a query **compare**: both are answered, with rows that compare, or both fail
with one failure. -/
inductive Compares (R : List Row → List Row → Prop) :
    Except Failure (List Row) → Except Failure (List Row) → Prop
  | answered {rows rows' : List Row} (h : R rows rows') : Compares R (.ok rows) (.ok rows')
  | failed (failure : Failure) : Compares R (.error failure) (.error failure)

/-- A query that is answered **is answered again**. -/
theorem Compares.exists_rows {R : List Row → List Row → Prop} {rows : List Row}
    {outcome : Except Failure (List Row)} (h : Compares R (.ok rows) outcome) :
    ∃ rows', outcome = .ok rows' ∧ R rows rows' := by
  cases h with
  | answered h => exact ⟨_, rfl, h⟩

section Runs

variable {backend : Backend} {store' : Store} {tables : List TableName} {numbers : List Int}
  {others : Nat} {rows : Store → List Row}

/-- Runs on two stores compare **as their rows** do. -/
theorem compares_of_rows {R : List Row → List Row → Prop}
    (h : R (rows backend.store) (rows store')) :
    Compares R ((backend.query tables numbers others).map rows)
      ((({ backend with store := store' } : Backend).query tables numbers others).map rows) := by
  have haccess : ({ backend with store := store' } : Backend).access tables numbers others
      = backend.access tables numbers others := rfl
  rw [Backend.query, Backend.query, haccess]
  cases backend.access tables numbers others with
  | error failure => exact .failed failure
  | ok _ => exact .answered h

end Runs

/-- A store as a server finds it, with **other links**. -/
def Backend.withLinks (backend : Backend) (links : List PodContainer) : Backend :=
  { backend with store := { backend.store with podContainers := links } }

/-- What becomes of every query when samples are **repeated**: the rows and sums of the copies that
are newest are listed and counted again. -/
structure Backend.RepeatsSamples (backend backend' : Backend) (copies : List Sample) (scope : Scope)
    (filter : MetricFilter) (now : Int) : Prop where
  entities : ∀ kind : EntityKind,
    Compares (ListsAgain ((kind.join backend.store
        (backend.store.latestAmong copies scope filter now)).map (snapshotRow kind)))
      ((SnapshotQuery.entities kind).run backend scope filter now)
      ((SnapshotQuery.entities kind).run backend' scope filter now)
  pods :
    Compares (CountsAgain podSnapshotRow podKey
        (backend.store.joinPods scope (backend.store.latestLabelled scope filter now))
        (backend.store.joinPods scope (backend.store.latestAmong copies scope filter now)))
      (SnapshotQuery.pods.run backend scope filter now)
      (SnapshotQuery.pods.run backend' scope filter now)
  clusters :
    Compares (CountsAgain clusterSummaryRow clusterKeyCells
        (backend.store.joinClusters (backend.store.latestLabelled scope [] now))
        (backend.store.joinClusters (backend.store.latestAmong copies scope [] now)))
      (SummaryQuery.clusters.run backend scope now) (SummaryQuery.clusters.run backend' scope now)
  nodes :
    Compares (CountsAgain nodeSummaryRow nodeKey
        (EntityKind.node.join backend.store (backend.store.latestLabelled scope [] now))
        (EntityKind.node.join backend.store (backend.store.latestAmong copies scope [] now)))
      (SummaryQuery.nodes.run backend scope now) (SummaryQuery.nodes.run backend' scope now)

/-- What becomes of every query when links are **repeated**: the newest samples that the copies lead
to pods are counted again in the sums of pods, and no other answer changes. -/
structure Backend.RepeatsLinks (backend backend' : Backend) (copies : List PodContainer)
    (scope : Scope) (filter : MetricFilter) (now : Int) : Prop where
  entities : ∀ kind : EntityKind, (SnapshotQuery.entities kind).run backend' scope filter now
    = (SnapshotQuery.entities kind).run backend scope filter now
  pods :
    Compares (CountsAgain podSnapshotRow podKey
        (backend.store.joinPods scope (backend.store.latestLabelled scope filter now))
        ({ backend.store with podContainers := copies }.joinPods scope
          (backend.store.latestLabelled scope filter now)))
      (SnapshotQuery.pods.run backend scope filter now)
      (SnapshotQuery.pods.run backend' scope filter now)
  summaries : ∀ query : SummaryQuery, query.run backend' scope now = query.run backend scope now

section Repetitions

variable {backend : Backend} {scope : Scope} {filter : MetricFilter} {now : Int}

/-- Repeated samples are **listed and counted again** where they are newest. -/
theorem repeatsSamples_of_inserted {copies samples' : List Sample}
    (h : Inserted backend.store.samples copies samples')
    (known : ∀ s ∈ copies, s ∈ backend.store.samples) :
    backend.RepeatsSamples (backend.withSamples samples') copies scope filter now := by
  have hlatest : ∀ filter, Inserted (backend.store.latestLabelled scope filter now)
      (backend.store.latestAmong copies scope filter now)
      ({ backend.store with samples := samples' }.latestLabelled scope filter now) :=
    fun _ => latestLabelled_inserted h known
  -- every join looks at one sample at a time
  have hknown : ∀ {α : Type} (filter : MetricFilter) (f : LabelledSample → List α),
      ∀ r ∈ (backend.store.latestAmong copies scope filter now).flatMap f,
        r ∈ (backend.store.latestLabelled scope filter now).flatMap f := by
    intro α filter f r hr
    obtain ⟨m, hm, hr⟩ := List.mem_flatMap.1 hr
    exact List.mem_flatMap.2 ⟨m, mem_latestLabelled_of_copy known hm, hr⟩
  constructor
  · intro kind
    refine compares_of_rows (listsAgain_of_inserted kind ?_)
    cases kind <;> exact (hlatest filter).flatMap _
  · exact compares_of_rows (countsAgain_pods ((hlatest filter).flatMap _) (hknown filter _))
  · exact compares_of_rows (countsAgain_clusters ((hlatest []).flatMap _) (hknown [] _))
  · exact compares_of_rows (countsAgain_nodes ((hlatest []).flatMap _) (hknown [] _))

/-- Repeated links are **counted again** in the sums of their pods. -/
theorem repeatsLinks_of_inserted {copies links' : List PodContainer}
    (h : Inserted backend.store.podContainers copies links')
    (known : ∀ k ∈ copies, backend.store.HasLink k) :
    backend.RepeatsLinks (backend.withLinks links') copies scope filter now := by
  constructor
  · intro kind
    -- only the pods are looked up through links
    refine query_bind_of_store _ _ _ (congrArg Except.ok ?_)
    cases kind <;> rfl
  · refine compares_of_rows (countsAgain_pods (joinPods_inserted h _) ?_)
    exact fun r hr => mem_joinPods_of_copy known hr
  · intro query
    refine query_bind_of_store _ _ _ (congrArg Except.ok ?_)
    cases query <;> rfl

end Repetitions

/-- **Repeated rows are counted again.** Copies of samples may stand anywhere in the store, and so
may copies of links, under any identifier. Then every snapshot and every summary is answered as it
was, but for the copies that it finds: those of newest samples, and those of links that newest
samples lead to. Entities list each of them once more, sums count each of them once more, and
without any of them nothing changes. -/
theorem repeated_rows_are_counted_again (backend : Backend) (scope : Scope) (filter : MetricFilter)
    (now : Int) :
    (∀ copies samples', Inserted backend.store.samples copies samples' →
      (∀ s ∈ copies, s ∈ backend.store.samples) →
        backend.RepeatsSamples (backend.withSamples samples') copies scope filter now) ∧
    ∀ copies links', Inserted backend.store.podContainers copies links' →
      (∀ k ∈ copies, backend.store.HasLink k) →
        backend.RepeatsLinks (backend.withLinks links') copies scope filter now :=
  ⟨fun _ _ h known => repeatsSamples_of_inserted h known,
    fun _ _ h known => repeatsLinks_of_inserted h known⟩

/-- The sample of a container, with its name and label. -/
def shopSample : LabelledSample :=
  ⟨⟨some 1, some 1, some 0, some 1, some 1, some 1, some 90, some (.number 5.0)⟩,
    ⟨some 1, some "cpu", none, none⟩, ⟨some 1, some "total"⟩⟩

/-- The link of the container to its pod. -/
def shopLink : PodContainer := ⟨some 1, some "c1", some 5, none⟩

/-- The pod of one container, which has one sample. -/
def sentOnce : Store :=
  { onePod with podContainers := [shopLink], samples := [shopSample.sample] }

/-- The row of the container. -/
def webRow : Row := snapshotRow .container (shopSample, ⟨some 1, some "web"⟩)

/-- The pod and its namespace. -/
def shopPath : PodPath := ⟨⟨some 5, some "shop", some 7⟩, ⟨some 7, some "prod"⟩⟩

/-- The row of the pod, with a value. -/
def shopRow (value : Float) : Row :=
  podSnapshotRow ⟨shopPath, some "cpu", some 90, some value⟩

section Runs

variable {store : Store} {n : Nat}

/-- Copies of the sample are **listed each**. -/
theorem container_run_of_copies
    (h : EntityKind.container.join store (store.latestLabelled containerScope [] 100)
      = List.replicate n (shopSample, ⟨some 1, some "web"⟩)) :
    (SnapshotQuery.entities .container).run (.ofStore store) containerScope [] 100
      = .ok (List.replicate n webRow) := by
  have hrun : (SnapshotQuery.entities .container).run (.ofStore store) containerScope [] 100
      = .ok ((sortBy entityOrder (EntityKind.container.join store
          (store.latestLabelled containerScope [] 100))).map (snapshotRow .container)) := rfl
  rw [hrun, h, sortBy_of_pairwise (List.pairwise_replicate.2 (.inr (keyLe_refl _))),
    List.map_replicate]
  rfl

/-- Copies of the sample are **summed up**. -/
theorem pod_run_of_copies
    (h : store.joinPods containerScope (store.latestLabelled containerScope [] 100)
      = List.replicate (n + 1) (shopSample, shopPath)) :
    SnapshotQuery.pods.run (.ofStore store) containerScope [] 100
      = .ok [podSnapshotRow
          (.ofSamples shopPath (some "cpu") (List.replicate (n + 1) shopSample.sample))] := by
  have hrun : SnapshotQuery.pods.run (.ofStore store) containerScope [] 100
      = .ok ((sortBy podOrder (rollup podKey (store.joinPods containerScope
          (store.latestLabelled containerScope [] 100)))).map podSnapshotRow) := rfl
  have hsum : rollup podKey (List.replicate (n + 1) (shopSample, shopPath))
      = [.ofSamples shopPath (some "cpu") (List.replicate (n + 1) shopSample.sample)] := by
    have hone : ∀ r ∈ List.replicate (n + 1) (shopSample, shopPath),
        r.2 = shopPath ∧ r.1.name.name = some "cpu" := by
      intro r hr
      obtain rfl := List.eq_of_mem_replicate hr
      exact ⟨rfl, rfl⟩
    rw [rollup_eq_singleton (by simp) hone, List.map_replicate]
  rw [hrun, h, hsum, sortBy_singleton]
  rfl

end Runs

theorem container_rows_sentOnce :
    (SnapshotQuery.entities .container).run (.ofStore sentOnce) containerScope [] 100
      = .ok [webRow] :=
  container_run_of_copies (n := 1) rfl

theorem pod_rows_sentOnce :
    SnapshotQuery.pods.run (.ofStore sentOnce) containerScope [] 100 = .ok [shopRow 5.0] :=
  pod_run_of_copies (n := 0) rfl

/-- A copied sample is one more row, and a copied link counts the sample once more. -/
theorem answers_of_a_repeated_sample_and_link :
    (∃ rows', (SnapshotQuery.entities .container).run
          ((Backend.ofStore sentOnce).withSamples [shopSample.sample, shopSample.sample])
          containerScope [] 100 = .ok rows' ∧
        rows'.Perm ([webRow] ++ [webRow])) ∧
    ∃ rows', SnapshotQuery.pods.run
        ((Backend.ofStore sentOnce).withLinks [shopLink, { shopLink with id := some 2 }])
        containerScope [] 100 = .ok rows' ∧
      ∃ r r', podSnapshotRow r = shopRow 5.0 ∧ rows' = [podSnapshotRow r'] ∧
        Recounts podKey [(shopSample, shopPath)] [(shopSample, shopPath)] r r' := by
  obtain ⟨hsamples, hlinks⟩ :=
    repeated_rows_are_counted_again (.ofStore sentOnce) containerScope [] 100
  constructor
  · have hentities := (hsamples [shopSample.sample] [shopSample.sample, shopSample.sample]
      (inserted_middle [] _ _) (fun _ hs => hs)).entities .container
    rw [container_rows_sentOnce] at hentities
    obtain ⟨rows', hrun, hagain⟩ := hentities.exists_rows
    exact ⟨rows', hrun, hagain.perm⟩
  · have hknown : ∀ k ∈ [{ shopLink with id := some 2 }], sentOnce.HasLink k := by
      intro k hk
      obtain rfl := List.mem_singleton.1 hk
      exact ⟨shopLink, List.mem_cons_self, rfl, rfl⟩
    have hpods := (hlinks [{ shopLink with id := some 2 }]
      [shopLink, { shopLink with id := some 2 }] (inserted_middle [shopLink] [] _) hknown).pods
    rw [pod_rows_sentOnce] at hpods
    obtain ⟨rows', hrun, hagain⟩ := hpods.exists_rows
    -- the answer has one sum, and so has the answer that counts it again
    obtain ⟨sums, sums', hrows, hrows', hsums⟩ := hagain.sums
    obtain ⟨r, rfl, hr⟩ := List.map_eq_singleton_iff.1 hrows.symm
    obtain ⟨r', rest, hrecounts, hrest, rfl⟩ := List.forall₂_cons_left_iff.1 hsums
    obtain rfl := List.forall₂_nil_left_iff.1 hrest
    exact ⟨rows', hrun, r, r', hr, hrows', hrecounts⟩

/-- A sample that is sent again **is listed twice**, and a link that is stored again **doubles a
sum**. -/
theorem repeated_rows_change_answers :
    ((SnapshotQuery.entities .container).run (.ofStore sentOnce) containerScope [] 100
        = .ok [webRow] ∧
      (SnapshotQuery.entities .container).run
          ((Backend.ofStore sentOnce).withSamples [shopSample.sample, shopSample.sample])
          containerScope [] 100 = .ok [webRow, webRow]) ∧
    (SnapshotQuery.pods.run (.ofStore sentOnce) containerScope [] 100 = .ok [shopRow 5.0] ∧
      SnapshotQuery.pods.run
          ((Backend.ofStore sentOnce).withLinks [shopLink, { shopLink with id := some 2 }])
          containerScope [] 100 = .ok [shopRow 10.0]) ∧
    shopRow 10.0 ≠ shopRow 5.0 := by
  refine ⟨⟨container_rows_sentOnce, ?_⟩, ⟨pod_rows_sentOnce, ?_⟩, ?_⟩
  · exact container_run_of_copies (n := 2) rfl
  · exact pod_run_of_copies (n := 1) rfl
  · intro h
    have hvalue : Value.float 10.0 = Value.float 5.0 :=
      Option.some.inj (congrArg (·.get? "value") h)
    have hne : ((10.0 : Float) == 5.0) = false := rfl
    rw [Value.float.inj hvalue] at hne
    exact absurd hne (by decide)

end ClusterMetrics
