import ClusterMetrics.Proofs.CountedCells
import ClusterMetrics.Proofs.SilentCells

/-! # Records of pods

Pods are told apart by their identifiers when they are summed up, but their records only bear their
names. So a pod has one record for a metric, or a metric and a bucket, and two pods of one name in
one namespace have records that nobody can tell apart.

* **`PodPoint`**: what is known of a pod where a record is made of it. **`shownPoints`**: the points of
  pods whose names are not hidden.
* **`Rollup.podPoint?`**, **`SeriesCell.podPoint?`**: the points of snapshots and of series.
* **`HoldsPods`**: which records the data hold, and when names tell them apart.
* **`pod_answers_hold_a_record_a_pod`**: the data of both answers hold the points of pods. -/

namespace ClusterMetrics

open ClusterMetrics.Calendar ClusterMetrics.Decimal

/-! ## Points -/

/-- A **point of a pod**: the pod by its identifier, its name and its namespace, a metric, the time
that the value is of, and the rounded value. -/
structure PodPoint where
  pod : Int
  name : String
  podNamespace : String
  metric : String
  time : Int
  value : Float

namespace PodPoint

/-- The **names** that a record of a snapshot bears. -/
def names (p : PodPoint) : String × String × String := (p.name, p.podNamespace, p.metric)

/-- The names and the bucket that a record of a series bears. -/
def place (p : PodPoint) : (String × String × String) × Int := (p.names, p.time)

/-- The record of a snapshot. -/
def snapshotRecord (p : PodPoint) : Record :=
  ⟨[("ts", .second, .int p.time), ("value", .sample, .float p.value),
    ("metric_name", .text, .text p.metric), ("pod", .text, .text p.name),
    ("namespace", .text, .text p.podNamespace)]⟩

/-- The record of a snapshot as it is answered. -/
def snapshotShown (p : PodPoint) : Row :=
  [("ts", .text (WallClock.ofSeconds p.time).instantText), ("value", .float p.value),
    ("metric_name", .text p.metric), ("pod", .text p.name), ("namespace", .text p.podNamespace)]

/-- The record of a series as it is answered. -/
def seriesShown (p : PodPoint) : Row :=
  [("value", .float p.value), ("bucket", .text (WallClock.ofSeconds p.time).dateTimeText),
    ("metric_name", .text p.metric), ("pod", .text p.name), ("namespace", .text p.podNamespace)]

end PodPoint

/-- The points of pods whose names are **not hidden**. -/
def shownPoints (points : List PodPoint) : List PodPoint := points.filter fun p => !isHidden p.name

/-- Where points differ, so do **those that are shown**. -/
theorem nodup_map_shownPoints {β : Type} {f : PodPoint → β} {points : List PodPoint}
    (differ : (points.map f).Nodup) : ((shownPoints points).map f).Nodup :=
  differ.sublist (List.filter_sublist.map f)

/-- How data **hold the records of pods**: each point has a record, and there is one point for a pod
and what its record bears besides the value. So what records bear tells them apart exactly if no two
pods share it. -/
structure HoldsPods {π : Type} (data : Value) (points : List PodPoint) (bears : PodPoint → π)
    (shown : PodPoint → Row) : Prop where
  held : data.records.Perm (points.map fun p => .dict (shown p))
  differ : (points.map fun p => (p.pod, bears p)).Nodup
  unambiguous : (points.map bears).Nodup ↔
    ∀ p ∈ points, ∀ q ∈ points, bears p = bears q → p.pod = q.pod

/-- Points of distinct pods and places **bear distinct names** exactly if no two pods share them. -/
theorem bears_nodup_iff {π : Type} {points : List PodPoint} {bears : PodPoint → π}
    (differ : (points.map fun p => (p.pod, bears p)).Nodup) :
    (points.map bears).Nodup ↔
      ∀ p ∈ points, ∀ q ∈ points, bears p = bears q → p.pod = q.pod := by
  constructor
  · intro h p hp q hq hbears
    rw [List.inj_on_of_nodup_map h hp hq hbears]
  · intro h
    refine (List.Nodup.of_map _ differ).map_on fun p hp q hq hbears => ?_
    exact List.inj_on_of_nodup_map differ hp hq (Prod.ext (h p hp q hq hbears) hbears)

/-! ## Snapshots -/

/-- The **point of a sum** that lacks no name and is finite. -/
def Rollup.podPoint? (r : Rollup PodPath) : Option PodPoint := do
  let pod ← r.subject.pod.id
  let name ← r.subject.pod.name
  let podNamespace ← r.subject.podNamespace.name
  let metric ← r.metricName
  let ts ← r.ts
  let sum ← r.value
  if Decimal.isFinite sum then some ⟨pod, name, podNamespace, metric, ts, roundTo 2 sum⟩ else none

/-- A sum has a point **if it is complete and finite**. -/
theorem podPoint?_eq_some_iff {r : Rollup PodPath} {p : PodPoint} :
    r.podPoint? = some p ↔ r.subject.pod.id = some p.pod ∧ r.subject.pod.name = some p.name ∧
      r.subject.podNamespace.name = some p.podNamespace ∧ r.metricName = some p.metric ∧
      r.ts = some p.time ∧
      ∃ sum, r.value = some sum ∧ Decimal.isFinite sum = true ∧ roundTo 2 sum = p.value := by
  obtain ⟨pod, name, podNamespace, metric, time, value⟩ := p
  simp only [Rollup.podPoint?, Option.bind_eq_bind, Option.bind_eq_some_iff,
    Option.ite_none_right_eq_some, Option.some.injEq, PodPoint.mk.injEq]
  constructor
  · rintro ⟨_, hpod, _, hname, _, hspace, _, hmetric, _, hts, sum, hsum, hfinite, rfl, rfl, rfl,
      rfl, rfl, rfl⟩
    exact ⟨hpod, hname, hspace, hmetric, hts, sum, hsum, hfinite, rfl⟩
  · rintro ⟨hpod, hname, hspace, hmetric, hts, sum, hsum, hfinite, hvalue⟩
    exact ⟨_, hpod, _, hname, _, hspace, _, hmetric, _, hts, sum, hsum, hfinite, rfl, rfl, rfl,
      rfl, rfl, hvalue⟩

/-- The row of a pod that has an identifier is a record if its sum **has a point**. -/
theorem decode_podSnapshotRow_eq_ok_iff {r : Rollup PodPath} {n : Int}
    (hid : r.subject.pod.id = some n) {record : Record} :
    SnapshotQuery.pods.record.decode (podSnapshotRow r) = .ok record ↔
      ∃ p, r.podPoint? = some p ∧ p.snapshotRecord = record := by
  obtain ⟨fields⟩ := record
  -- a column of the row is read back as the part of the sum that it was written from
  have hts : ∀ v, FieldKind.second.decode (podSnapshotRow r) "ts" = .ok v ↔ _ :=
    fun v => @coerce_second_iff r.ts v
  have hvalue : ∀ v, FieldKind.sample.decode (podSnapshotRow r) "value" = .ok v ↔ _ :=
    fun v => @coerce_sumValue_iff r.value v
  have hmetric : ∀ v, FieldKind.text.decode (podSnapshotRow r) "metric_name" = .ok v ↔ _ :=
    fun v => @coerce_textValue_iff r.metricName v
  have hname : ∀ v, FieldKind.text.decode (podSnapshotRow r) "pod" = .ok v ↔ _ :=
    fun v => @coerce_textValue_iff r.subject.pod.name v
  have hspace : ∀ v, FieldKind.text.decode (podSnapshotRow r) "namespace" = .ok v ↔ _ :=
    fun v => @coerce_textValue_iff r.subject.podNamespace.name v
  rw [decode_eq_ok_iff]
  constructor
  · intro h
    simp only [SnapshotQuery.record, RecordKind.fields, RecordKind.snapshotFields,
      RecordKind.podFields, List.cons_append, List.nil_append, List.forall₂_cons_left_iff,
      List.forall₂_nil_left_iff, ConvertsFrom, hts, hvalue, hmetric, hname, hspace] at h
    obtain ⟨⟨_, _, _⟩, _, ⟨rfl, rfl, ts, hts, rfl⟩,
      ⟨⟨_, _, _⟩, _, ⟨rfl, rfl, sum, hsum, hfinite, rfl⟩,
      ⟨⟨_, _, _⟩, _, ⟨rfl, rfl, metric, hmetric, rfl⟩,
      ⟨⟨_, _, _⟩, _, ⟨rfl, rfl, name, hname, rfl⟩,
      ⟨⟨_, _, _⟩, _, ⟨rfl, rfl, space, hspace, rfl⟩, rfl, rfl⟩, rfl⟩, rfl⟩, rfl⟩, rfl⟩ := h
    exact ⟨⟨n, name, space, metric, ts, _⟩,
      podPoint?_eq_some_iff.2 ⟨hid, hname, hspace, hmetric, hts, sum, hsum, hfinite, rfl⟩, rfl⟩
  · rintro ⟨p, hpoint, h⟩
    obtain ⟨-, hpname, hpspace, hpmetric, hpts, sum, hsum, hfinite, hrounded⟩ :=
      podPoint?_eq_some_iff.1 hpoint
    rw [← Record.mk.inj h]
    exact .cons ⟨rfl, rfl, (hts _).2 ⟨_, hpts, rfl⟩⟩
      (.cons ⟨rfl, rfl, (hvalue _).2 ⟨sum, hsum, hfinite, congrArg _ hrounded⟩⟩
      (.cons ⟨rfl, rfl, (hmetric _).2 ⟨_, hpmetric, rfl⟩⟩
      (.cons ⟨rfl, rfl, (hname _).2 ⟨_, hpname, rfl⟩⟩
      (.cons ⟨rfl, rfl, (hspace _).2 ⟨_, hpspace, rfl⟩⟩ .nil))))

/-- A pod that a container leads to **has an identifier**. -/
theorem exists_id_of_mem_podPaths {store : Store} {scope : Scope} {container : Option Int}
    {path : PodPath} (h : path ∈ store.podPaths scope container) :
    ∃ n, path.pod.id = some n := by
  obtain ⟨c, -, h⟩ := List.mem_flatMap.1 (List.mem_filter.1 h).1
  obtain ⟨k, -, h⟩ := List.mem_flatMap.1 h
  obtain ⟨p, hp, h⟩ := List.mem_flatMap.1 h
  obtain ⟨s, -, rfl⟩ := List.mem_map.1 h
  obtain ⟨n, -, hn⟩ := joins_iff.1 (List.mem_filter.1 hp).2
  exact ⟨n, hn⟩

section Snapshot

variable {store : Store} {scope : Scope} {filter : MetricFilter} {now : Int}

/-- A pod of a snapshot **has an identifier**. -/
theorem exists_id_of_mem_podSnapshot {r : Rollup PodPath}
    (hr : r ∈ store.podSnapshot scope filter now) : ∃ n, r.subject.pod.id = some n := by
  obtain ⟨⟨m, path⟩, hjoined, hsubject, -⟩ := exists_row_of_mem_rollup (mem_sortBy.1 hr)
  obtain ⟨l, -, hpath⟩ := List.mem_flatMap.1 hjoined
  obtain ⟨p, hp, heq⟩ := List.mem_map.1 hpath
  cases heq
  exact hsubject ▸ exists_id_of_mem_podPaths hp

variable (store scope filter now) in
/-- The **points of a snapshot** of pods. -/
def Store.podPoints : List PodPoint :=
  (store.podSnapshot scope filter now).filterMap Rollup.podPoint?

/-- The records of a snapshot are those **of its points**. -/
theorem decoded_podSnapshotRow :
    SnapshotQuery.pods.record.decoded (SnapshotQuery.pods.rows store scope filter now)
      = (store.podPoints scope filter now).map PodPoint.snapshotRecord := by
  rw [RecordKind.decoded, SnapshotQuery.rows, List.filterMap_map, Store.podPoints,
    List.map_filterMap]
  refine List.filterMap_congr fun r hr => ?_
  obtain ⟨n, hid⟩ := exists_id_of_mem_podSnapshot hr
  have hiff := @decode_podSnapshotRow_eq_ok_iff r n hid
  rw [Function.comp_apply]
  cases hdecode : SnapshotQuery.pods.record.decode (podSnapshotRow r) with
  | ok record =>
    obtain ⟨p, hpoint, rfl⟩ := hiff.1 hdecode
    rw [hpoint]
    rfl
  | error issues =>
    cases hpoint : r.podPoint? with
    | none => rfl
    | some p => cases hdecode.symm.trans (hiff.2 ⟨p, hpoint, rfl⟩)

/-- The records of a snapshot that are not hidden are those **of the points that are shown**. -/
theorem shown_podSnapshotRow :
    (DataRoute.snapshot .pods).shown (SnapshotQuery.pods.rows store scope filter now)
      = (shownPoints (store.podPoints scope filter now)).map PodPoint.snapshotRecord := by
  have hdecoded := @decoded_podSnapshotRow store scope filter now
  rw [DataRoute.shown_of_field rfl, DataRoute.record, hdecoded, List.filter_map]
  rfl

/-- A pod and a metric have **one point** in a snapshot. -/
theorem podPoints_nodup :
    ((store.podPoints scope filter now).map fun p => (p.pod, p.names)).Nodup := by
  have hsums : ((store.podSnapshot scope filter now).map (Rollup.key podKey)).Nodup :=
    ((sortBy_perm podOrder _).map _).nodup_iff.2 (rollup_keys_nodup podKey _)
  rw [Store.podPoints, List.Nodup, List.pairwise_map, List.pairwise_filterMap]
  refine (List.pairwise_map.1 hsums).imp fun {r s} hne p hp q hq heq => hne ?_
  -- the key of a sum is made of the identifier and the names of its point
  obtain ⟨hpod, hname, hspace, hmetric, -⟩ := podPoint?_eq_some_iff.1 hp
  obtain ⟨hpod', hname', hspace', hmetric', -⟩ := podPoint?_eq_some_iff.1 hq
  simp only [PodPoint.names, Prod.mk.injEq] at heq
  obtain ⟨heq, heqName, heqSpace, heqMetric⟩ := heq
  simp only [Rollup.key, podKey, hpod, hname, hspace, hmetric, hpod', hname', hspace', hmetric',
    heq, heqName, heqSpace, heqMetric]

/-- Where the records of a snapshot are answered, they are answered **as their points are
shown**. -/
theorem eq_map_snapshotShown {points : List PodPoint} {items : List Row}
    (h : (points.map PodPoint.snapshotRecord).mapM Record.dump = .ok items) :
    items = points.map PodPoint.snapshotShown := by
  rw [mapM_eq_ok_iff, List.forall₂_map_left_iff] at h
  have hshown : ∀ (p : PodPoint) (item : Row), p.snapshotRecord.dump = .ok item →
      p.snapshotShown = item := by
    intro p item hitem
    cases hdate : Record.hasDate p.time with
    | false =>
      have herror : p.snapshotRecord.dump = .error .unprintableTime := by
        simp only [Record.dump, PodPoint.snapshotRecord, List.mapM_cons, Record.dumpField, hdate]
        rfl
      cases herror.symm.trans hitem
    | true =>
      have hdump : p.snapshotRecord.dump = .ok p.snapshotShown := by
        simp only [Record.dump, PodPoint.snapshotRecord, List.mapM_cons, Record.dumpField, hdate]
        rfl
      exact Except.ok.inj (hdump.symm.trans hitem)
  have hequal : List.Forall₂ Eq (points.map PodPoint.snapshotShown) items :=
    List.forall₂_map_left_iff.2 (h.imp hshown)
  exact (List.forall₂_eq_eq_eq ▸ hequal).symm

end Snapshot

/-! ## Series -/

/-- The **point of a cell** of a pod that has a finite value. -/
def SeriesCell.podPoint? (c : SeriesCell) : Option PodPoint :=
  match c.key with
  | [.int pod, .text name, .text podNamespace, .text metric] =>
    if c.isFinite then some ⟨pod, name, podNamespace, metric, c.bucket, roundTo 2 c.value⟩ else none
  | _ => none

section Series

/-- A cell of a pod has a point **if its value is finite**, and is answered as its point is
shown, unless this is hidden. -/
theorem podPoint?_of_fitsKey {c : SeriesCell} (hkey : SeriesQuery.pods.FitsKey c.key) :
    (c.isFinite = false ∧ c.podPoint? = none) ∨
      c.isFinite = true ∧ ∃ p, c.podPoint? = some p ∧ SeriesQuery.pods.shown c = p.seriesShown ∧
        SeriesQuery.pods.hides c = isHidden p.name := by
  obtain ⟨pod, name, podNamespace, metric, hkey⟩ := hkey
  obtain ⟨key, bucket, value⟩ := c
  obtain rfl : key = [.int pod, .text name, .text podNamespace, .text metric] := hkey
  by_cases hfinite : Decimal.isFinite value = true
  · exact .inr ⟨hfinite, _, if_pos hfinite, rfl, rfl⟩
  · exact .inl ⟨Bool.eq_false_iff.2 hfinite, if_neg hfinite⟩

variable {cells : List SeriesCell}

/-- The cells of pods with finite values are answered **as the points that are shown**. -/
theorem map_shown_pods (hkeys : ∀ c ∈ cells, SeriesQuery.pods.FitsKey c.key) :
    ((cells.filter fun c => c.isFinite && !SeriesQuery.pods.hides c).map
        fun c => Value.dict (SeriesQuery.pods.shown c))
      = (shownPoints (cells.filterMap SeriesCell.podPoint?)).map fun p => .dict p.seriesShown := by
  induction cells with
  | nil => rfl
  | cons c cells ih =>
    have ih := ih fun d hd => hkeys d (List.mem_cons_of_mem c hd)
    rw [shownPoints] at ih ⊢
    rcases podPoint?_of_fitsKey (hkeys c List.mem_cons_self) with
      ⟨hfinite, hpoint⟩ | ⟨hfinite, p, hpoint, hshown, hhides⟩
    · rw [List.filter_cons_of_neg (by simp [hfinite]), List.filterMap_cons_none hpoint, ih]
    · rw [List.filterMap_cons_some hpoint]
      cases hidden : isHidden p.name with
      | true =>
        rw [List.filter_cons_of_neg (by simp [hhides, hidden]),
          List.filter_cons_of_neg (by simp [hidden]), ih]
      | false =>
        rw [List.filter_cons_of_pos (by simp [hfinite, hhides, hidden]),
          List.filter_cons_of_pos (by simp [hidden]), List.map_cons, List.map_cons, ih, hshown]

/-- The point of a cell is **of its place**. -/
theorem place_of_podPoint? {c : SeriesCell} {p : PodPoint} (h : c.podPoint? = some p) :
    c.place = ([.int p.pod, .text p.name, .text p.podNamespace, .text p.metric], p.time) := by
  rw [SeriesCell.podPoint?] at h
  split at h
  · rename_i pod name podNamespace metric hkey
    rw [Option.ite_none_right_eq_some] at h
    obtain ⟨-, hp⟩ := h
    obtain rfl := Option.some.inj hp
    exact Prod.ext hkey rfl
  · cases h

/-- A pod, a metric and a bucket have **one point** in a series. -/
theorem points_nodup (differ : (cells.map SeriesCell.place).Nodup) :
    ((cells.filterMap SeriesCell.podPoint?).map fun p => (p.pod, p.place)).Nodup := by
  rw [List.Nodup, List.pairwise_map, List.pairwise_filterMap]
  refine (List.pairwise_map.1 differ).imp fun {c d} hne p hp q hq heq => hne ?_
  simp only [PodPoint.place, PodPoint.names, Prod.mk.injEq] at heq
  obtain ⟨hpod, ⟨hname, hspace, hmetric⟩, htime⟩ := heq
  rw [place_of_podPoint? hp, place_of_podPoint? hq, hpod, hname, hspace, hmetric, htime]

end Series

/-! ## Answers -/

section Answers

variable {server : Server} {request : Request} {ids : PathIds} (get : request.method = "GET")
  (answered : (server.answer request).1.code = 200)
include get answered

/-- The data of a snapshot of pods **hold its points**. -/
theorem holdsPods_of_snapshot
    (found : findRoute server.config.basePath request.path = some (.data (.snapshot .pods), ids)) :
    ∃ scope names filter data,
      (DataRoute.snapshot .pods).check ids request.queryString
        = .ok (.snapshot .pods scope names) ∧
      server.backend.resolveNames names = .ok filter ∧
      (server.answer request).1.body.toValue.field? "data" = some data ∧
      HoldsPods data (shownPoints (server.backend.store.podPoints scope filter server.second))
        PodPoint.names PodPoint.snapshotShown := by
  obtain ⟨rows, hrows, hreports⟩ := reports_of_answered found get (fun _ h => by cases h) answered
  obtain ⟨scope, names, filter, hcheck, hfilter, hrun⟩ := exists_run_of_snapshot_rows hrows
  obtain rfl := SnapshotQuery.rows_of_run hrun
  obtain ⟨items, data, hitems, hdata, hperm⟩ := hreports.held
  rw [shown_podSnapshotRow] at hitems
  obtain rfl := eq_map_snapshotShown hitems
  rw [List.map_map] at hperm
  have hnodup := nodup_map_shownPoints
    (@podPoints_nodup server.backend.store scope filter server.second)
  exact ⟨scope, names, filter, data, hcheck, hfilter, hdata, hperm, hnodup, bears_nodup_iff hnodup⟩

/-- The data of a series of pods **hold the points of its cells**. -/
theorem holdsPods_of_series
    (found : findRoute server.config.basePath request.path = some (.data (.series .pods), ids)) :
    ∃ scope names rule filter rows cells data,
      (DataRoute.series .pods).check ids request.queryString
        = .ok (.series .pods scope names rule) ∧
      server.backend.resolveNames names = .ok filter ∧
      SeriesQuery.pods.cells server.backend.store scope filter rule = .ok cells ∧
      SeriesQuery.pods.Answers server.backend.store scope filter rule rows cells ∧
      (server.answer request).1.body.toValue.field? "data" = some data ∧
      HoldsPods data (shownPoints (cells.filterMap SeriesCell.podPoint?)) PodPoint.place
        PodPoint.seriesShown := by
  obtain ⟨rows, hrows, hreports⟩ := reports_of_answered found get (fun _ h => by cases h) answered
  obtain ⟨scope, names, rule, filter, hcheck, hfilter, hrun⟩ := exists_run_of_series_rows hrows
  obtain ⟨cells, hcells, hanswers⟩ := SeriesQuery.exists_answers (SeriesQuery.rows_of_run hrun)
  have hkeys : ∀ c ∈ cells, SeriesQuery.pods.FitsKey c.key :=
    fun c hc => fitsKey_of_mem_cells hcells hc
  obtain ⟨data, hdata, hperm⟩ := (accountsForCells_of_reports hanswers hkeys hreports).held
  rw [map_shown_pods hkeys] at hperm
  have hnodup := nodup_map_shownPoints (points_nodup hanswers.differ)
  exact ⟨scope, names, rule, filter, rows, cells, data, hcheck, hfilter, hcells, hanswers, hdata,
    hperm, hnodup, bears_nodup_iff hnodup⟩

/-- **Pod answers hold a record for each pod.** A `GET` request to the snapshot or the series of
pods that is answered with 200 has data that hold one record for each pod and metric, or pod, metric
and bucket, that the store has a finite value for, if the name of the pod is not hidden. A record bears
the names of the pod, its namespace and the metric, and the bucket, but not the identifier: so there is
at most one record for these names exactly if no two pods share them. -/
theorem pod_answers_hold_a_record_a_pod :
    (findRoute server.config.basePath request.path = some (.data (.snapshot .pods), ids) →
      ∃ scope names filter data,
        (DataRoute.snapshot .pods).check ids request.queryString
          = .ok (.snapshot .pods scope names) ∧
        server.backend.resolveNames names = .ok filter ∧
        (server.answer request).1.body.toValue.field? "data" = some data ∧
        HoldsPods data (shownPoints (server.backend.store.podPoints scope filter server.second))
          PodPoint.names PodPoint.snapshotShown) ∧
    (findRoute server.config.basePath request.path = some (.data (.series .pods), ids) →
      ∃ scope names rule filter rows cells data,
        (DataRoute.series .pods).check ids request.queryString
          = .ok (.series .pods scope names rule) ∧
        server.backend.resolveNames names = .ok filter ∧
        SeriesQuery.pods.cells server.backend.store scope filter rule = .ok cells ∧
        SeriesQuery.pods.Answers server.backend.store scope filter rule rows cells ∧
        (server.answer request).1.body.toValue.field? "data" = some data ∧
        HoldsPods data (shownPoints (cells.filterMap SeriesCell.podPoint?)) PodPoint.place
          PodPoint.seriesShown) :=
  ⟨holdsPods_of_snapshot get answered, holdsPods_of_series get answered⟩

end Answers

/-- A pod that was created anew: two identifiers of one name in one namespace, with a container
each. -/
def recreatedPod : Store :=
  { onePod with
    pods := [⟨some 5, some "shop", some 7⟩, ⟨some 6, some "shop", some 7⟩]
    podContainers := [⟨some 1, some "c1", some 5, none⟩, ⟨some 2, some "c2", some 6, none⟩]
    samples := [⟨some 1, some 1, some 0, some 1, some 1, some 1, some 90, some (.number 10.0)⟩,
      ⟨some 1, some 1, some 0, some 2, some 1, some 1, some 90, some (.number 5.0)⟩] }

/-- A request for the snapshot of the pods. -/
def podSnapshotRequest : Request := ⟨"GET", "/api/v1/snapshot/1/k8s/pods", "", "127.0.0.1"⟩

/-- A request for the first hour of the series of the pods. -/
def podSeriesRequest : Request := { firstHour with path := "/api/v1/metrics/1/k8s/pods" }

theorem get_podRequests : podSnapshotRequest.method = "GET" ∧ podSeriesRequest.method = "GET" :=
  ⟨rfl, rfl⟩

theorem found_podRequests :
    findRoute (serverOn recreatedPod).config.basePath podSnapshotRequest.path
        = some (.data (.snapshot .pods), [(.cluster, "1")]) ∧
      findRoute (serverOn recreatedPod).config.basePath podSeriesRequest.path
        = some (.data (.series .pods), [(.cluster, "1")]) := by
  decide +kernel

/-- The snapshot is asked for **all metrics**. -/
theorem check_podSnapshotRequest :
    (DataRoute.snapshot .pods).check [(.cluster, "1")] podSnapshotRequest.queryString
      = .ok (.snapshot .pods containerScope []) := by
  have hparams : QueryParams.parse podSnapshotRequest.queryString = [] := rfl
  rw [DataRoute.check, parse_of_no_zone hparams rfl rfl]
  rfl

/-- The series is asked for the metric **by minutes**. -/
theorem check_podSeriesRequest :
    (DataRoute.series .pods).check [(.cluster, "1")] podSeriesRequest.queryString
      = .ok (.series .pods containerScope ["cpu"] hourRule) := by
  have hparse : MetricQuery.parse podSeriesRequest.queryString = .ok hourSelection :=
    parse_firstHour
  rw [DataRoute.check, hparse]
  refine bind_eq_ok_iff.2 ⟨_, rfl, bind_eq_ok_iff.2 ⟨_, rfl, ?_⟩⟩
  rw [planSeries_hourSelection]
  rfl

theorem names_recreatedPod :
    (serverOn recreatedPod).backend.resolveNames [] = .ok [] ∧
      (serverOn recreatedPod).backend.resolveNames ["cpu"] = .ok [some 1] :=
  ⟨rfl, resolveNames_singleton rfl⟩

/-- The cells of the two pods. -/
def recreatedCells : List SeriesCell :=
  [⟨[.int 5, .text "shop", .text "prod", .text "cpu"], 60, 10.0⟩,
    ⟨[.int 6, .text "shop", .text "prod", .text "cpu"], 60, 5.0⟩]

/-- The sums of the two pods. -/
def recreatedSums : List (Rollup PodPath) :=
  [⟨⟨⟨some 5, some "shop", some 7⟩, ⟨some 7, some "prod"⟩⟩, some "cpu", some 90, some 10.0⟩,
    ⟨⟨⟨some 6, some "shop", some 7⟩, ⟨some 7, some "prod"⟩⟩, some "cpu", some 90, some 5.0⟩]

/-- The points of the two pods at a time. -/
def recreatedPoints (time : Int) : List PodPoint :=
  [⟨5, "shop", "prod", "cpu", time, 10.0⟩, ⟨6, "shop", "prod", "cpu", time, 5.0⟩]

theorem cells_recreatedPod :
    SeriesQuery.pods.cells recreatedPod containerScope [some 1] hourRule = .ok recreatedCells := by
  have hb : hourRule.bucketing = .ok (.stepped .minute 1) := rfl
  have hm : cellMeans (.stepped .minute 1)
      (SeriesQuery.pods.samples recreatedPod containerScope [some 1] hourRule) = .ok
        [⟨[.int 1, .text "total", .int 5, .text "shop", .text "prod", .text "cpu"], 60, 10.0⟩,
          ⟨[.int 2, .text "total", .int 6, .text "shop", .text "prod", .text "cpu"], 60, 5.0⟩] :=
    rfl
  rw [SeriesQuery.cells_of_cellMeans hb hm]
  exact congrArg Except.ok (sortBy_of_pairwise (by decide))

theorem podSnapshot_recreatedPod :
    recreatedPod.podSnapshot containerScope [] 100 = recreatedSums := by
  have hrollup : rollup podKey (recreatedPod.joinPods containerScope
      (recreatedPod.latestLabelled containerScope [] 100)) = recreatedSums := by
    rw [rollup, sortBy_of_pairwise (by decide)]
    rfl
  exact (congrArg (sortBy podOrder) hrollup).trans (sortBy_of_pairwise (by decide))

theorem points_recreatedPod :
    shownPoints (recreatedPod.podPoints containerScope [] 100) = recreatedPoints 90 ∧
      shownPoints (recreatedCells.filterMap SeriesCell.podPoint?) = recreatedPoints 60 := by
  have h10 : Decimal.isFinite 10.0 = true ∧ roundTo 2 10.0 = 10.0 := by decide +kernel
  have h5 : Decimal.isFinite 5.0 = true ∧ roundTo 2 5.0 = 5.0 := by decide +kernel
  have hname : isHidden "shop" = false := by decide
  rw [Store.podPoints, podSnapshot_recreatedPod]
  constructor
  · simp [recreatedSums, recreatedPoints, Rollup.podPoint?, h10, h5, shownPoints, hname]
  · simp [recreatedCells, recreatedPoints, SeriesCell.podPoint?, SeriesCell.isFinite, h10, h5,
      shownPoints, hname]

theorem store_recreatedPod : (serverOn recreatedPod).backend.store = recreatedPod := rfl

/-- The snapshot and the series of the two pods **are answered**. -/
theorem code_recreatedPod :
    ((serverOn recreatedPod).answer podSnapshotRequest).1.code = 200 ∧
      ((serverOn recreatedPod).answer podSeriesRequest).1.code = 200 := by
  constructor
  · have hdated : (DataRoute.snapshot .pods).IsDated (serverOn recreatedPod).second := by
      rw [second_serverOn]
      exact fun _ _ => ⟨rfl, rfl⟩
    refine (code_answer_of_isDated found_podRequests.1 get_podRequests.1 hdated).2
      ⟨recreatedSums.map podSnapshotRow, ?_⟩
    rw [DataRoute.rows, check_podSnapshotRequest, ← podSnapshot_recreatedPod]
    rfl
  · exact code_of_series_run found_podRequests.2 get_podRequests.2 check_podSeriesRequest
      names_recreatedPod.2 (SeriesQuery.rows_eq_ok_iff.2 ⟨_, cells_recreatedPod, rfl⟩)

/-- Both pods of one name have a record in the snapshot and in the series. -/
theorem records_of_a_recreated_pod :
    (findRoute (serverOn recreatedPod).config.basePath podSnapshotRequest.path
        = some (.data (.snapshot .pods), [(.cluster, "1")]) ∧
      podSnapshotRequest.method = "GET" ∧
      ((serverOn recreatedPod).answer podSnapshotRequest).1.code = 200 ∧
      ∃ data, ((serverOn recreatedPod).answer podSnapshotRequest).1.body.toValue.field? "data"
          = some data ∧
        HoldsPods data (recreatedPoints 90) PodPoint.names PodPoint.snapshotShown) ∧
    findRoute (serverOn recreatedPod).config.basePath podSeriesRequest.path
        = some (.data (.series .pods), [(.cluster, "1")]) ∧
      podSeriesRequest.method = "GET" ∧
      ((serverOn recreatedPod).answer podSeriesRequest).1.code = 200 ∧
      ∃ data, ((serverOn recreatedPod).answer podSeriesRequest).1.body.toValue.field? "data"
          = some data ∧
        HoldsPods data (recreatedPoints 60) PodPoint.place PodPoint.seriesShown := by
  obtain ⟨hget, hget'⟩ := get_podRequests
  obtain ⟨hcode, hcode'⟩ := code_recreatedPod
  constructor
  · obtain ⟨scope, names, filter, data, hcheck, hfilter, hdata, hpoints⟩ :=
      (pod_answers_hold_a_record_a_pod hget hcode).1 found_podRequests.1
    rw [check_podSnapshotRequest] at hcheck
    cases hcheck
    obtain rfl := Except.ok.inj (names_recreatedPod.1.symm.trans hfilter)
    refine ⟨found_podRequests.1, hget, hcode, data, hdata, ?_⟩
    rw [← points_recreatedPod.1]
    exact hpoints
  · obtain ⟨scope, names, rule, filter, rows, cells, data, hcheck, hfilter, hcells, -, hdata,
      hpoints⟩ := (pod_answers_hold_a_record_a_pod hget' hcode').2 found_podRequests.2
    rw [check_podSeriesRequest] at hcheck
    cases hcheck
    obtain rfl := Except.ok.inj (names_recreatedPod.2.symm.trans hfilter)
    rw [store_recreatedPod, cells_recreatedPod] at hcells
    obtain rfl := Except.ok.inj hcells
    refine ⟨found_podRequests.2, hget', hcode', data, hdata, ?_⟩
    rw [← points_recreatedPod.2]
    exact hpoints

/-- The records of two pods of one name in one namespace **bear the same names**, in the snapshot
and in the series. -/
theorem records_of_a_recreated_pod_are_ambiguous :
    recreatedPod.HasUniqueIds ∧
    (((serverOn recreatedPod).answer podSnapshotRequest).1.code = 200 ∧
      ∃ data, ((serverOn recreatedPod).answer podSnapshotRequest).1.body.toValue.field? "data"
          = some data ∧
        data.records.Perm ((recreatedPoints 90).map fun p => .dict p.snapshotShown) ∧
        ¬((recreatedPoints 90).map PodPoint.names).Nodup) ∧
    ((serverOn recreatedPod).answer podSeriesRequest).1.code = 200 ∧
      ∃ data, ((serverOn recreatedPod).answer podSeriesRequest).1.body.toValue.field? "data"
          = some data ∧
        data.records.Perm ((recreatedPoints 60).map fun p => .dict p.seriesShown) ∧
        ¬((recreatedPoints 60).map PodPoint.place).Nodup := by
  obtain ⟨hget, hget'⟩ := get_podRequests
  obtain ⟨hcode, hcode'⟩ := code_recreatedPod
  refine ⟨by constructor <;> decide, ⟨hcode, ?_⟩, hcode', ?_⟩
  · obtain ⟨scope, names, filter, data, hcheck, hfilter, hdata, hpoints⟩ :=
      holdsPods_of_snapshot hget hcode found_podRequests.1
    rw [check_podSnapshotRequest] at hcheck
    cases hcheck
    obtain rfl := Except.ok.inj (names_recreatedPod.1.symm.trans hfilter)
    refine ⟨data, hdata, ?_, by decide⟩
    rw [← points_recreatedPod.1]
    exact hpoints.held
  · obtain ⟨scope, names, rule, filter, rows, cells, data, hcheck, hfilter, hcells, -, hdata,
      hpoints⟩ := holdsPods_of_series hget' hcode' found_podRequests.2
    rw [check_podSeriesRequest] at hcheck
    cases hcheck
    obtain rfl := Except.ok.inj (names_recreatedPod.2.symm.trans hfilter)
    rw [store_recreatedPod, cells_recreatedPod] at hcells
    obtain rfl := Except.ok.inj hcells
    refine ⟨data, hdata, ?_, by decide⟩
    rw [← points_recreatedPod.2]
    exact hpoints.held

end ClusterMetrics
