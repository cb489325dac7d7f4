import ClusterMetrics.Proofs.AnsweredRecords
import ClusterMetrics.Proofs.SeriesRollups

/-! # Records of series

The cells of a series have complete keys, so their rows lack no field, and only the value decides
whether a row is a record. A cell without a finite value is skipped.

* **`SeriesQuery.place`**: the place of a sample in an answer. **`mem_answer_places_iff`**: the
  cells of an answer are at the places of complete samples.
* **`SeriesQuery.FitsKey`**: the keys of an answer. **`fitsKey_of_mem_cells`**: its cells have them.
* **`SeriesQuery.point`**, **`SeriesQuery.shown`**: the record of a cell, and what is answered.
  **`SeriesQuery.hides`**: whether it is hidden.
* **`decode_seriesRow_eq_ok_iff`**: which rows are records. **`decoded_seriesRow`**,
  **`skipped_seriesRow`**: the records of an answer, and how many cells are skipped.
  **`shown_seriesRow`**: the records that are not hidden.
* **`SeriesQuery.members`**, **`SeriesQuery.valueOf`**: the samples of a place, and their value.
* **`SeriesQuery.Answers`**, **`SeriesQuery.exists_answers`**: the cells that answer a series. -/

namespace ClusterMetrics

open ClusterMetrics.Decimal ClusterMetrics.Calendar

/-! ## Places -/

/-- The **place of a sample** in an answer: the part of its key that the answer keeps, and its
bucket. -/
def SeriesQuery.place (query : SeriesQuery) (bucketing : Bucketing) (s : KeyedSample) :
    List Cell × Int :=
  (query.part s.key, bucketing.bucket s.ts)

section Answers

variable {query : SeriesQuery} {bucketing : Bucketing} {samples : List KeyedSample}
  {means : List SeriesCell}

/-- **No two cells** of an answer are of one place. -/
theorem answer_places_nodup (h : cellMeans bucketing samples = .ok means) :
    ((query.answer means).map SeriesCell.place).Nodup := by
  have hsorted : ∀ {order : List Cell → List Cell} {cells : List SeriesCell},
      (cells.map SeriesCell.place).Nodup → ((inOrder order cells).map SeriesCell.place).Nodup :=
    fun hcells => ((sortBy_perm _ _).map _).nodup_iff.2 hcells
  cases query with
  | entities kind => exact hsorted (cellMeans_places_nodup h)
  | pods => exact hsorted addUp_places_nodup
  | clusterSummary => exact hsorted addUp_places_nodup

/-- The cells of an answer are at **the places of complete samples**. -/
theorem mem_answer_places_iff (h : cellMeans bucketing samples = .ok means)
    {place : List Cell × Int} :
    place ∈ (query.answer means).map SeriesCell.place ↔
      ∃ s ∈ samples, isComplete s.key = true ∧ query.place bucketing s = place := by
  have hsorted : ∀ {order : List Cell → List Cell} {cells : List SeriesCell},
      place ∈ (inOrder order cells).map SeriesCell.place ↔ place ∈ cells.map SeriesCell.place :=
    ((sortBy_perm _ _).map _).mem_iff
  have hmeans : place ∈ means.map SeriesCell.place ↔
      ∃ s ∈ samples, isComplete s.key = true ∧ s.place bucketing = place := by
    rw [List.mem_map]
    constructor
    · rintro ⟨c, hc, rfl⟩
      exact ((mem_cellMeans_iff h).1 hc).1
    · rintro ⟨s, hs, hcomplete, rfl⟩
      exact exists_mem_cellMeans h hs hcomplete
  have hsums : ∀ {part : List Cell → List Cell},
      place ∈ (addUp part means).map SeriesCell.place ↔
        ∃ s ∈ samples, isComplete s.key = true ∧ (part s.key, bucketing.bucket s.ts) = place := by
    intro part
    rw [List.mem_map]
    constructor
    · rintro ⟨c, hc, rfl⟩
      exact ((mem_addUp_cellMeans_iff h).1 hc).1
    · rintro ⟨s, hs, hcomplete, rfl⟩
      obtain ⟨d, hd, hdplace⟩ := exists_mem_cellMeans h hs hcomplete
      obtain ⟨hkey, hbucket⟩ := Prod.mk.inj hdplace
      obtain ⟨c, hc, hcplace⟩ := exists_mem_addUp part hd
      exact ⟨c, hc, by rw [hcplace, hkey, hbucket]⟩
  cases query with
  | entities kind => exact hsorted.trans hmeans
  | pods => exact hsorted.trans hsums
  | clusterSummary => exact hsorted.trans hsums

end Answers

/-! ## Keys -/

/-- Whether a key has **the shape of a query's keys**, with no part absent. -/
def SeriesQuery.FitsKey : SeriesQuery → List Cell → Prop
  | entities _, key =>
    ∃ name id metric label, key = [.text name, .int id, .text metric, .text label]
  | pods, key =>
    ∃ id pod podNamespace metric, key = [.int id, .text pod, .text podNamespace, .text metric]
  | clusterSummary, key => ∃ metric, key = [.text metric]

theorem exists_int_of_ne_null {n : Option Int} (h : (Cell.ofInt n != .null) = true) :
    ∃ m, Cell.ofInt n = .int m := by
  cases n with
  | none => cases h
  | some m => exact ⟨m, rfl⟩

theorem exists_text_of_ne_null {s : Option String} (h : (Cell.ofText s != .null) = true) :
    ∃ t, Cell.ofText s = .text t := by
  cases s with
  | none => cases h
  | some t => exact ⟨t, rfl⟩

section Keys

variable {query : SeriesQuery} {store : Store} {scope : Scope} {filter : MetricFilter}
  {rule : BucketRule}

/-- What an answer keeps of a complete key **fits the query**. -/
theorem fitsKey_of_isComplete {s : KeyedSample} (hs : s ∈ query.samples store scope filter rule)
    (hcomplete : isComplete s.key = true) : query.FitsKey (query.part s.key) := by
  cases query with
  | entities kind =>
    obtain ⟨r, -, rfl⟩ := List.mem_map.1 hs
    simp only [isComplete, keyed, List.all_cons, List.all_nil, Bool.and_eq_true, and_true]
      at hcomplete
    obtain ⟨hname, hid, hmetric, hlabel⟩ := hcomplete
    obtain ⟨name, hname⟩ := exists_text_of_ne_null hname
    obtain ⟨id, hid⟩ := exists_int_of_ne_null hid
    obtain ⟨metric, hmetric⟩ := exists_text_of_ne_null hmetric
    obtain ⟨label, hlabel⟩ := exists_text_of_ne_null hlabel
    exact ⟨name, id, metric, label, by
      simp only [SeriesQuery.part, keyed, hname, hid, hmetric, hlabel]⟩
  | pods =>
    obtain ⟨r, -, rfl⟩ := List.mem_map.1 hs
    simp only [isComplete, keyed, List.all_cons, List.all_nil, Bool.and_eq_true, and_true]
      at hcomplete
    obtain ⟨-, -, hid, hpod, hspace, hmetric⟩ := hcomplete
    obtain ⟨id, hid⟩ := exists_int_of_ne_null hid
    obtain ⟨pod, hpod⟩ := exists_text_of_ne_null hpod
    obtain ⟨podNamespace, hspace⟩ := exists_text_of_ne_null hspace
    obtain ⟨metric, hmetric⟩ := exists_text_of_ne_null hmetric
    exact ⟨id, pod, podNamespace, metric, by
      simp only [SeriesQuery.part, keyed, hid, hpod, hspace, hmetric]; rfl⟩
  | clusterSummary =>
    obtain ⟨m, -, rfl⟩ := List.mem_map.1 hs
    simp only [isComplete, keyed, List.all_cons, List.all_nil, Bool.and_eq_true, and_true]
      at hcomplete
    obtain ⟨-, -, hmetric⟩ := hcomplete
    obtain ⟨metric, hmetric⟩ := exists_text_of_ne_null hmetric
    exact ⟨metric, by simp only [SeriesQuery.part, keyed, hmetric]; rfl⟩

/-- The cells of a series have **keys that fit**. -/
theorem fitsKey_of_mem_cells {cells : List SeriesCell}
    (h : query.cells store scope filter rule = .ok cells) {c : SeriesCell} (hc : c ∈ cells) :
    query.FitsKey c.key := by
  rcases SeriesQuery.cells_eq_ok_iff.1 h with ⟨-, rfl⟩ | ⟨-, bucketing, means, -, hm, rfl⟩
  · cases hc
  · obtain ⟨s, hs, hcomplete, hplace⟩ := (mem_answer_places_iff hm).1 (List.mem_map_of_mem hc)
    have hkey : query.part s.key = c.key := congrArg Prod.fst hplace
    exact hkey ▸ fitsKey_of_isComplete hs hcomplete

end Keys

/-! ## Records -/

/-- Whether a cell has a **finite** value. -/
def SeriesCell.isFinite (c : SeriesCell) : Bool := Decimal.isFinite c.value

/-- A cell with its value **rounded** to two places. -/
def SeriesCell.rounded (c : SeriesCell) : SeriesCell := { c with value := roundTo 2 c.value }

namespace SeriesQuery

/-- The **record of a cell**: the fields of its row, with the value rounded. -/
def point (query : SeriesQuery) (c : SeriesCell) : Record :=
  ⟨query.record.fields.map fun f =>
    (f.1, f.2, ((seriesRow query.keyNames c.rounded).get? f.1).getD .null)⟩

/-- Whether the name of the entity or pod that a cell is of is **hidden**. -/
def hides (query : SeriesQuery) (c : SeriesCell) : Bool :=
  match query, c.key with
  | entities _, .text name :: _ => isHidden name
  | pods, _ :: .text pod :: _ => isHidden pod
  | _, _ => false

/-- The record of a cell **as it is answered**: the bucket is told as a text. -/
def shown (query : SeriesQuery) (c : SeriesCell) : Row :=
  (query.point c).fields.map fun f =>
    (f.1, match f.2.1 with
      | .bucket => .text (WallClock.ofSeconds c.bucket).dateTimeText
      | _ => f.2.2)

variable {query : SeriesQuery} {c : SeriesCell}

/-- The row of a cell with a finite value **converts** to its record. -/
theorem decode_seriesRow_of_isFinite (hkey : query.FitsKey c.key) (hfinite : c.isFinite = true) :
    query.record.decode (seriesRow query.keyNames c) = .ok (query.point c) := by
  obtain ⟨key, bucket, value⟩ := c
  have hvalue : FieldKind.sample.coerce (.float value) = .ok (.float (roundTo 2 value)) :=
    if_pos hfinite
  rw [decode_eq_ok_iff, point, List.forall₂_map_right_iff, List.forall₂_same]
  intro f hf
  refine ⟨rfl, rfl, ?_⟩
  -- every field but the value is converted to itself
  cases query with
  | entities kind =>
    obtain ⟨name, id, metric, label, rfl⟩ := hkey
    cases kind <;>
    · simp only [record, RecordKind.fields, RecordKind.seriesFields, RecordKind.entityFields,
        List.cons_append, List.nil_append, List.mem_cons, List.not_mem_nil, or_false] at hf
      rcases hf with rfl | rfl | rfl | rfl | rfl | rfl
      · exact hvalue
      all_goals rfl
  | pods =>
    obtain ⟨id, pod, podNamespace, metric, rfl⟩ := hkey
    simp only [record, RecordKind.fields, RecordKind.seriesFields, RecordKind.podFields,
      List.cons_append, List.nil_append, List.mem_cons, List.not_mem_nil, or_false] at hf
    rcases hf with rfl | rfl | rfl | rfl | rfl
    · exact hvalue
    all_goals rfl
  | clusterSummary =>
    obtain ⟨metric, rfl⟩ := hkey
    simp only [record, RecordKind.fields, RecordKind.seriesFields, List.mem_cons,
      List.not_mem_nil, or_false] at hf
    rcases hf with rfl | rfl | rfl
    · exact hvalue
    all_goals rfl

/-- The row of a cell is a record **if its value is finite**. -/
theorem decode_seriesRow_eq_ok_iff (hkey : query.FitsKey c.key) {record : Record} :
    query.record.decode (seriesRow query.keyNames c) = .ok record ↔
      c.isFinite = true ∧ query.point c = record := by
  constructor
  · intro h
    have hfield : ("value", .sample) ∈ query.record.fields := by
      cases query with
      | entities kind => cases kind <;> decide
      | pods => decide
      | clusterSummary => decide
    obtain ⟨v, w, -, hget, hv⟩ := exists_coerce_of_decode h hfield
    -- the value stands last in the row
    obtain rfl : .float c.value = w := by
      rw [seriesRow, Row.get?, Value.lookupLast, List.reverse_append] at hget
      exact Option.some.inj hget
    have hfinite : c.isFinite = true := by
      by_contra hnot
      have herror : FieldKind.sample.coerce (.float c.value) = .error .valueError := if_neg hnot
      cases herror.symm.trans hv
    exact ⟨hfinite, Except.ok.inj ((decode_seriesRow_of_isFinite hkey hfinite).symm.trans h)⟩
  · rintro ⟨hfinite, rfl⟩
    exact decode_seriesRow_of_isFinite hkey hfinite

/-- The record of a cell **is answered** as it is shown. -/
theorem dump_point (hkey : query.FitsKey c.key) : (query.point c).dump = .ok (query.shown c) := by
  obtain ⟨key, bucket, value⟩ := c
  rw [Record.dump, mapM_eq_ok_iff, shown, point, List.forall₂_map_right_iff, List.forall₂_same]
  intro f hf
  -- of the kinds of fields only the bucket is answered in another form
  cases query with
  | entities kind =>
    obtain ⟨name, id, metric, label, rfl⟩ := hkey
    cases kind <;>
    · simp only [record, RecordKind.fields, RecordKind.seriesFields, RecordKind.entityFields,
        List.cons_append, List.nil_append, List.map_cons, List.map_nil, List.mem_cons,
        List.not_mem_nil, or_false] at hf
      rcases hf with rfl | rfl | rfl | rfl | rfl | rfl
      all_goals rfl
  | pods =>
    obtain ⟨id, pod, podNamespace, metric, rfl⟩ := hkey
    simp only [record, RecordKind.fields, RecordKind.seriesFields, RecordKind.podFields,
      List.cons_append, List.nil_append, List.map_cons, List.map_nil, List.mem_cons,
      List.not_mem_nil, or_false] at hf
    rcases hf with rfl | rfl | rfl | rfl | rfl
    all_goals rfl
  | clusterSummary =>
    obtain ⟨metric, rfl⟩ := hkey
    simp only [record, RecordKind.fields, RecordKind.seriesFields, List.map_cons, List.map_nil,
      List.mem_cons, List.not_mem_nil, or_false] at hf
    rcases hf with rfl | rfl | rfl
    all_goals rfl

/-- A cell is hidden if the field that its record is **grouped by** hides it. -/
theorem hides_eq (hkey : query.FitsKey c.key) :
    query.hides c = query.groupField?.any fun field =>
      ((query.point c).get? field).any Value.isHiddenKey := by
  obtain ⟨key, bucket, value⟩ := c
  cases query with
  | entities kind =>
    obtain ⟨name, id, metric, label, rfl⟩ := hkey
    cases kind <;> rfl
  | pods =>
    obtain ⟨id, pod, podNamespace, metric, rfl⟩ := hkey
    rfl
  | clusterSummary => rfl

end SeriesQuery

section Rows

variable {query : SeriesQuery} {cells : List SeriesCell}
  (hkeys : ∀ c ∈ cells, query.FitsKey c.key)
include hkeys

/-- The records of an answer are those of its cells **with finite values**. -/
theorem decoded_seriesRow :
    query.record.decoded (cells.map (seriesRow query.keyNames))
      = (cells.filter SeriesCell.isFinite).map query.point := by
  rw [RecordKind.decoded, List.filterMap_map, ← List.filterMap_eq_map, ← List.filterMap_eq_filter,
    List.filterMap_filterMap]
  refine List.filterMap_congr fun c hc => ?_
  have hiff := @SeriesQuery.decode_seriesRow_eq_ok_iff query c (hkeys c hc)
  cases hfinite : c.isFinite with
  | true =>
    rw [Function.comp_apply, hiff.2 ⟨hfinite, rfl⟩]
    simp [Except.toOption, Option.guard, hfinite]
  | false =>
    cases hdecode : query.record.decode (seriesRow query.keyNames c) with
    | error issues => simp [Except.toOption, Option.guard, hfinite, hdecode]
    | ok record => exact absurd (hfinite.symm.trans (hiff.1 hdecode).1) (by decide)

/-- The rows of an answer that are skipped are those of its cells **without finite values**. -/
theorem skipped_seriesRow :
    (decodeRows query.record ((cells.map (seriesRow query.keyNames)).map .dict)).skipped
      = (cells.filter fun c => !c.isFinite).length := by
  have htotal := length_decoded_add_skipped query.record (cells.map (seriesRow query.keyNames))
  have hparts := cells.length_eq_length_filter_add SeriesCell.isFinite
  rw [decoded_seriesRow hkeys, List.length_map, List.length_map] at htotal
  omega

/-- The records of an answer that are not hidden are those of its cells **with finite values and a
name that is not hidden**. -/
theorem shown_seriesRow :
    (DataRoute.series query).shown (cells.map (seriesRow query.keyNames))
      = (cells.filter fun c => c.isFinite && !query.hides c).map query.point := by
  have hdecoded : (DataRoute.series query).record.decoded (cells.map (seriesRow query.keyNames))
      = (cells.filter SeriesCell.isFinite).map query.point := decoded_seriesRow hkeys
  cases hfield : query.groupField? with
  | none =>
    have hlist : (DataRoute.series query).keyOf? = none := by rw [DataRoute.keyOf?, hfield]; rfl
    rw [DataRoute.shown_of_list hlist, hdecoded]
    refine congrArg _ (List.filter_congr fun c hc => ?_)
    rw [SeriesQuery.hides_eq (hkeys c hc), hfield]
    simp
  | some field =>
    have hgroups : (DataRoute.series query).keyOf? = some (fieldKey field) := by
      rw [DataRoute.keyOf?, hfield]
      rfl
    rw [DataRoute.shown_of_field hgroups, hdecoded, List.filter_map, List.filter_filter]
    refine congrArg _ (List.filter_congr fun c hc => ?_)
    rw [SeriesQuery.hides_eq (hkeys c hc), hfield, Bool.and_comm]
    rfl

/-- The records of an answer that are not hidden **are answered** as its cells are shown. -/
theorem mapM_dump_shown_seriesRow :
    ((DataRoute.series query).shown (cells.map (seriesRow query.keyNames))).mapM Record.dump
      = .ok ((cells.filter fun c => c.isFinite && !query.hides c).map query.shown) := by
  rw [shown_seriesRow hkeys, mapM_eq_ok_iff, List.forall₂_map_left_iff,
    List.forall₂_map_right_iff, List.forall₂_same]
  intro c hc
  exact SeriesQuery.dump_point (hkeys c (List.mem_filter.1 hc).1)

end Rows

/-! ## Answers -/

namespace SeriesQuery

/-- The **members of a place**: the complete samples of a query that lie there. -/
def members (query : SeriesQuery) (store : Store) (scope : Scope) (filter : MetricFilter)
    (rule : BucketRule) (place : List Cell × Int) : List KeyedSample :=
  (query.samples store scope filter rule).filter fun s =>
    isComplete s.key && query.part s.key = place.1 && rule.bucket? s.ts = some place.2

/-- The **value of members**: an entity has the mean of their numbers, and a rollup adds up the
means of each key. -/
def valueOf (query : SeriesQuery) (members : List KeyedSample) : Float :=
  match query with
  | entities _ => mean (numbers (members.map (·.value)))
  | pods => sumOfMeans (·.key) (·.value) members
  | clusterSummary => sumOfMeans (·.key) (·.value) members

/-- How the cells of a series **answer** it: there is one for each place that has members, with
their value. The rows are those of the cells; the cells with finite values are the records, and the
others are skipped. -/
structure Answers (query : SeriesQuery) (store : Store) (scope : Scope) (filter : MetricFilter)
    (rule : BucketRule) (rows : List Row) (cells : List SeriesCell) : Prop where
  rows_eq : rows = cells.map (seriesRow query.keyNames)
  differ : (cells.map SeriesCell.place).Nodup
  filled : ∀ place, place ∈ cells.map SeriesCell.place ↔
    query.members store scope filter rule place ≠ []
  values : ∀ c ∈ cells, c.value = query.valueOf (query.members store scope filter rule c.place)
  records : query.record.decoded rows = (cells.filter SeriesCell.isFinite).map query.point
  skipped : (decodeRows query.record (rows.map .dict)).skipped
    = (cells.filter fun c => !c.isFinite).length

variable {query : SeriesQuery} {store : Store} {scope : Scope} {filter : MetricFilter}
  {rule : BucketRule}

/-- The members of a place are the complete samples **of that place**. -/
theorem members_eq {bucketing : Bucketing} (hb : rule.bucketing = .ok bucketing)
    (place : List Cell × Int) :
    query.members store scope filter rule place
      = (query.samples store scope filter rule).filter fun s =>
          isComplete s.key && query.place bucketing s = place := by
  refine List.filter_congr fun s _ => ?_
  have hbucket : rule.bucket? s.ts = some (bucketing.bucket s.ts) := by
    rw [BucketRule.bucket?, hb]
    rfl
  rw [Bool.and_assoc, hbucket, Bool.eq_iff_iff]
  simp [SeriesQuery.place, Prod.ext_iff]

/-- A cell of an answer has the value **of its members**. -/
theorem value_of_mem_answer {bucketing : Bucketing} {means : List SeriesCell}
    (hb : rule.bucketing = .ok bucketing)
    (hm : cellMeans bucketing (query.samples store scope filter rule) = .ok means) {c : SeriesCell}
    (hc : c ∈ query.answer means) :
    c.value = query.valueOf (query.members store scope filter rule c.place) := by
  have hsums : ∀ {part : List Cell → List Cell}, c ∈ addUp part means → c.value
      = sumOfMeans (·.key) (·.value) ((query.samples store scope filter rule).filter fun s =>
          isComplete s.key && (part s.key, bucketing.bucket s.ts) = c.place) := by
    intro part hc
    rw [((mem_addUp_cellMeans_iff hm).1 hc).2]
    -- the samples of a place share its bucket, so their keys alone tell the children apart
    refine sumOfMeans_congr _ fun s hs t ht => ?_
    have hbucket : ∀ u ∈ (query.samples store scope filter rule).filter fun u =>
        isComplete u.key && (part u.key, bucketing.bucket u.ts) = c.place,
        bucketing.bucket u.ts = c.bucket := by
      intro u hu
      have hcond := (List.mem_filter.1 hu).2
      rw [Bool.and_eq_true, decide_eq_true_eq] at hcond
      exact congrArg Prod.snd hcond.2
    rw [KeyedSample.place, KeyedSample.place, hbucket s hs, hbucket t ht, Prod.mk.injEq,
      and_iff_left rfl]
  rw [members_eq hb]
  cases query with
  | entities kind => exact ((mem_cellMeans_iff hm).1 (mem_inOrder.1 hc)).2
  | pods => exact hsums (mem_inOrder.1 hc)
  | clusterSummary => exact hsums (mem_inOrder.1 hc)

/-- A series that has rows **is answered** by cells. -/
theorem exists_answers {rows : List Row} (h : query.rows store scope filter rule = .ok rows) :
    ∃ cells, query.cells store scope filter rule = .ok cells ∧
      query.Answers store scope filter rule rows cells := by
  obtain ⟨cells, hcells, rfl⟩ := rows_eq_ok_iff.1 h
  have hkeys : ∀ c ∈ cells, query.FitsKey c.key := fun c hc => fitsKey_of_mem_cells hcells hc
  have hplaces : (cells.map SeriesCell.place).Nodup ∧
      (∀ place, place ∈ cells.map SeriesCell.place ↔
        query.members store scope filter rule place ≠ []) ∧
      ∀ c ∈ cells, c.value = query.valueOf (query.members store scope filter rule c.place) := by
    rcases cells_eq_ok_iff.1 hcells with ⟨hnone, rfl⟩ | ⟨-, bucketing, means, hb, hm, rfl⟩
    · refine ⟨List.nodup_nil, fun place => ?_, fun _ hc => by cases hc⟩
      simp [members, hnone]
    · refine ⟨answer_places_nodup hm, fun place => ?_, fun _ hc => value_of_mem_answer hb hm hc⟩
      rw [mem_answer_places_iff hm, members_eq hb, ne_eq, List.filter_eq_nil_iff]
      simp
  obtain ⟨hdiffer, hfilled, hvalues⟩ := hplaces
  exact ⟨cells, hcells, rfl, hdiffer, hfilled, hvalues, decoded_seriesRow hkeys,
    skipped_seriesRow hkeys⟩

end SeriesQuery

end ClusterMetrics
