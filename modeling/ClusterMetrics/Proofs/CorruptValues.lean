import ClusterMetrics.Proofs.AdjacentRanges
import ClusterMetrics.Proofs.AnswerAccounts
import ClusterMetrics.Proofs.AnswerableRows
import ClusterMetrics.Proofs.MetricNames
import ClusterMetrics.Proofs.PlannedWidths
import ClusterMetrics.Proofs.QueryZones
import ClusterMetrics.Proofs.SeriesRollups

/-! # Corrupt values

A sample may hold a number, nothing, an infinity or a text. Snapshots and summaries are answered
whatever it holds. A series is not: it cannot average a text, and then fails as a whole.

* **`SeriesQuery.Averages`**: whether a series averages a sample.
* **`SeriesQuery.exists_rows_iff`**: a series has rows if it averages no text.
* **`exists_bucketing_of_check`**: the zone of a checked request exists.
* **`further_sample_fails_only_series_of_texts`**: which requests a further sample fails. -/

namespace ClusterMetrics

/-! ## The samples of a series -/

namespace SeriesQuery

/-- Whether a query gives a labelled sample **a complete key**. -/
def Keys (query : SeriesQuery) (store : Store) (scope : Scope) (m : LabelledSample) : Prop :=
  match query with
  | entities kind => ∃ e ∈ kind.entities store, joins (kind.column m.sample) e.id = true ∧
      isComplete [.ofText e.name, .ofInt e.id, .ofText m.name.name, .ofText m.label.label] = true
  | pods => ∃ path ∈ store.podPaths scope m.sample.container,
      isComplete [.ofInt m.sample.container, .ofText m.label.label, .ofInt path.pod.id,
        .ofText path.pod.name, .ofText path.podNamespace.name, .ofText m.name.name] = true
  | clusterSummary =>
      isComplete [.ofInt m.sample.node, .ofText m.label.label, .ofText m.name.name] = true

/-- Whether a series **averages** a sample: it lies in the range and scope, and is labelled and
joined under a complete key. -/
def Averages (query : SeriesQuery) (store : Store) (scope : Scope) (filter : MetricFilter)
    (rule : BucketRule) (s : Sample) : Prop :=
  s.isInRange scope filter rule = true ∧ ∃ m ∈ store.labelled [s], query.Keys store scope m

variable {query : SeriesQuery} {store : Store} {scope : Scope} {filter : MetricFilter}
  {rule : BucketRule}

/-- The keyed samples of a query are made of **the labelled samples** it keys. -/
theorem exists_mem_samples_iff {p : Option Reading → Prop} :
    (∃ k ∈ query.samples store scope filter rule, isComplete k.key = true ∧ p k.value) ↔
      ∃ m ∈ store.inRange scope filter rule, query.Keys store scope m ∧ p m.sample.value := by
  cases query with
  | entities kind =>
    constructor
    · rintro ⟨k, hk, hcomplete, hp⟩
      obtain ⟨r, hr, rfl⟩ := List.mem_map.1 hk
      obtain ⟨m, hm, hr⟩ := List.mem_flatMap.1 hr
      obtain ⟨e, he, rfl⟩ := List.mem_map.1 hr
      obtain ⟨he, hjoins⟩ := List.mem_filter.1 he
      exact ⟨m, hm, ⟨e, he, hjoins, hcomplete⟩, hp⟩
    · rintro ⟨m, hm, ⟨e, he, hjoins, hcomplete⟩, hp⟩
      have hr : (m, e) ∈ kind.join store (store.inRange scope filter rule) :=
        List.mem_flatMap.2 ⟨m, hm, List.mem_map.2 ⟨e, List.mem_filter.2 ⟨he, hjoins⟩, rfl⟩⟩
      exact ⟨_, List.mem_map.2 ⟨(m, e), hr, rfl⟩, hcomplete, hp⟩
  | pods =>
    constructor
    · rintro ⟨k, hk, hcomplete, hp⟩
      obtain ⟨r, hr, rfl⟩ := List.mem_map.1 hk
      obtain ⟨m, hm, hr⟩ := List.mem_flatMap.1 hr
      obtain ⟨path, hpath, rfl⟩ := List.mem_map.1 hr
      exact ⟨m, hm, ⟨path, hpath, hcomplete⟩, hp⟩
    · rintro ⟨m, hm, ⟨path, hpath, hcomplete⟩, hp⟩
      have hr : (m, path) ∈ store.joinPods scope (store.inRange scope filter rule) :=
        List.mem_flatMap.2 ⟨m, hm, List.mem_map.2 ⟨path, hpath, rfl⟩⟩
      exact ⟨_, List.mem_map.2 ⟨(m, path), hr, rfl⟩, hcomplete, hp⟩
  | clusterSummary =>
    -- a node is rounded if the column has a gap, and is there as before
    have hcomplete : ∀ (isWhole : Bool) (m : LabelledSample),
        isComplete [nodeCell isWhole m.sample.node, .ofText m.label.label, .ofText m.name.name]
          = isComplete [.ofInt m.sample.node, .ofText m.label.label, .ofText m.name.name] := by
      intro isWhole m
      simp only [isComplete, List.all_cons, nodeCell_ne_null, ofInt_ne_null]
    constructor
    · rintro ⟨k, hk, hk', hp⟩
      obtain ⟨m, hm, rfl⟩ := List.mem_map.1 hk
      exact ⟨m, hm, (hcomplete _ m).symm.trans hk', hp⟩
    · rintro ⟨m, hm, hm', hp⟩
      exact ⟨_, List.mem_map.2 ⟨m, hm, rfl⟩, (hcomplete _ m).trans hm', hp⟩

/-- The keyed samples of a query are made of **the samples** it averages. -/
theorem exists_averages_iff {p : Option Reading → Prop} :
    (∃ k ∈ query.samples store scope filter rule, isComplete k.key = true ∧ p k.value) ↔
      ∃ s ∈ store.samples, query.Averages store scope filter rule s ∧ p s.value := by
  rw [exists_mem_samples_iff]
  constructor
  · rintro ⟨m, hm, hkeys, hp⟩
    obtain ⟨s, hs, hlabelled⟩ := List.mem_flatMap.1 hm
    obtain ⟨hs, hrange⟩ := List.mem_filter.1 hs
    have hm' : m ∈ store.labelled [s] := by simpa [Store.labelled] using hlabelled
    obtain hsample : m.sample = s := List.mem_singleton.1 (sample_of_mem_labelled hm')
    exact ⟨s, hs, ⟨hrange, m, hm', hkeys⟩, hsample ▸ hp⟩
  · rintro ⟨s, hs, ⟨hrange, m, hm, hkeys⟩, hp⟩
    obtain hsample : m.sample = s := List.mem_singleton.1 (sample_of_mem_labelled hm)
    have hlabelled : m ∈ store.inRange scope filter rule := by
      refine List.mem_flatMap.2 ⟨s, List.mem_filter.2 ⟨hs, hrange⟩, ?_⟩
      simpa [Store.labelled] using hm
    exact ⟨m, hlabelled, hkeys, hsample.symm ▸ hp⟩

/-- What holds of every value that is averaged holds of the values **of the samples** averaged. -/
theorem forall_averages_iff (p : Option Reading → Prop) :
    (∀ k ∈ query.samples store scope filter rule, isComplete k.key = true → p k.value) ↔
      ∀ s ∈ store.samples, query.Averages store scope filter rule s → p s.value := by
  have h := not_congr (@exists_averages_iff query store scope filter rule fun v => ¬p v)
  simpa only [not_exists, not_and, not_not] using h

/-- A series has rows if it **averages no text**. -/
theorem exists_rows_iff {bucketing : Bucketing} (hb : rule.bucketing = .ok bucketing) :
    (∃ rows, query.rows store scope filter rule = .ok rows) ↔
      ∀ s ∈ store.samples, query.Averages store scope filter rule s → isText s.value = false := by
  refine Iff.trans ?_ (forall_averages_iff fun v => isText v = false)
  constructor
  · rintro ⟨rows, hrows⟩
    obtain ⟨cells, hcells, -⟩ := rows_eq_ok_iff.1 hrows
    rcases cells_eq_ok_iff.1 hcells with ⟨hnone, -⟩ | ⟨-, bucketing', means, -, hmeans, -⟩
    · rw [hnone]
      exact fun _ hk => by cases hk
    · exact (cellMeans_eq_ok_iff.1 hmeans).1
  · intro htext
    exact ⟨_, rows_eq_ok_iff.2
      ⟨_, cells_of_cellMeans hb (cellMeans_eq_ok_iff.2 ⟨htext, rfl⟩), rfl⟩⟩

end SeriesQuery

/-! ## The zone of a checked request -/

/-- A rule has **the zone that was asked for**, or none. -/
theorem zoneName_of_planBuckets {range : List String} {zone granularity : String}
    {rule : BucketRule} (h : planBuckets range zone granularity = .ok rule) (hzone : zone ≠ "") :
    rule.zoneName = none ∨ rule.zoneName = some zone := by
  obtain ⟨_, _, _, _, -, -, -, -, rfl⟩ := planBuckets_eq_ok_iff.1 h
  cases Calendar.CalendarUnit.ofName? granularity with
  | none => exact .inl rfl
  | some unit => exact .inr (congrArg some (if_neg hzone))

/-- The rule of a checked series **puts instants into buckets**. -/
theorem exists_bucketing_of_check {route : DataRoute} {ids : PathIds} {queryString : String}
    {query : SeriesQuery} {scope : Scope} {names : List String} {rule : BucketRule}
    (h : route.check ids queryString = .ok (.series query scope names rule)) :
    ∃ bucketing, rule.bucketing = .ok bucketing := by
  cases route with
  | series query' =>
    obtain ⟨selection, hparse, h⟩ := bind_eq_ok_iff.1 h
    obtain ⟨scope', -, h⟩ := bind_eq_ok_iff.1 h
    obtain ⟨rule', hrule, h⟩ := bind_eq_ok_iff.1 h
    cases h
    obtain ⟨hname, zone, hzone⟩ := MetricQuery.find_of_parse hparse
    have hplan : planBuckets selection.dateRange selection.zoneName selection.granularity
        = .ok rule := by
      rw [MetricQuery.planSeries] at hrule
      split at hrule
      · cases hrule
      · generalize planBuckets selection.dateRange selection.zoneName selection.granularity = plan
          at hrule
        cases plan with
        | error f => cases hrule
        | ok planned => rw [Except.ok.inj hrule]
    rcases zoneName_of_planBuckets hplan hname with hnone | hsome
    · exact ⟨.stepped rule.unit rule.width, by rw [BucketRule.bucketing, hnone]⟩
    · exact ⟨.calendar rule.unit zone, by simp only [BucketRule.bucketing, hsome, hzone]⟩
  | snapshot query' =>
    obtain ⟨selection, -, h⟩ := bind_eq_ok_iff.1 h
    obtain ⟨scope', -, h⟩ := bind_eq_ok_iff.1 h
    cases h
  | summary query' =>
    obtain ⟨scope', -, h⟩ := map_eq_ok_iff.1 h
    cases h
  | clusterAgents =>
    obtain ⟨scope', -, h⟩ := map_eq_ok_iff.1 h
    cases h
  | clusterNodes =>
    obtain ⟨scope', -, h⟩ := map_eq_ok_iff.1 h
    cases h
  | _ => cases h

/-! ## A further sample -/

/-- A store as a server finds it, with **other samples**. -/
def Backend.withSamples (backend : Backend) (samples : List Sample) : Backend :=
  { backend with store := { backend.store with samples := samples } }

/-- A server whose store holds **other samples**. -/
def Server.withSamples (server : Server) (samples : List Sample) : Server :=
  { server with backend := server.backend.withSamples samples }

/-- Whether a request is for a series that **averages** a sample. -/
def StoreRequest.Averages (request : StoreRequest) (backend : Backend) (m : Sample) : Prop :=
  ∃ query scope names rule filter, request = .series query scope names rule ∧
    backend.resolveNames names = .ok filter ∧ query.Averages backend.store scope filter rule m

section Samples

variable (backend : Backend) (samples samples' : List Sample)

/-- Whether a statement can be run does not depend **on the samples**. -/
theorem exists_map_query_iff {tables : List TableName} {numbers : List Int} {others : Nat}
    {α : Type} {f : Store → α} :
    (∃ a, ((backend.withSamples samples).query tables numbers others).map f = .ok a) ↔
      backend.access tables numbers others = .ok () := by
  have haccess : (backend.withSamples samples).access tables numbers others
      = backend.access tables numbers others := rfl
  rw [Backend.query, haccess]
  cases backend.access tables numbers others <;> simp [Except.map]

/-- What names stand for does not depend **on the samples**. -/
theorem resolveNames_withSamples (names : List String) :
    (backend.withSamples samples).resolveNames names = backend.resolveNames names := by
  simp only [Backend.resolveNames, Backend.query]
  have haccess : (backend.withSamples samples).access [.metricNames] [] names.length
      = backend.access [.metricNames] [] names.length := rfl
  rw [haccess]
  cases backend.access [.metricNames] [] names.length <;> rfl

/-- What follows on names is reached **over any samples**. -/
theorem exists_bind_resolveNames_iff {names : List String} {α : Type}
    {f : MetricFilter → Except Failure α} :
    (∃ a, ((backend.withSamples samples).resolveNames names).bind f = .ok a) ↔
      ∃ filter, backend.resolveNames names = .ok filter ∧ ∃ a, f filter = .ok a := by
  rw [resolveNames_withSamples]
  cases backend.resolveNames names <;> simp [Except.bind]

/-- Which samples a series averages does not depend **on the others**. -/
theorem averages_withSamples {query : SeriesQuery} {scope : Scope} {filter : MetricFilter}
    {rule : BucketRule} {s : Sample} :
    query.Averages (backend.withSamples samples).store scope filter rule s ↔
      query.Averages backend.store scope filter rule s := by
  cases query with
  | entities kind => cases kind <;> exact Iff.rfl
  | pods => exact Iff.rfl
  | clusterSummary => exact Iff.rfl

/-- A series is answered if its statement can be run and it **averages no text**. -/
theorem exists_run_iff {query : SeriesQuery} {scope : Scope} {filter : MetricFilter}
    {rule : BucketRule} {bucketing : Bucketing} (hb : rule.bucketing = .ok bucketing) :
    (∃ rows, query.run (backend.withSamples samples) scope filter rule = .ok rows) ↔
      backend.access query.tables (query.bound scope filter) (SeriesQuery.others scope filter)
          = .ok () ∧
        ∀ s ∈ samples, query.Averages backend.store scope filter rule s →
          isText s.value = false := by
  have haccess : (backend.withSamples samples).access query.tables (query.bound scope filter)
        (SeriesQuery.others scope filter)
      = backend.access query.tables (query.bound scope filter)
          (SeriesQuery.others scope filter) := rfl
  have hrows := @SeriesQuery.exists_rows_iff query (backend.withSamples samples).store scope filter
    rule bucketing hb
  simp only [averages_withSamples] at hrows
  refine Iff.trans ?_ (and_congr_right fun _ => hrows)
  rw [SeriesQuery.run, Backend.query, haccess]
  cases backend.access query.tables (query.bound scope filter)
      (SeriesQuery.others scope filter) with
  | error f => simp [Except.map, Except.bind]
  | ok u => exact ⟨fun h => ⟨rfl, h⟩, fun h => h.2⟩

end Samples

/-- A request is answered over some samples if it is answered **over none** and it averages no text
among them. -/
theorem run_withSamples_iff {request : StoreRequest} {backend : Backend} {now : Int}
    (buckets : ∀ query scope names rule, request = .series query scope names rule →
      ∃ bucketing, rule.bucketing = .ok bucketing) (samples : List Sample) :
    (∃ rows, request.run (backend.withSamples samples) now = .ok rows) ↔
      (∃ rows, request.run (backend.withSamples []) now = .ok rows) ∧
        ∀ s ∈ samples, request.Averages backend s → isText s.value = false := by
  -- only a series averages samples, and the rest is run over any
  have hother : (∀ query scope names rule, request ≠ .series query scope names rule) →
      ∀ s ∈ samples, request.Averages backend s → isText s.value = false := by
    rintro hother s - ⟨query, scope, names, rule, _, hseries, -⟩
    exact absurd hseries (hother query scope names rule)
  cases request with
  | catalog query =>
    rw [and_iff_left (hother fun _ _ _ _ h => nomatch h)]
    exact (exists_map_query_iff backend samples).trans (exists_map_query_iff backend []).symm
  | summary query scope =>
    rw [and_iff_left (hother fun _ _ _ _ h => nomatch h)]
    exact (exists_map_query_iff backend samples).trans (exists_map_query_iff backend []).symm
  | snapshot query scope names =>
    have hrun : ∀ samples', (∃ rows, (StoreRequest.snapshot query scope names).run
        (backend.withSamples samples') now = .ok rows) ↔ _ := fun samples' =>
      (exists_bind_resolveNames_iff backend samples').trans
        (exists_congr fun _ => and_congr_right fun _ => exists_map_query_iff backend samples')
    rw [and_iff_left (hother fun _ _ _ _ h => nomatch h)]
    exact (hrun samples).trans (hrun []).symm
  | series query scope names rule =>
    obtain ⟨bucketing, hb⟩ := buckets query scope names rule rfl
    have hrun : ∀ samples', (∃ rows, (StoreRequest.series query scope names rule).run
        (backend.withSamples samples') now = .ok rows) ↔ _ := fun samples' =>
      (exists_bind_resolveNames_iff backend samples').trans
        (exists_congr fun _ => and_congr_right fun _ => exists_run_iff backend samples' hb)
    refine (hrun samples).trans (Iff.trans ?_ (and_congr_left' (hrun []).symm))
    constructor
    · rintro ⟨filter, hfilter, haccess, htext⟩
      refine ⟨⟨filter, hfilter, haccess, by simp⟩, ?_⟩
      rintro s hs ⟨_, _, _, _, filter', hseries, hfilter', haverages⟩
      cases hseries
      obtain rfl := Except.ok.inj (hfilter.symm.trans hfilter')
      exact htext s hs haverages
    · rintro ⟨⟨filter, hfilter, haccess, -⟩, htext⟩
      exact ⟨filter, hfilter, haccess, fun s hs haverages =>
        htext s hs ⟨query, scope, names, rule, filter, rfl, hfilter, haverages⟩⟩

/-- Where a request is answered, it is answered **with a further sample** unless the sample is a
text that the request averages. -/
theorem run_further_iff {request : StoreRequest} {backend : Backend} {before after : List Sample}
    {m : Sample} {now : Int}
    (buckets : ∀ query scope names rule, request = .series query scope names rule →
      ∃ bucketing, rule.bucketing = .ok bucketing)
    (answered : ∃ rows, request.run (backend.withSamples (before ++ after)) now = .ok rows) :
    (∃ rows, request.run (backend.withSamples (before ++ m :: after)) now = .ok rows) ↔
      ¬(isText m.value = true ∧ request.Averages backend m) := by
  rw [run_withSamples_iff buckets] at answered ⊢
  obtain ⟨hnone, hothers⟩ := answered
  rw [and_iff_right hnone]
  constructor
  · rintro hall ⟨htext, haverages⟩
    exact absurd (htext.symm.trans (hall m (by simp) haverages)) (by decide)
  · intro hnot s hs haverages
    rcases List.mem_append.1 hs with hbefore | hafter
    · exact hothers s (List.mem_append_left after hbefore) haverages
    · rcases List.mem_cons.1 hafter with rfl | hafter
      · exact Bool.eq_false_iff.2 fun htext => hnot ⟨htext, haverages⟩
      · exact hothers s (List.mem_append_right before hafter) haverages

/-- Whether a route is asked for a series that **averages** a sample. -/
def DataRoute.Averages (route : DataRoute) (backend : Backend) (ids : PathIds)
    (queryString : String) (m : Sample) : Prop :=
  ∃ request, route.check ids queryString = .ok request ∧ request.Averages backend m

/-- **A further sample fails no request but the series that average it, and those only if it is a
text.** Take a `GET` request to a data route that is answered with 200; if it is for a snapshot, let
the minute of the snapshot have a date. With a further sample, whatever it holds and wherever it
stands among the others, the request is answered with 200 too, unless the sample holds a text and
the request is for a series that averages it. -/
theorem further_sample_fails_only_series_of_texts {server : Server} {before after : List Sample}
    {request : Request} {route : DataRoute} {ids : PathIds}
    (found : findRoute server.config.basePath request.path = some (.data route, ids))
    (get : request.method = "GET") (dated : route.IsDated server.second)
    (answered : ((server.withSamples (before ++ after)).answer request).1.code = 200) (m : Sample) :
    ((server.withSamples (before ++ m :: after)).answer request).1.code = 200 ↔
      ¬(isText m.value = true ∧ route.Averages server.backend ids request.queryString m) := by
  have hanswer : ∀ samples, ((server.withSamples samples).answer request).1.code = 200 ↔
      ∃ rows, route.rows (server.backend.withSamples samples) server.second ids request.queryString
        = .ok rows := fun _ => code_answer_of_isDated found get dated
  rw [hanswer] at answered ⊢
  obtain ⟨rows, hrows⟩ := answered
  obtain ⟨checked, hcheck, hrun⟩ := bind_eq_ok_iff.1 hrows
  have hbuckets : ∀ query scope names rule, checked = .series query scope names rule →
      ∃ bucketing, rule.bucketing = .ok bucketing := by
    rintro query scope names rule rfl
    exact exists_bucketing_of_check hcheck
  have haverages : route.Averages server.backend ids request.queryString m ↔
      checked.Averages server.backend m := by
    constructor
    · rintro ⟨checked', hcheck', h⟩
      obtain rfl := Except.ok.inj (hcheck.symm.trans hcheck')
      exact h
    · exact fun h => ⟨checked, hcheck, h⟩
  rw [haverages, ← run_further_iff hbuckets ⟨rows, hrun⟩]
  simp only [DataRoute.rows, hcheck]
  exact Iff.rfl

/-- One node and one metric, without samples. -/
def oneNode : Store :=
  { Store.empty with
    clusters := [⟨some 1, some "main"⟩]
    nodes := [⟨some 1, some 1, some "alpha", none, none, none, none, none, none⟩]
    metricNames := [⟨some 1, some "cpu", none, none⟩]
    metricLabels := [⟨some 1, some "total"⟩] }

/-- A sample of the node. -/
def nodeSample (ts : Int) (value : Option Reading) : Sample :=
  ⟨some 1, some 1, some 0, some 0, some 1, some 1, some ts, value⟩

/-- The sample of the node in the first minute. -/
def firstSample : Sample := nodeSample 60 (some (.number 10.0))

/-- A sample in the second minute that holds a text. -/
def textSample : Sample := nodeSample 120 (some (.text "oops"))

/-- A sample in the second minute that holds nothing. -/
def gapSample : Sample := nodeSample 120 none

/-- A request for the first hour of the series of the node. -/
def firstHour : Request :=
  getTarget ("/api/v1/metrics/1/nodes?metricNames=cpu" ++
    "&dateRange=1970-01-01T00:00:00Z&dateRange=1970-01-01T01:00:00Z")

/-- The first hour of 1970, in steps of one minute. -/
def hourRule : BucketRule := ⟨⟨0, some 0⟩, ⟨3600000000, some 0⟩, .minute, 1, none⟩

theorem found_firstHour (samples : List Sample) :
    findRoute ((serverOn oneNode).withSamples samples).config.basePath firstHour.path
      = some (.data (.series (.entities .node)), [(.cluster, "1")]) := by
  have hfound : findRoute ServerConfig.default.basePath firstHour.path
      = some (.data (.series (.entities .node)), [(.cluster, "1")]) := by decide +kernel
  exact hfound

theorem get_firstHour : firstHour.method = "GET" := rfl

/-- Parameters that name no zone select **in UTC**. -/
theorem parse_of_no_zone {queryString : String} {params : QueryParams}
    (hparams : QueryParams.parse queryString = params) (hquery : params.last? "query" = none)
    (hzone : params.last? "timezone" = none) :
    MetricQuery.parse queryString = .ok ⟨"UTC", params.all "metricNames", params.all "dateRange",
      Text.withoutQuotes ((params.last? "granularity").getD "")⟩ := by
  have hempty : Text.withoutQuotes ((none : Option String).getD "") = "" := rfl
  simp only [MetricQuery.parse, hparams, hquery, MetricQuery.ofParams, hzone, hempty,
    MetricQuery.checkZone_empty]
  rfl

/-- What the request selects. -/
def hourSelection : MetricQuery :=
  ⟨"UTC", ["cpu"], ["1970-01-01T00:00:00Z", "1970-01-01T01:00:00Z"], ""⟩

theorem parse_firstHour : MetricQuery.parse firstHour.queryString = .ok hourSelection := by
  have hparams : QueryParams.parse firstHour.queryString = [("metricNames", "cpu"),
      ("dateRange", "1970-01-01T00:00:00Z"), ("dateRange", "1970-01-01T01:00:00Z")] := by
    decide +kernel
  exact parse_of_no_zone hparams rfl rfl

/-- The range is planned **by minutes**. -/
theorem planSeries_hourSelection : hourSelection.planSeries = .ok hourRule := rfl

/-- The request asks for the samples of the metric **by minutes**. -/
theorem check_firstHour :
    (DataRoute.series (.entities .node)).check [(.cluster, "1")] firstHour.queryString
      = .ok (.series (.entities .node) ⟨some 1, none, .node, none, none⟩ ["cpu"] hourRule) := by
  rw [DataRoute.check, parse_firstHour]
  refine bind_eq_ok_iff.2 ⟨_, rfl, bind_eq_ok_iff.2 ⟨_, rfl, ?_⟩⟩
  rw [planSeries_hourSelection]
  rfl

/-- Without a text the series **is answered**. -/
theorem code_firstSample :
    (((serverOn oneNode).withSamples [firstSample]).answer firstHour).1.code = 200 := by
  rw [answer_data (found_firstHour _) get_firstHour, Server.dataBody, DataRoute.fetch,
    check_firstHour]
  decide +kernel

/-- The series of a node fails with a text among its samples, and is answered with a gap. -/
theorem text_and_gap_in_the_series_of_a_node :
    findRoute (serverOn oneNode).config.basePath firstHour.path
        = some (.data (.series (.entities .node)), [(.cluster, "1")]) ∧
      firstHour.method = "GET" ∧
      (DataRoute.series (.entities .node)).IsDated (serverOn oneNode).second ∧
      (((serverOn oneNode).withSamples [firstSample]).answer firstHour).1.code = 200 ∧
      (((serverOn oneNode).withSamples [firstSample, textSample]).answer firstHour).1.code ≠ 200 ∧
      (((serverOn oneNode).withSamples [firstSample, gapSample]).answer firstHour).1.code = 200 := by
  have hfound : findRoute (serverOn oneNode).config.basePath firstHour.path
      = some (.data (.series (.entities .node)), [(.cluster, "1")]) := found_firstHour []
  have hdated : (DataRoute.series (.entities .node)).IsDated (serverOn oneNode).second := by
    intro query h
    cases h
  have hnames : (serverOn oneNode).backend.resolveNames ["cpu"] = .ok [some 1] :=
    resolveNames_singleton rfl
  have haverages : (SeriesQuery.entities .node).Averages oneNode ⟨some 1, none, .node, none, none⟩
      [some 1] hourRule textSample :=
    ⟨by decide, ⟨textSample, ⟨some 1, some "cpu", none, none⟩, ⟨some 1, some "total"⟩⟩,
      List.mem_singleton.2 rfl, ⟨some 1, some "alpha"⟩, List.mem_singleton.2 rfl, rfl, rfl⟩
  have hanswered : (((serverOn oneNode).withSamples ([firstSample] ++ [])).answer firstHour).1.code
      = 200 := by
    rw [List.append_nil]
    exact code_firstSample
  have hfurther := further_sample_fails_only_series_of_texts hfound get_firstHour hdated hanswered
  simp only [List.cons_append, List.nil_append] at hfurther
  refine ⟨hfound, get_firstHour, hdated, code_firstSample, fun hcode => ?_, ?_⟩
  · exact (hfurther textSample).1 hcode
      ⟨rfl, _, check_firstHour, _, _, _, _, _, rfl, hnames, haverages⟩
  · exact (hfurther gapSample).2 fun h => absurd h.1 (by decide)

/-- A sample that holds a text **fails the series** that was answered without it. -/
theorem series_fails_with_a_further_text :
    (((serverOn oneNode).withSamples [firstSample]).answer firstHour).1.code = 200 ∧
      (((serverOn oneNode).withSamples [firstSample, textSample]).answer firstHour).1.code = 500 := by
  refine ⟨code_firstSample, ?_⟩
  -- the check is rewritten first, for the rest is evaluated
  rw [answer_data (found_firstHour _) get_firstHour, Server.dataBody, DataRoute.fetch,
    check_firstHour]
  decide +kernel

end ClusterMetrics
