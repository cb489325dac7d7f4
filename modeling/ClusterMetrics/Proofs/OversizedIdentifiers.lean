import ClusterMetrics.Proofs.CorruptValues
import ClusterMetrics.Proofs.Numerals
import ClusterMetrics.Proofs.PathIdentifiers

/-! # Oversized identifiers

An identifier is the numeral of a positive number. It is read up to a number of digits, and the
store takes numbers of 64 bits, so a numeral can be too long to be read or too large for the store.
Every other identifier is either taken by the store or a fault of the request.

* **`IsReadable`**: the texts that are read. **`PathIds.IsTooLong`**, **`PathIds.IsTooLarge`**: the
  identifiers that are not a fault of the request and yet of no use.
* **`StoreRequest.run_eq`**: a request is run by resolving its names and then its statement.
* **`DataRoute.check_eq`**: a route is checked by its selection, its scope and its plan.
* **`DataRoute.Overruns`**: which requests fail for their identifiers; **`only_oversized_ids_fail`**:
  that no others do. -/

namespace ClusterMetrics

/-! ## Readable identifiers -/

/-- Whether a text is **read as an identifier**: it is the numeral of a positive number that does
not have too many digits. -/
def IsReadable (text : String) : Prop :=
  ∃ n : Nat, 0 < n ∧ n < 10 ^ numeralLimit ∧ text = toString n

/-- What fails to be read is too long or **a fault of the request**. -/
theorem parseId_error {name : IdName} {text : Option String} {f : Failure}
    (h : parseId name text = .error f) :
    f = .numeralTooLong ∨ ∃ fault, f = .parameter fault := by
  cases text with
  | none => cases h
  | some text =>
    rw [parseId] at h
    split at h
    · cases h
    split at h
    · exact .inr ⟨_, (Except.error.inj h).symm⟩
    split at h
    · exact .inl (Except.error.inj h).symm
    · cases h

/-- A positive number fits the store if it is **below 2 to the 63**. -/
theorem fits64_natCast_iff {n : Nat} : fits64 n = true ↔ n < 2 ^ 63 := by
  simp only [fits64, Decimal.twoTo, Bool.and_eq_true]
  norm_num

section Texts

variable (name : IdName) {text : String} (given : text ≠ "")
include given

/-- The readable texts are **those that are read**. -/
theorem exists_parseId_iff :
    (∃ number, parseId name (some text) = .ok number) ↔ IsReadable text := by
  constructor
  · rintro ⟨number, hread⟩
    by_cases hnumeral : ∃ n : Nat, 0 < n ∧ text = toString n
    · obtain ⟨n, hn, rfl⟩ := hnumeral
      rw [parseId_numeral name hn] at hread
      split at hread
      · rename_i hlt
        exact ⟨n, hn, hlt, rfl⟩
      · cases hread
    · rw [parseId_of_no_numeral name given fun n hn htext => hnumeral ⟨n, hn, htext⟩] at hread
      cases hread
  · rintro ⟨n, hn, hlt, rfl⟩
    exact ⟨some (n : Int), by rw [parseId_numeral name hn, if_pos hlt]⟩

/-- The texts that are too long are the numerals **with too many digits**. -/
theorem parseId_eq_numeralTooLong_iff :
    parseId name (some text) = .error .numeralTooLong ↔
      ∃ n : Nat, 10 ^ numeralLimit ≤ n ∧ text = toString n := by
  constructor
  · intro hlong
    by_cases hnumeral : ∃ n : Nat, 0 < n ∧ text = toString n
    · obtain ⟨n, hn, rfl⟩ := hnumeral
      rw [parseId_numeral name hn] at hlong
      split at hlong
      · cases hlong
      · rename_i hlt
        exact ⟨n, Nat.le_of_not_lt hlt, rfl⟩
    · rw [parseId_of_no_numeral name given fun n hn htext => hnumeral ⟨n, hn, htext⟩] at hlong
      cases hlong
  · rintro ⟨n, hle, rfl⟩
    have hn : 0 < n := Nat.lt_of_lt_of_le (Nat.pow_pos (by decide)) hle
    rw [parseId_numeral name hn, if_neg (Nat.not_lt.2 hle)]

end Texts

namespace PathIds

/-- Whether the first identifier that is not readable is a numeral **with too many digits**. -/
def IsTooLong (ids : PathIds) : Prop :=
  ∃ before id after, ∃ n : Nat, ids = before ++ id :: after ∧
    (∀ other ∈ before, IsReadable other.2) ∧ 10 ^ numeralLimit ≤ n ∧ id.2 = toString n

/-- Whether the identifiers are readable, and one of them is the numeral of a number **beyond 64
bits**. -/
def IsTooLarge (ids : PathIds) : Prop :=
  (∀ id ∈ ids, IsReadable id.2) ∧ ∃ id ∈ ids, ∃ n : Nat, 2 ^ 63 ≤ n ∧ id.2 = toString n

variable {ids : PathIds}

/-- Identifiers that fail to be read are too long or **a fault of the request**. -/
theorem numbers_error {f : Failure} (h : ids.numbers = .error f) :
    f = .numeralTooLong ∨ ∃ fault, f = .parameter fault := by
  obtain ⟨_, id, _, -, -, hid⟩ := mapM_eq_error_iff.1 (map_eq_error_iff.1 h)
  exact parseId_error hid

/-- The numbers of a path are **those that are read** from its identifiers. -/
theorem mem_numbers_iff {numbers : List Int} (h : ids.numbers = .ok numbers) {n : Int} :
    n ∈ numbers ↔ ∃ id ∈ ids, parseId id.1 (some id.2) = .ok (some n) := by
  obtain ⟨parsed, hparsed, rfl⟩ := map_eq_ok_iff.1 h
  have hread := mapM_eq_ok_iff.1 hparsed
  rw [List.reduceOption_mem_iff]
  constructor
  · exact exists_of_mem_of_forall₂ hread
  · rintro ⟨id, hid, hn⟩
    obtain ⟨number, hmem, hnumber⟩ := exists_of_mem_of_forall₂ hread.flip hid
    obtain rfl : number = some n := Except.ok.inj (Eq.trans (Eq.symm hnumber) hn)
    exact hmem

section Given

variable (given : ∀ id ∈ ids, id.2 ≠ "")
include given

/-- The identifiers have numbers if **each of them** is readable. -/
theorem exists_numbers_iff : (∃ numbers, ids.numbers = .ok numbers) ↔
    ∀ id ∈ ids, IsReadable id.2 := by
  constructor
  · rintro ⟨numbers, hnumbers⟩ id hid
    obtain ⟨parsed, hparsed, -⟩ := map_eq_ok_iff.1 hnumbers
    obtain ⟨number, -, hnumber⟩ := exists_of_mem_of_forall₂ (mapM_eq_ok_iff.1 hparsed).flip hid
    exact (exists_parseId_iff id.1 (given id hid)).1 ⟨number, hnumber⟩
  · intro hreadable
    obtain ⟨parsed, hparsed⟩ := exists_mapM_eq_ok fun id hid =>
      (exists_parseId_iff id.1 (given id hid)).2 (hreadable id hid)
    exact ⟨_, map_eq_ok_iff.2 ⟨parsed, hparsed, rfl⟩⟩

/-- The identifiers are too long to be read exactly if **the first** that is not readable is. -/
theorem numbers_eq_numeralTooLong_iff : ids.numbers = .error .numeralTooLong ↔ ids.IsTooLong := by
  have hsplit : ∀ before id after, ids = before ++ id :: after →
      ((∀ other ∈ before, ∃ number, parseId other.1 (some other.2) = .ok number) ∧
        parseId id.1 (some id.2) = .error .numeralTooLong ↔
      (∀ other ∈ before, IsReadable other.2) ∧
        ∃ n : Nat, 10 ^ numeralLimit ≤ n ∧ id.2 = toString n) := by
    rintro before id after rfl
    refine and_congr (forall₂_congr fun other hother => ?_) ?_
    · exact exists_parseId_iff other.1 (given other (List.mem_append_left _ hother))
    · exact parseId_eq_numeralTooLong_iff id.1 (given id (by simp))
  rw [numbers, map_eq_error_iff, mapM_eq_error_iff, IsTooLong]
  constructor
  · rintro ⟨before, id, after, hids, hread⟩
    obtain ⟨hbefore, n, hn⟩ := (hsplit before id after hids).1 hread
    exact ⟨before, id, after, n, hids, hbefore, hn⟩
  · rintro ⟨before, id, after, n, hids, hbefore, hn⟩
    exact ⟨before, id, after, hids, (hsplit before id after hids).2 ⟨hbefore, n, hn⟩⟩

/-- Where the first identifier that is not readable is no numeral, **it is at fault**. -/
theorem numbers_of_no_numeral {before after : PathIds} {id : IdName × String}
    (hids : ids = before ++ id :: after) (hbefore : ∀ other ∈ before, IsReadable other.2)
    (hid : ∀ n : Nat, 0 < n → id.2 ≠ toString n) :
    ids.numbers = .error (.parameter (.malformedId id.1 id.2)) := by
  subst hids
  refine map_eq_error_iff.2 (mapM_eq_error_iff.2 ⟨before, id, after, rfl, ?_, ?_⟩)
  · intro other hother
    have hgiven := given other (List.mem_append_left _ hother)
    exact (exists_parseId_iff other.1 hgiven).2 (hbefore other hother)
  · exact parseId_of_no_numeral id.1 (given id (by simp)) hid

/-- The numbers of the identifiers fit the store exactly if **none of them is too large**. -/
theorem fits_iff {numbers : List Int} (h : ids.numbers = .ok numbers) :
    (∀ n ∈ numbers, fits64 n = true) ↔ ¬ids.IsTooLarge := by
  have hreadable := (exists_numbers_iff given).1 ⟨numbers, h⟩
  constructor
  · rintro hfits ⟨-, id, hid, n, hle, htext⟩
    obtain ⟨number, hread⟩ := (exists_parseId_iff id.1 (given id hid)).2 (hreadable id hid)
    have hn : 0 < n := Nat.lt_of_lt_of_le (by decide) hle
    obtain rfl : some (n : Int) = number := by
      rw [htext, parseId_numeral id.1 hn] at hread
      split at hread
      · exact Except.ok.inj hread
      · cases hread
    have hfit := hfits n ((mem_numbers_iff h).2 ⟨id, hid, hread⟩)
    exact absurd (fits64_natCast_iff.1 hfit) (Nat.not_lt.2 hle)
  · intro hnot n hn
    obtain ⟨id, hid, hread⟩ := (mem_numbers_iff h).1 hn
    obtain ⟨m, hm, hlt, htext⟩ := hreadable id hid
    rw [htext, parseId_numeral id.1 hm, if_pos hlt] at hread
    obtain rfl := Option.some.inj (Except.ok.inj hread)
    by_contra hbeyond
    have hle : 2 ^ 63 ≤ m := Nat.le_of_not_lt fun hm => hbeyond (fits64_natCast_iff.2 hm)
    exact hnot ⟨hreadable, id, hid, m, hle, htext⟩

end Given

end PathIds

/-! ## Running requests -/

theorem map_eq_bind {ε α β : Type} (x : Except ε α) (f : α → β) :
    x.map f = x.bind fun a => .ok (f a) := by
  cases x <;> rfl

namespace StoreRequest

/-- The **metric names** of a request. -/
def names : StoreRequest → List String
  | snapshot _ _ names | series _ _ names _ => names
  | _ => []

/-- The tables that the statement of a request reads. -/
def tables : StoreRequest → List TableName
  | catalog query => query.tables
  | snapshot query _ _ => query.tables
  | series query _ _ _ => query.tables
  | summary query _ => query.tables

/-- The numbers of **identifiers** that the statement of a request is given. -/
def idNumbers : StoreRequest → List Int
  | catalog query => query.bound
  | snapshot .pods scope _ | series .pods scope _ _ => scope.bound ++ scope.boundPod
  | snapshot _ scope _ | series _ scope _ _ | summary _ scope => scope.bound

variable (filter : MetricFilter) (now : Int)

/-- The numbers that the statement of a request is given. -/
def bound : StoreRequest → List Int
  | catalog query => query.bound
  | snapshot query scope _ => query.bound scope filter now
  | series query scope _ _ => query.bound scope filter
  | summary _ scope => SummaryQuery.bound scope now

/-- The number of other values that the statement of a request is given. -/
def others : StoreRequest → Nat
  | catalog query => query.others
  | snapshot _ scope _ => scope.others filter
  | series _ scope _ _ => SeriesQuery.others scope filter
  | summary _ scope => scope.others []

/-- The rows of a request **over a store** that runs its statement. -/
def rows (store : Store) : StoreRequest → Except Failure (List Row)
  | catalog query => .ok (query.rows store)
  | snapshot query scope _ => .ok (query.rows store scope filter now)
  | series query scope _ rule => query.rows store scope filter rule
  | summary query scope => .ok (query.rows store scope now)

variable {filter now}

/-- A request is run by resolving its names and then running **its statement**. -/
theorem run_eq (request : StoreRequest) (backend : Backend) (now : Int) :
    request.run backend now = (backend.resolveNames request.names).bind fun filter =>
      (backend.query request.tables (request.bound filter now) (request.others filter)).bind
        (request.rows filter now) := by
  cases request with
  | catalog query => exact map_eq_bind _ _
  | snapshot query scope names =>
    exact congrArg (Except.bind _) (funext fun filter => map_eq_bind _ _)
  | series query scope names rule => rfl
  | summary query scope => exact map_eq_bind _ _

/-- A statement is given **few values besides its metrics**. -/
theorem valueCount_le (request : StoreRequest) (filter : MetricFilter) (now : Int) :
    (request.bound filter now).length + request.others filter
      ≤ max (filter.length + 8) variableLimit := by
  cases request with
  | catalog query =>
    refine le_max_of_le_right ?_
    cases query with
    | agents cluster | nodes cluster =>
      cases cluster <;> simp [bound, others, CatalogQuery.bound, CatalogQuery.others, variableLimit]
    | _ => simp [bound, others, CatalogQuery.bound, CatalogQuery.others, variableLimit]
  | snapshot query scope names =>
    exact le_max_of_le_left (query.valueCount_le scope filter now)
  | series query scope names rule => exact le_max_of_le_left (query.valueCount_le scope filter)
  | summary query scope => exact le_max_of_le_right (SummaryQuery.valueCount_le scope now)

/-- A statement is given the numbers of the identifiers, **the minute and the metrics**, if any. -/
theorem mem_bound_or {request : StoreRequest} {n : Int} (h : n ∈ request.bound filter now) :
    n ∈ request.idNumbers ∨ n = now - freshness ∨ n = now ∨ n ∈ filter.filterMap id := by
  cases request with
  | catalog query => exact .inl h
  | snapshot query scope names =>
    cases query <;>
      simp only [bound, idNumbers, SnapshotQuery.bound, List.mem_append, List.mem_cons,
        List.not_mem_nil, or_false] at h ⊢ <;> tauto
  | series query scope names rule =>
    cases query <;>
      simp only [bound, idNumbers, SeriesQuery.bound, List.mem_append] at h ⊢ <;> tauto
  | summary query scope =>
    simp only [bound, idNumbers, SummaryQuery.bound, List.mem_append, List.mem_cons,
      List.not_mem_nil, or_false] at h ⊢
    tauto

/-- A statement is given **every number** of the identifiers. -/
theorem mem_bound {request : StoreRequest} {n : Int} (h : n ∈ request.idNumbers) :
    n ∈ request.bound filter now := by
  cases request with
  | catalog query => exact h
  | snapshot query scope names =>
    cases query <;>
      simp only [bound, idNumbers, SnapshotQuery.bound, List.mem_append] at h ⊢ <;> tauto
  | series query scope names rule =>
    cases query <;>
      simp only [bound, idNumbers, SeriesQuery.bound, List.mem_append] at h ⊢ <;> tauto
  | summary query scope => exact List.mem_append_left _ h

end StoreRequest

/-! ## Checking routes -/

namespace DataRoute

/-- What a route **selects** by its query string; without one that it reads, nothing. -/
def selection (queryString : String) : DataRoute → Except Failure MetricQuery
  | snapshot _ | series _ => MetricQuery.parse queryString
  | _ => .ok ⟨"UTC", [], [], ""⟩

/-- The request of a route for a selection **in a scope**. -/
def request (selection : MetricQuery) (scope : Scope) : DataRoute → Except Failure StoreRequest
  | clusters => .ok (.catalog .clusters)
  | agents => .ok (.catalog (.agents none))
  | nodes => .ok (.catalog (.nodes none))
  | metricNames => .ok (.catalog .metricNames)
  | clusterAgents => .ok (.catalog (.agents scope.cluster))
  | clusterNodes => .ok (.catalog (.nodes scope.cluster))
  | snapshot query => .ok (.snapshot query scope selection.metricNames)
  | series query => (selection.planSeries.mapError .parameter).map fun rule =>
    .series query scope selection.metricNames rule
  | summary query => .ok (.summary query scope)

variable {route : DataRoute} {ids : PathIds} {queryString : String}

/-- A route is checked by its selection, **its scope** and its plan. -/
theorem check_eq : route.check ids queryString = (route.selection queryString).bind fun selection =>
    (route.scope ids).bind fun scope => route.request selection scope := by
  cases route with
  | clusterAgents => exact map_eq_bind _ _
  | clusterNodes => exact map_eq_bind _ _
  | series query =>
    refine congrArg (Except.bind _) (funext fun selection => congrArg (Except.bind _)
      (funext fun scope => ?_))
    exact (map_eq_bind _ _).symm
  | summary query => exact map_eq_bind _ _
  | _ => rfl

section Requests

variable {selection : MetricQuery} {scope : Scope} {request : StoreRequest}

/-- The statement of a route is given the numbers of **its identifiers**. -/
theorem idNumbers_of_request (h : route.request selection scope = .ok request) :
    request.idNumbers = route.boundNames.filterMap scope.number? := by
  have hcluster : scope.cluster.toList = [IdName.cluster].filterMap scope.number? := by
    obtain ⟨cluster, node, level, podNamespace, pod⟩ := scope
    cases cluster <;> rfl
  have hpods : scope.bound ++ scope.boundPod = IdName.all.filterMap scope.number? := by
    rw [scope.bound_eq, scope.boundPod_eq, ← List.filterMap_append]
    rfl
  cases route with
  | clusterAgents =>
    obtain rfl := Except.ok.inj h
    exact hcluster
  | clusterNodes =>
    obtain rfl := Except.ok.inj h
    exact hcluster
  | snapshot query =>
    obtain rfl := Except.ok.inj h
    cases query with
    | entities kind => exact scope.bound_eq
    | pods => exact hpods
  | series query =>
    obtain ⟨rule, -, rfl⟩ := map_eq_ok_iff.1 h
    cases query with
    | entities kind => exact scope.bound_eq
    | pods => exact hpods
    | clusterSummary => exact scope.bound_eq
  | summary query =>
    obtain rfl := Except.ok.inj h
    exact scope.bound_eq
  | _ =>
    obtain rfl := Except.ok.inj h
    rfl

/-- The names of a request are **those selected**. -/
theorem names_of_request (selected : route.selection queryString = .ok selection)
    (h : route.request selection scope = .ok request) :
    request.names = selection.metricNames := by
  cases route with
  | series query =>
    obtain ⟨rule, -, rfl⟩ := map_eq_ok_iff.1 h
    rfl
  | snapshot query =>
    obtain rfl := Except.ok.inj h
    rfl
  | _ =>
    obtain rfl := Except.ok.inj selected
    obtain rfl := Except.ok.inj h
    rfl

/-- Whether a selection can be **planned**: a series has to be. -/
def Plans (route : DataRoute) (selection : MetricQuery) : Prop :=
  ∀ query, route = .series query → ∃ rule, selection.planSeries = .ok rule

/-- A route has a request for **every selection that can be planned**. -/
theorem exists_request_iff :
    (∃ request, route.request selection scope = .ok request) ↔ route.Plans selection := by
  cases route with
  | series query =>
    constructor
    · rintro ⟨_, h⟩ _ _
      obtain ⟨rule, hrule, -⟩ := map_eq_ok_iff.1 h
      cases hplan : selection.planSeries with
      | ok planned => exact ⟨planned, rfl⟩
      | error fault =>
        rw [hplan] at hrule
        cases hrule
    · intro h
      obtain ⟨rule, hrule⟩ := h query rfl
      exact ⟨_, map_eq_ok_iff.2 ⟨rule, by rw [hrule]; rfl, rfl⟩⟩
  | _ => exact ⟨fun _ _ h => (nomatch h), fun _ => ⟨_, rfl⟩⟩

/-- A selection that cannot be planned is **a fault of the request**. -/
theorem request_error {f : Failure} (h : route.request selection scope = .error f) :
    ∃ fault, f = .parameter fault := by
  cases route with
  | series query =>
    rw [request, map_eq_error_iff] at h
    cases hplan : selection.planSeries with
    | ok rule =>
      rw [hplan] at h
      cases h
    | error fault =>
      rw [hplan] at h
      exact ⟨fault, (Except.error.inj h).symm⟩
  | _ => cases h

end Requests

end DataRoute

/-! ## Stores in order -/

/-- A store in order refuses names by **a fault of the request** only, if it can read them. -/
theorem resolveNames_ofStore_error {store : Store} {names : List String} {f : Failure}
    (few : names.length ≤ variableLimit)
    (h : (Backend.ofStore store).resolveNames names = .error f) :
    ∃ fault, f = .parameter fault := by
  have hquery : (Backend.ofStore store).query [.metricNames] [] names.length = .ok store :=
    Backend.query_ofStore store ⟨by simpa using few, by simp⟩
  rw [Backend.resolveNames, hquery] at h
  split at h
  · cases h
  split at h
  · rcases bind_eq_error_iff.1 h with hread | ⟨_, -, hnames⟩
    · cases hread
    · rw [Store.resolveNames] at hnames
      split at hnames
      · exact ⟨_, (Except.error.inj hnames).symm⟩
      · cases hnames
  · exact ⟨_, (Except.error.inj h).symm⟩

/-- Names are resolved to **as many identifiers**. -/
theorem length_of_resolveNames {backend : Backend} {names : List String} {filter : MetricFilter}
    (resolved : backend.resolveNames names = .ok filter) : filter.length = names.length := by
  by_cases hne : names = []
  · rw [hne] at resolved ⊢
    rw [← Except.ok.inj resolved]
    rfl
  · obtain ⟨-, -, -, rfl⟩ := (Backend.resolveNames_eq_ok_iff hne).1 resolved
    exact List.length_map _

/-- The identifiers of metrics that names are resolved to **are stored**. -/
theorem fits64_of_mem_filter {store : Store} (fit : store.NameIdsFit) {names : List String}
    {filter : MetricFilter} (resolved : (Backend.ofStore store).resolveNames names = .ok filter)
    {n : Int} (h : n ∈ filter.filterMap id) : fits64 n = true := by
  by_cases hne : names = []
  · obtain rfl : [] = filter := by
      rw [hne] at resolved
      exact Except.ok.inj resolved
    cases h
  · obtain ⟨-, -, hknown, rfl⟩ := (Backend.resolveNames_eq_ok_iff hne).1 resolved
    obtain ⟨number, hnumber, hn⟩ := List.mem_filterMap.1 h
    obtain ⟨name, hname, rfl⟩ := List.mem_map.1 hnumber
    obtain ⟨stored, hstored⟩ := Option.isSome_iff_exists.1 (hknown name hname)
    rw [hstored, Option.getD_some] at hn
    obtain ⟨row, hfind, hrow⟩ := Option.map_eq_some_iff.1 hstored
    have hfit := fit row (List.mem_reverse.1 (List.mem_of_find?_eq_some hfind))
    rw [hrow, show stored = some n from hn] at hfit
    exact hfit

namespace StoreRequest

variable {store : Store} {request : StoreRequest} {filter : MetricFilter} {now : Int}

/-- A request whose names are resolved runs **its statement**. -/
theorem run_of_resolved {backend : Backend}
    (resolved : backend.resolveNames request.names = .ok filter) :
    request.run backend now = (backend.query request.tables (request.bound filter now)
      (request.others filter)).bind (request.rows filter now) := by
  rw [run_eq, resolved]
  rfl

/-- Whether a request names **so few metrics** that its statement has room for them. -/
def IsRoomy (request : StoreRequest) : Prop := request.names.length + 8 ≤ variableLimit

/-- A statement has room for the metrics **of a request that names few**. -/
theorem few_of_isRoomy {backend : Backend} (roomy : request.IsRoomy)
    (resolved : backend.resolveNames request.names = .ok filter) :
    (request.bound filter now).length + request.others filter ≤ variableLimit := by
  have hlength := length_of_resolveNames resolved
  have hcount := request.valueCount_le filter now
  rw [IsRoomy, ← hlength] at roomy
  rwa [max_eq_right roomy] at hcount

/-- A store in order refuses a request with an identifier **beyond 64 bits**. -/
theorem run_of_not_fits (roomy : request.IsRoomy)
    (resolved : (Backend.ofStore store).resolveNames request.names = .ok filter)
    (beyond : ¬∀ n ∈ request.idNumbers, fits64 n = true) :
    request.run (.ofStore store) now = .error .idOverflow := by
  have hbeyond : ¬∀ n ∈ request.bound filter now, fits64 n = true := fun hfits =>
    beyond fun n hn => hfits n (mem_bound hn)
  rw [run_of_resolved resolved,
    Backend.query_ofStore_of_not_fits store (few_of_isRoomy roomy resolved) hbeyond]
  rfl

section Sound

variable (roomy : request.IsRoomy) (fit : store.NameIdsFit)
  (untexted : ∀ s ∈ store.samples, isText s.value = false)
  (first : fits64 (now - freshness) = true) (last : fits64 now = true)
  (buckets : ∀ query scope names rule, request = .series query scope names rule →
    ∃ bucketing, rule.bucketing = .ok bucketing)
include roomy fit untexted first last buckets

/-- A store in order **runs every other request**, if the samples hold no texts. -/
theorem exists_run (resolved : (Backend.ofStore store).resolveNames request.names = .ok filter)
    (fits : ∀ n ∈ request.idNumbers, fits64 n = true) :
    ∃ rows, request.run (.ofStore store) now = .ok rows := by
  have hfits : ∀ n ∈ request.bound filter now, fits64 n = true := by
    intro n hn
    rcases mem_bound_or hn with hid | rfl | rfl | hmetric
    · exact fits n hid
    · exact first
    · exact last
    · exact fits64_of_mem_filter fit resolved hmetric
  rw [run_of_resolved resolved,
    Backend.query_ofStore store ⟨few_of_isRoomy roomy resolved, hfits⟩]
  cases request with
  | series query scope names rule =>
    obtain ⟨bucketing, hb⟩ := buckets query scope names rule rfl
    exact (SeriesQuery.exists_rows_iff hb).2 fun s hs _ => untexted s hs
  | _ => exact ⟨_, rfl⟩

/-- A store in order refuses a request for its names, fails for an identifier beyond 64 bits, or
**runs it**. -/
theorem run_cases :
    ((¬∃ filter, (Backend.ofStore store).resolveNames request.names = .ok filter) ∧
      ∃ fault, request.run (.ofStore store) now = .error (.parameter fault)) ∨
    ((∃ filter, (Backend.ofStore store).resolveNames request.names = .ok filter) ∧
      (¬∀ n ∈ request.idNumbers, fits64 n = true) ∧
        request.run (.ofStore store) now = .error .idOverflow) ∨
    ((∀ n ∈ request.idNumbers, fits64 n = true) ∧
      ∃ rows, request.run (.ofStore store) now = .ok rows) := by
  cases hresolved : (Backend.ofStore store).resolveNames request.names with
  | error f =>
    have hfew : request.names.length ≤ variableLimit := Nat.le_of_add_right_le roomy
    obtain ⟨fault, rfl⟩ := resolveNames_ofStore_error hfew hresolved
    refine .inl ⟨?_, fault, by rw [run_eq, hresolved]; rfl⟩
    rintro ⟨filter, hok⟩
    cases hok
  | ok filter =>
    by_cases hfits : ∀ n ∈ request.idNumbers, fits64 n = true
    · exact .inr (.inr ⟨hfits, exists_run roomy fit untexted first last buckets hresolved
        hfits⟩)
    · exact .inr (.inl ⟨⟨filter, rfl⟩, hfits, run_of_not_fits roomy hresolved hfits⟩)

end Sound

end StoreRequest

/-! ## Outcomes of routes -/

/-- Whether a selection is **in order** for a store: it can be planned, and its names are known. -/
def DataRoute.Accepts (route : DataRoute) (store : Store) (selection : MetricQuery) : Prop :=
  route.Plans selection ∧
    ∃ filter, (Backend.ofStore store).resolveNames selection.metricNames = .ok filter

/-- Whether a request fails **for its identifiers**: they are too long to be read, or they are read,
nothing else is at fault, and one of them is too large for the store. -/
def DataRoute.Overruns (route : DataRoute) (store : Store) (selection : MetricQuery)
    (ids : PathIds) : Prop :=
  ids.IsTooLong ∨ route.Accepts store selection ∧ ids.IsTooLarge

section Outcomes

variable {route : DataRoute} {ids : PathIds} {queryString : String} {selection : MetricQuery}
  {store : Store} {now : Int} (carries : route.Carries ids)
  (selected : route.selection queryString = .ok selection)
include carries selected

/-- Where the identifiers fail to be read, **so does the route**. -/
theorem rows_of_numbers_error {backend : Backend} {f : Failure} (h : ids.numbers = .error f) :
    route.rows backend now ids queryString = .error f := by
  refine bind_eq_error_iff.2 (.inl ?_)
  rw [DataRoute.check_eq, selected]
  show (route.scope ids).bind _ = _
  rw [carries.scope_eq_error_iff.2 h]
  rfl

/-- Where the identifiers are read, the request is refused, fails for an identifier that is too
large, or **has rows**. -/
theorem rows_of_numbers {numbers : List Int} (h : ids.numbers = .ok numbers)
    (few : selection.metricNames.length + 8 ≤ variableLimit) (fit : store.NameIdsFit)
    (untexted : ∀ s ∈ store.samples, isText s.value = false)
    (first : fits64 (now - freshness) = true) (last : fits64 now = true) :
    (¬route.Accepts store selection ∧
      ∃ fault, route.rows (.ofStore store) now ids queryString = .error (.parameter fault)) ∨
    (route.Accepts store selection ∧ ids.IsTooLarge ∧
      route.rows (.ofStore store) now ids queryString = .error .idOverflow) ∨
    (¬ids.IsTooLarge ∧ ∃ rows, route.rows (.ofStore store) now ids queryString = .ok rows) := by
  cases hscope : route.scope ids with
  | error f => cases h.symm.trans (carries.scope_eq_error_iff.1 hscope)
  | ok scope =>
    obtain rfl := Except.ok.inj (h.symm.trans (carries.numbers_of_scope hscope))
    have hcheck : route.check ids queryString = route.request selection scope := by
      rw [DataRoute.check_eq, selected]
      show (route.scope ids).bind _ = _
      rw [hscope]
      rfl
    cases hrequest : route.request selection scope with
    | error f =>
      obtain ⟨fault, rfl⟩ := DataRoute.request_error hrequest
      refine .inl ⟨fun haccepts => ?_, fault, bind_eq_error_iff.2 (.inl (hcheck.trans hrequest))⟩
      obtain ⟨request, hok⟩ := DataRoute.exists_request_iff.2 haccepts.1
      cases hrequest.symm.trans hok
    | ok request =>
      have hrows : route.rows (.ofStore store) now ids queryString
          = request.run (.ofStore store) now := by
        rw [DataRoute.rows, hcheck, hrequest]
        rfl
      have hfits := PathIds.fits_iff carries.given h
      rw [← DataRoute.idNumbers_of_request hrequest] at hfits
      have hplans := DataRoute.exists_request_iff.1 ⟨request, hrequest⟩
      have hbuckets : ∀ query scope names rule, request = .series query scope names rule →
          ∃ bucketing, rule.bucketing = .ok bucketing := by
        rintro query scope names rule rfl
        exact exists_bucketing_of_check (hcheck.trans hrequest)
      have hroomy : request.IsRoomy := by
        rwa [StoreRequest.IsRoomy, DataRoute.names_of_request selected hrequest]
      have hrun := StoreRequest.run_cases hroomy fit untexted first last hbuckets
      rw [DataRoute.names_of_request selected hrequest, hfits, not_not] at hrun
      rw [hrows]
      rcases hrun with ⟨hnot, hrefused⟩ | ⟨hnames, hlarge, hfailed⟩ | ⟨hnot, hran⟩
      · exact .inl ⟨fun haccepts => hnot haccepts.2, hrefused⟩
      · exact .inr (.inl ⟨⟨hplans, hnames⟩, hlarge, hfailed⟩)
      · exact .inr (.inr ⟨hnot, hran⟩)

end Outcomes

/-- A request fails for its identifiers only if one of them is the numeral of a number that **does
not fit** 64 bits. -/
theorem exists_numeral_of_overruns {route : DataRoute} {store : Store} {selection : MetricQuery}
    {ids : PathIds} (h : route.Overruns store selection ids) :
    ∃ id ∈ ids, ∃ n : Nat, 2 ^ 63 ≤ n ∧ id.2 = toString n := by
  rcases h with ⟨before, id, after, n, rfl, -, hle, htext⟩ | ⟨-, -, hlarge⟩
  · refine ⟨id, by simp, n, ?_, htext⟩
    calc 2 ^ 63 ≤ 10 ^ 63 := Nat.pow_le_pow_left (by decide) 63
      _ ≤ 10 ^ numeralLimit := Nat.pow_le_pow_right (by decide) (by decide)
      _ ≤ n := hle
  · exact hlarge

/-! ## Answers -/

/-- Whether an answer is **in order**: it has data, or it tells the client what is wrong with the
request. -/
def Answer.IsInOrder (answer : Answer) : Prop :=
  answer.code = 200 ∨ ∃ message, answer = ⟨404, .bad message⟩

/-- An answer in order is **no failure**. -/
theorem Answer.IsInOrder.code_ne {answer : Answer} (h : answer.IsInOrder) : answer.code ≠ 500 := by
  rcases h with hok | ⟨message, rfl⟩
  · rw [hok]
    decide
  · show 404 ≠ 500
    decide

/-- A time that has a date **fits the store**. -/
theorem fits64_of_hasDate {n : Int} (h : Record.hasDate n = true) : fits64 n = true := by
  simp only [Record.hasDate, Bool.and_eq_true, decide_eq_true_eq] at h
  simp only [fits64, Decimal.twoTo, Bool.and_eq_true]
  norm_num
  omega

section Answers

variable {server : Server} {request : Request} {route : DataRoute} {ids : PathIds}
  (found : findRoute server.config.basePath request.path = some (.data route, ids))
  (get : request.method = "GET")
include found get

/-- A request that has no rows is answered with **the reason**. -/
theorem answer_of_rows_error {f : Failure}
    (h : route.rows server.backend server.second ids request.queryString = .error f) :
    (server.answer request).1 = f.outcome.1 := by
  have hfetch : route.fetch server.backend server.second ids request.queryString = .error f := by
    rcases bind_eq_error_iff.1 h with hcheck | ⟨checked, hcheck, hrun⟩
    · exact bind_eq_error_iff.2 (.inl hcheck)
    · exact bind_eq_error_iff.2 (.inr ⟨checked, hcheck, bind_eq_error_iff.2 (.inl hrun)⟩)
  rw [answer_data found get, Server.dataBody, hfetch]
  rfl

section Selected

variable {store : Store} (serves : server.backend = .ofStore store) (fit : store.NameIdsFit)
  (untexted : ∀ s ∈ store.samples, isText s.value = false)
  (first : Record.hasDate (server.second - freshness) = true)
  (last : Record.hasDate server.second = true) {selection : MetricQuery}
  (few : selection.metricNames.length + 8 ≤ variableLimit)
  (selected : route.selection request.queryString = .ok selection)
include selected

/-- Identifiers that fail to be read are answered with **the reason**. -/
theorem answer_of_numbers_error {f : Failure} (h : ids.numbers = .error f) :
    (server.answer request).1 = f.outcome.1 :=
  answer_of_rows_error found get
    (rows_of_numbers_error (DataRoute.carries_of_findRoute found) selected h)

include serves fit untexted first last few

/-- A request whose identifiers are read is refused, fails for one that is too large, or **is
answered**. -/
theorem answer_of_numbers {numbers : List Int} (h : ids.numbers = .ok numbers) :
    (¬route.Accepts store selection ∧ ∃ message, (server.answer request).1 = ⟨404, .bad message⟩) ∨
      (route.Accepts store selection ∧ ids.IsTooLarge ∧ (server.answer request).1.code = 500) ∨
      (¬ids.IsTooLarge ∧ (server.answer request).1.code = 200) := by
  have hdated : route.IsDated server.second := fun _ _ => ⟨first, last⟩
  have hrows := rows_of_numbers (DataRoute.carries_of_findRoute found) selected h few fit untexted
    (fits64_of_hasDate first) (fits64_of_hasDate last)
  rw [← serves] at hrows
  rcases hrows with ⟨hnot, fault, hrefused⟩ | ⟨haccepts, hlarge, hfailed⟩ | ⟨hnot, hrows⟩
  · exact .inl ⟨hnot, _, answer_of_rows_error found get hrefused⟩
  · exact .inr (.inl ⟨haccepts, hlarge, by rw [answer_of_rows_error found get hfailed]; rfl⟩)
  · exact .inr (.inr ⟨hnot, (code_answer_of_isDated found get hdated).2 hrows⟩)

/-- A request is answered in order or fails **for its identifiers**. -/
theorem isInOrder_or_overruns :
    (server.answer request).1.IsInOrder ∧ ¬route.Overruns store selection ids ∨
      (server.answer request).1.code = 500 ∧ route.Overruns store selection ids := by
  have hgiven := (DataRoute.carries_of_findRoute found).given
  have hlong_iff := PathIds.numbers_eq_numeralTooLong_iff hgiven
  cases hnumbers : ids.numbers with
  | error f =>
    have hanswer := answer_of_numbers_error found get selected hnumbers
    rcases PathIds.numbers_error hnumbers with rfl | ⟨fault, rfl⟩
    · exact .inr ⟨by rw [hanswer]; rfl, .inl (hlong_iff.1 hnumbers)⟩
    · refine .inl ⟨.inr ⟨_, hanswer⟩, ?_⟩
      rintro (hlong | ⟨-, hreadable, -⟩)
      · cases hnumbers.symm.trans (hlong_iff.2 hlong)
      · obtain ⟨numbers, hok⟩ := (PathIds.exists_numbers_iff hgiven).2 hreadable
        cases hnumbers.symm.trans hok
  | ok numbers =>
    have hshort : ¬ids.IsTooLong := fun hlong => by
      cases hnumbers.symm.trans (hlong_iff.2 hlong)
    rcases answer_of_numbers found get serves fit untexted first last few selected hnumbers with
      ⟨hnot, hrefused⟩ | ⟨haccepts, hlarge, hfailed⟩ | ⟨hnot, hanswered⟩
    · exact .inl ⟨.inr hrefused, fun h => h.elim hshort fun h => hnot h.1⟩
    · exact .inr ⟨hfailed, .inr ⟨haccepts, hlarge⟩⟩
    · exact .inl ⟨.inl hanswered, fun h => h.elim hshort fun h => hnot h.2⟩

end Selected

end Answers

/-- How an answer **depends on the identifiers** of a path. Numbers of 64 bits never fail. The
request fails exactly if it overruns, and is in order otherwise. Readable identifiers that are not
too large are taken, if nothing else is wrong with the request; and the first that is not readable,
if it is no numeral, is refused by its name and text. -/
structure Answer.DependsOnIds (answer : Answer) (route : DataRoute) (store : Store)
    (selection : MetricQuery) (ids : PathIds) : Prop where
  in_order : (∀ id ∈ ids, ∀ n : Nat, id.2 = toString n → n < 2 ^ 63) → answer.IsInOrder
  fails_iff : answer.code = 500 ↔ route.Overruns store selection ids
  in_order_iff : answer.IsInOrder ↔ answer.code ≠ 500
  taken : (∀ id ∈ ids, IsReadable id.2) → ¬ids.IsTooLarge → route.Accepts store selection →
    answer.code = 200
  refused : ∀ (before after : PathIds) (id : IdName × String), ids = before ++ id :: after →
    (∀ other ∈ before, IsReadable other.2) → (∀ n : Nat, 0 < n → id.2 ≠ toString n) →
    answer = ⟨404, .bad (ParameterFault.malformedId id.1 id.2).message⟩

/-- **Only oversized identifiers fail.** Take a server over a store in order, whose metrics have
identifiers of 64 bits and whose samples hold no texts, at a time that has a date, and a `GET`
request to a data route whose parameters can be read and name no more metrics than a statement has
room for. Unless an identifier of its path is the numeral of a number that does not fit 64 bits, the
request is answered with 200 or told with 404 what is wrong with it, whatever the identifiers are. It is
answered with 500 exactly if the first identifier that is not readable is a numeral with too many
digits, or if all are readable, nothing else is wrong with the request, and one of them does not fit 64
bits. -/
theorem only_oversized_ids_fail {server : Server} {store : Store} {request : Request}
    {route : DataRoute} {ids : PathIds} {selection : MetricQuery}
    (serves : server.backend = .ofStore store) (fit : store.NameIdsFit)
    (untexted : ∀ s ∈ store.samples, isText s.value = false)
    (first : Record.hasDate (server.second - freshness) = true)
    (last : Record.hasDate server.second = true)
    (found : findRoute server.config.basePath request.path = some (.data route, ids))
    (get : request.method = "GET")
    (selected : route.selection request.queryString = .ok selection)
    (few : selection.metricNames.length + 8 ≤ variableLimit) :
    (server.answer request).1.DependsOnIds route store selection ids := by
  have hgiven := (DataRoute.carries_of_findRoute found).given
  have houtcome := isInOrder_or_overruns found get serves fit untexted first last few selected
  constructor
  case in_order =>
    intro hsmall
    rcases houtcome with ⟨horder, -⟩ | ⟨-, hoverruns⟩
    · exact horder
    · obtain ⟨id, hid, n, hle, htext⟩ := exists_numeral_of_overruns hoverruns
      exact absurd (hsmall id hid n htext) (Nat.not_lt.2 hle)
  case fails_iff =>
    rcases houtcome with ⟨horder, hnot⟩ | ⟨hfailed, hoverruns⟩
    · exact ⟨fun h => absurd h horder.code_ne, fun h => absurd h hnot⟩
    · exact ⟨fun _ => hoverruns, fun _ => hfailed⟩
  case in_order_iff =>
    rcases houtcome with ⟨horder, -⟩ | ⟨hfailed, -⟩
    · exact ⟨fun h => h.code_ne, fun _ => horder⟩
    · exact ⟨fun h => h.code_ne, fun h => absurd hfailed h⟩
  case taken =>
    intro hreadable hnot haccepts
    obtain ⟨numbers, hnumbers⟩ := (PathIds.exists_numbers_iff hgiven).2 hreadable
    rcases answer_of_numbers found get serves fit untexted first last few selected hnumbers with
      ⟨hrefused, -⟩ | ⟨-, hlarge, -⟩ | ⟨-, hanswered⟩
    · exact absurd haccepts hrefused
    · exact absurd hlarge hnot
    · exact hanswered
  case refused =>
    intro before after id hids hbefore hid
    have hnumbers := PathIds.numbers_of_no_numeral hgiven hids hbefore hid
    exact answer_of_numbers_error found get selected hnumbers

/-- One node with a sample. -/
def sampledNode : Store := { oneNode with samples := [firstSample] }

/-- A request for the newest samples of **a process** of the node. -/
def processRequest (process : String) : Request :=
  ⟨"GET", "/api/v1/snapshot/1/nodes/1/processes/" ++ process, "", "127.0.0.1"⟩

theorem found_processRequest :
    findRoute (serverOn sampledNode).config.basePath (processRequest "7").path
        = some (.data (.snapshot (.entities .process)),
          [(.cluster, "1"), (.node, "1"), (.process, "7")]) ∧
      findRoute (serverOn sampledNode).config.basePath
          (processRequest "9223372036854775808").path
        = some (.data (.snapshot (.entities .process)),
          [(.cluster, "1"), (.node, "1"), (.process, "9223372036854775808")]) := by
  decide +kernel

/-- The request selects **all metrics**. -/
theorem selection_processRequest (process : String) :
    (DataRoute.snapshot (.entities .process)).selection (processRequest process).queryString
      = .ok ⟨"UTC", [], [], ""⟩ := by
  have hparams : QueryParams.parse (processRequest process).queryString = [] := rfl
  rw [DataRoute.selection, parse_of_no_zone hparams rfl rfl]
  rfl

/-- The first number that does not fit 64 bits **is readable**. -/
theorem isReadable_two_pow_63 : IsReadable "9223372036854775808" := by
  refine ⟨2 ^ 63, by decide, ?_, rfl⟩
  calc 2 ^ 63 < 10 ^ 63 := by decide
    _ ≤ 10 ^ numeralLimit := Nat.pow_le_pow_right (by decide) (by decide)

/-- Among the processes of a node, the seventh is answered in order, and one that is beyond 64 bits
fails. -/
theorem process_beyond_64_bits_of_a_node :
    (serverOn sampledNode).backend = .ofStore sampledNode ∧ sampledNode.NameIdsFit ∧
    (∀ s ∈ sampledNode.samples, isText s.value = false) ∧
    Record.hasDate ((serverOn sampledNode).second - freshness) = true ∧
    Record.hasDate (serverOn sampledNode).second = true ∧
    (findRoute (serverOn sampledNode).config.basePath (processRequest "7").path
        = some (.data (.snapshot (.entities .process)),
          [(.cluster, "1"), (.node, "1"), (.process, "7")]) ∧
      (processRequest "7").method = "GET" ∧
      (DataRoute.snapshot (.entities .process)).selection (processRequest "7").queryString
        = .ok ⟨"UTC", [], [], ""⟩ ∧
      ((serverOn sampledNode).answer (processRequest "7")).1.IsInOrder) ∧
    findRoute (serverOn sampledNode).config.basePath (processRequest "9223372036854775808").path
        = some (.data (.snapshot (.entities .process)),
          [(.cluster, "1"), (.node, "1"), (.process, "9223372036854775808")]) ∧
      (processRequest "9223372036854775808").method = "GET" ∧
      (DataRoute.snapshot (.entities .process)).selection
          (processRequest "9223372036854775808").queryString
        = .ok ⟨"UTC", [], [], ""⟩ ∧
      ((serverOn sampledNode).answer (processRequest "9223372036854775808")).1.code = 500 := by
  have hfit : sampledNode.NameIdsFit := by decide
  have huntexted : ∀ s ∈ sampledNode.samples, isText s.value = false := by
    intro s hs
    obtain rfl := List.mem_singleton.1 hs
    rfl
  have hfirst : Record.hasDate ((serverOn sampledNode).second - freshness) = true := by
    rw [second_serverOn]
    rfl
  have hlast : Record.hasDate (serverOn sampledNode).second = true := by
    rw [second_serverOn]
    rfl
  obtain ⟨hfound, hfound'⟩ := found_processRequest
  have hselected := selection_processRequest "7"
  have hselected' := selection_processRequest "9223372036854775808"
  refine ⟨rfl, hfit, huntexted, hfirst, hlast, ⟨hfound, rfl, hselected, ?_⟩,
    hfound', rfl, hselected', ?_⟩
  · refine (only_oversized_ids_fail rfl hfit huntexted hfirst hlast hfound rfl hselected
      (by decide)).in_order ?_
    intro id hid n htext
    -- a numeral of one digit is of a number below ten
    have hdigit : (toString n).length ≤ 1 := by
      rw [← htext]
      simp only [List.mem_cons, List.not_mem_nil, or_false] at hid
      rcases hid with rfl | rfl | rfl <;> decide
    have hten : n < 10 ^ 1 := (length_toString_le_iff (by decide)).1 hdigit
    omega
  · refine (only_oversized_ids_fail rfl hfit huntexted hfirst hlast hfound' rfl
      hselected' (by decide)).fails_iff.2 (.inr ⟨⟨fun _ h => (nomatch h), [], rfl⟩, ?_, ?_⟩)
    · have hone : IsReadable "1" := ⟨1, by decide, Nat.one_lt_pow (by decide) (by decide), rfl⟩
      intro id hid
      simp only [List.mem_cons, List.not_mem_nil, or_false] at hid
      rcases hid with rfl | rfl | rfl
      · exact hone
      · exact hone
      · exact isReadable_two_pow_63
    · exact ⟨(.process, "9223372036854775808"), by simp, 2 ^ 63, Nat.le_refl _, rfl⟩

/-- Below a cluster of an identifier beyond 64 bits, an empty store **fails**: its server finds no
fault with the request and has no agents to answer. -/
theorem agents_of_a_cluster_beyond_64_bits :
    findRoute (serverOn .empty).config.basePath
        (getTarget "/api/v1/clusters/9223372036854775808/agents").path
      = some (.data .clusterAgents, [(.cluster, "9223372036854775808")]) ∧
    (getTarget "/api/v1/clusters/9223372036854775808/agents").method = "GET" ∧
    ((serverOn .empty).answer (getTarget "/api/v1/clusters/9223372036854775808/agents")).1
      = ⟨500, .bad "internal server error"⟩ ∧
    ¬((serverOn .empty).answer
      (getTarget "/api/v1/clusters/9223372036854775808/agents")).1.IsInOrder := by
  have hfound : findRoute (serverOn .empty).config.basePath
      (getTarget "/api/v1/clusters/9223372036854775808/agents").path
        = some (.data .clusterAgents, [(.cluster, "9223372036854775808")]) := by
    decide +kernel
  have hanswer : ((serverOn .empty).answer
      (getTarget "/api/v1/clusters/9223372036854775808/agents")).1
        = ⟨500, .bad "internal server error"⟩ := by
    have hrows : DataRoute.clusterAgents.rows (serverOn .empty).backend (serverOn .empty).second
        [(.cluster, "9223372036854775808")]
        (getTarget "/api/v1/clusters/9223372036854775808/agents").queryString
          = .error .idOverflow := rfl
    rw [answer_of_rows_error hfound rfl hrows]
    rfl
  exact ⟨hfound, rfl, hanswer, fun horder => horder.code_ne (congrArg Answer.code hanswer)⟩

end ClusterMetrics
