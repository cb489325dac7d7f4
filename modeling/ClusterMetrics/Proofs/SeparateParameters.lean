import ClusterMetrics.Proofs.JsonSpelling
import ClusterMetrics.Proofs.QueryZones
import Mathlib.Data.List.Nodup

/-! # Separate parameters and query objects

The fields of a selection can be given as separate query parameters or together in a query object. The
two ways select the same, whatever the texts are and however they are encoded; only the texts that
lose their quote characters on one way have to be free of them.

* **`MetricQuery.IsWrittenApart`**, **`MetricQuery.IsWrittenTogether`**: the query strings that give
  fields in one way or the other.
* **`MetricQuery.parse_of_isWrittenApart`**, **`MetricQuery.parse_of_isWrittenTogether`**: what they
  select.
* **`separate_and_object_parameters_agree`**: they select the same. -/

namespace ClusterMetrics

open ClusterMetrics.Text

/-! ## Lookups by name -/

/-- The last value of a name is the last **of all** its values. -/
theorem QueryParams.last?_eq (params : QueryParams) (name : String) :
    params.last? name = (params.all name).getLast? := by
  rw [QueryParams.last?, QueryParams.all, List.getLast?_map, ← List.head?_reverse,
    ← List.filter_reverse, List.head?_filter]

/-- Where no two entries have one key, every entry is **found by its key**. -/
theorem lookupLast_of_mem {entries : List (String × Value)} (hkeys : (entries.map (·.1)).Nodup)
    {key : String} {v : Value} (h : (key, v) ∈ entries) :
    Value.lookupLast key entries = some v := by
  have hfind : ∃ e, entries.reverse.find? (·.1 == key) = some e := by
    rw [← Option.isSome_iff_exists, List.find?_isSome]
    exact ⟨(key, v), List.mem_reverse.2 h, by simp⟩
  obtain ⟨e, he⟩ := hfind
  have hmem : e ∈ entries := List.mem_reverse.1 (List.mem_of_find?_eq_some he)
  have hkey : e.1 = key := by simpa using List.find?_some he
  obtain rfl : e = (key, v) := List.inj_on_of_nodup_map hkeys hmem h hkey
  rw [Value.lookupLast, he]
  rfl

/-! ## Ways of giving fields -/

/-- Whether a text holds **no quote characters**. -/
def IsUnquoted (s : String) : Prop := singleQuote ∉ s.toList ∧ doubleQuote ∉ s.toList

theorem withoutQuotes_of_isUnquoted {s : String} (h : IsUnquoted s) : withoutQuotes s = s := by
  have hkept : ∀ c ∈ s.toList, (!isQuoteMark c) = true := by
    intro c hc
    have hsingle : c ≠ singleQuote := fun heq => h.1 (heq ▸ hc)
    have hdouble : c ≠ doubleQuote := fun heq => h.2 (heq ▸ hc)
    simp [isQuoteMark, hsingle, hdouble]
  rw [withoutQuotes, List.filter_eq_self.2 hkept, String.ofList_toList]

namespace MetricQuery

/-- Whether named values give fields **apart**: one for the zone and one for the granularity, and one
for each element of a list, in order. -/
structure IsApart (fields : MetricQuery) (params : QueryParams) : Prop where
  zone : params.all "timezone" = [fields.zoneName]
  granularity : params.all "granularity" = [fields.granularity]
  names : params.all "metricNames" = fields.metricNames
  range : params.all "dateRange" = fields.dateRange
  query : params.all "query" = []

/-- Whether a query string is a form encoding of fields given **apart**. -/
def IsWrittenApart (fields : MetricQuery) (queryString : String) : Prop :=
  ∃ params, fields.IsApart params ∧ params.Carries queryString

/-- The entries of a **query object**. -/
def objectEntries (fields : MetricQuery) : List (String × Value) :=
  [("timezone", .text fields.zoneName), ("granularity", .text fields.granularity),
    ("metricNames", .list (fields.metricNames.map .text)),
    ("dateRange", .list (fields.dateRange.map .text))]

/-- Whether a query string is a form encoding of a parameter that spells fields **together**, as an
object with the entries in any order. -/
def IsWrittenTogether (fields : MetricQuery) (queryString : String) : Prop :=
  ∃ entries text, entries.Perm fields.objectEntries ∧ Json.IsSpelling (.dict entries) text ∧
    QueryParams.Carries [("query", text)] queryString

/-- Fields as **separate values**. -/
def params (fields : MetricQuery) : QueryParams :=
  ("timezone", fields.zoneName) :: ("granularity", fields.granularity) ::
    (fields.metricNames.map ("metricNames", ·) ++ fields.dateRange.map ("dateRange", ·))

theorem isApart_params (fields : MetricQuery) : fields.IsApart fields.params := by
  have hsame : ∀ (name : String) (values : List String),
      QueryParams.all (values.map (name, ·)) name = values := by
    intro name values
    simp [QueryParams.all, List.filter_map, Function.comp_def]
  have hother : ∀ (name other : String) (values : List String), name ≠ other →
      QueryParams.all (values.map (name, ·)) other = [] := by
    intro name other values hne
    simp [QueryParams.all, List.filter_map, Function.comp_def, hne]
  have hall : ∀ name, fields.params.all name = (if "timezone" = name then [fields.zoneName] else [])
      ++ ((if "granularity" = name then [fields.granularity] else [])
      ++ (QueryParams.all (fields.metricNames.map ("metricNames", ·)) name
      ++ QueryParams.all (fields.dateRange.map ("dateRange", ·)) name)) := by
    intro name
    simp only [params, QueryParams.all, List.filter_cons, List.filter_append, beq_iff_eq]
    split <;> split <;> simp
  constructor
  · rw [hall, hother _ _ _ (by decide), hother _ _ _ (by decide)]
    rfl
  · rw [hall, hother _ _ _ (by decide), hother _ _ _ (by decide)]
    rfl
  · rw [hall, hsame, hother _ _ _ (by decide), List.append_nil]
    rfl
  · rw [hall, hsame, hother _ _ _ (by decide)]
    rfl
  · rw [hall, hother _ _ _ (by decide), hother _ _ _ (by decide)]
    rfl

/-- Fields can be **written apart**. -/
theorem isWrittenApart_render (fields : MetricQuery) :
    fields.IsWrittenApart fields.params.render :=
  ⟨fields.params, fields.isApart_params, QueryParams.carries_render fields.params⟩

/-- A query object is **spelled** as it is written. -/
theorem isSpelling_object (fields : MetricQuery) :
    Json.IsSpelling (.dict fields.objectEntries) (Json.render (.dict fields.objectEntries)) := by
  have htext : ∀ depth s, Json.Spells depth (.text s) (Json.render (.text s)).toList :=
    fun depth s => Json.spells_text.2 (Json.isLiteral_stringLiteral s)
  have htexts : ∀ depth, ∀ texts : List String, Json.Spells (depth + 1) (.list (texts.map .text))
      (Json.render (.list (texts.map .text))).toList := by
    refine fun depth texts => Json.bracketed_render_list fun v hv => ?_
    obtain ⟨s, -, rfl⟩ := List.mem_map.1 hv
    exact htext depth s
  have hobject : ∀ depth, Json.Spells (depth + 1 + 1) (.dict fields.objectEntries)
      (Json.render (.dict fields.objectEntries)).toList := by
    refine fun depth => Json.bracketed_render_dict ?_
    simp only [objectEntries, List.forall_mem_cons]
    exact ⟨htext _ _, htext _ _, htexts _ _, htexts _ _, by simp⟩
  have hlimit : Json.depthLimit = 198 + 1 + 1 := rfl
  refine Json.isSpelling_of_spells ?_
  rw [hlimit]
  exact hobject 198

/-- Fields can be **written together**. -/
theorem isWrittenTogether_render (fields : MetricQuery) :
    fields.IsWrittenTogether
      (QueryParams.render [("query", Json.render (.dict fields.objectEntries))]) :=
  ⟨_, _, .refl _, fields.isSpelling_object, QueryParams.carries_render _⟩

/-! ## What they select -/

/-- Fields **with their zone checked**. -/
def checked (fields : MetricQuery) : Except Failure MetricQuery :=
  (checkZone fields.zoneName).map fun name => { fields with zoneName := name }

/-- Fields written apart **select by them**, unless their quote characters are dropped. -/
theorem parse_of_isWrittenApart {fields : MetricQuery} (zone : IsUnquoted fields.zoneName)
    (granularity : IsUnquoted fields.granularity) {queryString : String}
    (h : fields.IsWrittenApart queryString) : parse queryString = fields.checked := by
  obtain ⟨params, hfields, hparams⟩ := h
  have hquery : params.last? "query" = none := by rw [QueryParams.last?_eq, hfields.query]; rfl
  have hzone : params.last? "timezone" = some fields.zoneName := by
    rw [QueryParams.last?_eq, hfields.zone]
    rfl
  have hgranularity : params.last? "granularity" = some fields.granularity := by
    rw [QueryParams.last?_eq, hfields.granularity]
    rfl
  simp only [parse, QueryParams.parse_of_carries hparams, hquery, ofParams, hzone, hgranularity,
    Option.getD_some, withoutQuotes_of_isUnquoted zone, withoutQuotes_of_isUnquoted granularity,
    hfields.names, hfields.range, checked]
  cases checkZone fields.zoneName <;> rfl

/-- A list of texts **holds nothing else**. -/
theorem allTexts?_map_text (texts : List String) : allTexts? (texts.map .text) = some texts := by
  induction texts with
  | nil => rfl
  | cons s texts ih => rw [List.map_cons, allTexts?, ih]; rfl

theorem listField_texts (texts : List String) :
    listField (some (.list (texts.map .text))) = .ok texts := by
  simp only [listField, allTexts?_map_text]

/-- Fields written together **select by them**. -/
theorem parse_of_isWrittenTogether {fields : MetricQuery} {queryString : String}
    (h : fields.IsWrittenTogether queryString) : parse queryString = fields.checked := by
  obtain ⟨entries, text, hentries, hspelling, hparams⟩ := h
  have hread := Json.parse?_of_isSpelling hspelling
  have hquery : QueryParams.last? [("query", text)] "query" = some text := rfl
  -- an empty parameter would be taken for an absent one, but no value is spelled by the empty text
  have htext : text ≠ "" := by
    rintro rfl
    cases hread
  have hkeys : (entries.map (·.1)).Nodup := by
    have hobject : (fields.objectEntries.map (·.1)).Nodup := by
      show ["timezone", "granularity", "metricNames", "dateRange"].Nodup
      decide
    exact (hentries.map (·.1)).nodup_iff.2 hobject
  have hfield : ∀ {key : String} {v : Value}, (key, v) ∈ fields.objectEntries →
      Value.lookupLast key entries = some v := fun hmem =>
    lookupLast_of_mem hkeys (hentries.mem_iff.2 hmem)
  have hzone : Value.lookupLast "timezone" entries = some (.text fields.zoneName) :=
    hfield (by simp [objectEntries])
  have hnames : Value.lookupLast "metricNames" entries
      = some (.list (fields.metricNames.map .text)) := hfield (by simp [objectEntries])
  have hrange : Value.lookupLast "dateRange" entries
      = some (.list (fields.dateRange.map .text)) := hfield (by simp [objectEntries])
  have hgranularity : Value.lookupLast "granularity" entries
      = some (.text fields.granularity) := hfield (by simp [objectEntries])
  simp only [parse, QueryParams.parse_of_carries hparams, hquery, if_neg htext, ofJson, hread,
    hzone, hnames, hrange, hgranularity, Option.some_or, listField_texts, textField, checked]
  -- the zone is checked first, so that its failure is the only one
  simp only [Except.bind]
  cases checkZone fields.zoneName <;> rfl

end MetricQuery

/-! ## Agreement -/

/-- **Separate parameters and query objects agree.** Let the texts of a zone and a granularity be
without quote characters, and any metric names and bounds of a range be given. There are query strings
that give them as separate parameters and ones that give them as a query object; and every one of the
first, however it is form encoded, selects what every one of the second does, however the object is
spelled and form encoded: the same fields, or the same failure. -/
theorem separate_and_object_parameters_agree {fields : MetricQuery}
    (zone : IsUnquoted fields.zoneName) (granularity : IsUnquoted fields.granularity) :
    (∃ apart, fields.IsWrittenApart apart) ∧ (∃ together, fields.IsWrittenTogether together) ∧
    ∀ apart together, fields.IsWrittenApart apart → fields.IsWrittenTogether together →
      MetricQuery.parse apart = MetricQuery.parse together ∧
      MetricQuery.parse together
        = (MetricQuery.checkZone fields.zoneName).map fun name => { fields with zoneName := name } := by
  refine ⟨⟨_, fields.isWrittenApart_render⟩, ⟨_, fields.isWrittenTogether_render⟩,
    fun apart together hapart htogether => ?_⟩
  have hobject := MetricQuery.parse_of_isWrittenTogether htogether
  exact ⟨(MetricQuery.parse_of_isWrittenApart zone granularity hapart).trans hobject.symm, hobject⟩

/-- Metric names with a plus, an ampersand, a **quote and a backslash**, and characters of two and of
four bytes. -/
def markedNames : MetricQuery := ⟨"Asia/Seoul", ["a +&", "\x22\x5cé📈"], [], "hour"⟩

/-- The names as two parameters. -/
def markedApart : String :=
  "timezone=Asia%2fSeoul&granularity=hour&metricNames=a%20%2b%26" ++
    "&metricNames=%22%5c%c3%a9%f0%9f%93%88"

/-- The names in a query object. -/
def markedTogether : String :=
  "query=%7b%22timezone%22%3a%22Asia%2fSeoul%22%2c%22granularity%22%3a%22hour%22%2c" ++
    "%22metricNames%22%3a%5b%22a%20%2b%26%22%2c%22%5c%22%5c%5c%c3%a9%f0%9f%93%88%22%5d%2c" ++
    "%22dateRange%22%3a%5b%5d%7d"

/-- Names with marks are selected by hours in Seoul, **apart and together**. -/
theorem marked_names_are_read_alike :
    IsUnquoted markedNames.zoneName ∧ IsUnquoted markedNames.granularity ∧
      MetricQuery.parse markedApart = .ok markedNames ∧
      MetricQuery.parse markedTogether = .ok markedNames := by
  have hzone : IsUnquoted markedNames.zoneName := ⟨by decide, by decide⟩
  have hgranularity : IsUnquoted markedNames.granularity := ⟨by decide, by decide⟩
  have hapart : markedNames.params.render = markedApart := by decide +kernel
  have htogether : QueryParams.render [("query", Json.render (.dict markedNames.objectEntries))]
      = markedTogether := by decide +kernel
  have hseoul : MetricQuery.checkZone "Asia/Seoul" = .ok "Asia/Seoul" := by decide +kernel
  obtain ⟨hsame, hselected⟩ := (separate_and_object_parameters_agree hzone hgranularity).2.2
    markedApart markedTogether (hapart ▸ markedNames.isWrittenApart_render)
    (htogether ▸ markedNames.isWrittenTogether_render)
  have hobject : MetricQuery.parse markedTogether = .ok markedNames :=
    hselected.trans (congrArg (Except.map _) hseoul)
  exact ⟨hzone, hgranularity, hsame.trans hobject, hobject⟩

end ClusterMetrics
