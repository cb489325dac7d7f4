import ClusterMetrics.Proofs.Numerals
import ClusterMetrics.Proofs.PathIdentifiers

/-! # Canonical scopes

A text identifies nothing if it is absent or empty, and the positive number that it is the numeral
of otherwise; every other text is at fault. A scope is resolved if all that is required is given and
no text is at fault, and then it has the numbers that the texts identify. If something required is
missing, that is what is told, and otherwise the first text that is at fault.

* **`Identifies`**: the number that a text identifies. **`parseId_eq_ok_iff`**,
  **`parseId_eq_error_iff`**: identifiers are read as what they identify.
* **`RawIds.Gives`**: whether an identifier is given under a label.
* **`Scope.IsOf`**: whether a scope has the numbers that some texts identify.
* **`scopes_have_canonical_numbers`**: when a scope is resolved, which one, and what is told
  otherwise. -/

namespace ClusterMetrics

/-! ## Identified numbers -/

/-- The number that a text **identifies**: none if it is absent or empty, and otherwise the positive
number whose numeral it is. -/
inductive Identifies : Option String → Option Int → Prop
  | absent : Identifies none none
  | empty : Identifies (some "") none
  | numeral {n : Nat} (pos : 0 < n) : Identifies (some (toString n)) (some n)

/-- The text of a number is **its numeral**. -/
theorem Identifies.eq_toString {text : Option String} {n : Int} (h : Identifies text (some n)) :
    text = some (toString n) := by
  cases h
  rfl

section Reading

variable {name : IdName} {text : Option String}

/-- A number that is read is **identified**. -/
theorem identifies_of_parseId {id : Option Int} (h : parseId name text = .ok id) :
    Identifies text id := by
  cases text with
  | none =>
    obtain rfl := Except.ok.inj h
    exact .absent
  | some s =>
    by_cases hempty : s = ""
    · subst hempty
      obtain rfl := Except.ok.inj h
      exact .empty
    by_cases hnumeral : ∃ n : Nat, 0 < n ∧ s = toString n
    · obtain ⟨n, hn, rfl⟩ := hnumeral
      rw [parseId_numeral name hn] at h
      split at h
      · obtain rfl := Except.ok.inj h
        exact .numeral hn
      · cases h
    · rw [parseId_of_no_numeral name hempty fun n hn hs => hnumeral ⟨n, hn, hs⟩] at h
      cases h

/-- A text that identifies nothing is **at fault**. -/
theorem parseId_of_unidentified {s : String} (h : ¬∃ id, Identifies (some s) id) :
    parseId name (some s) = .error (.parameter (.malformedId name s)) := by
  refine parseId_of_no_numeral name ?_ fun n hn hs => ?_
  · rintro rfl
    exact h ⟨none, .empty⟩
  · subst hs
    exact h ⟨some n, .numeral hn⟩

variable (short : ∀ s, text = some s → s.length ≤ numeralLimit)
include short

/-- Texts that are not too long are read as **what they identify**. -/
theorem parseId_eq_ok_iff {id : Option Int} : parseId name text = .ok id ↔ Identifies text id := by
  refine ⟨identifies_of_parseId, fun h => ?_⟩
  cases h with
  | absent => rfl
  | empty => rfl
  | @numeral n hn =>
    rw [parseId_numeral name hn, if_pos ((length_toString_le_iff (by decide)).1 (short _ rfl))]

/-- Texts that are not too long are refused if they **identify nothing**, and are told then. -/
theorem parseId_eq_error_iff {f : Failure} :
    parseId name text = .error f ↔
      (¬∃ id, Identifies text id) ∧
        ∃ s, text = some s ∧ f = .parameter (.malformedId name s) := by
  constructor
  · intro h
    have hnone : ¬∃ id, Identifies text id := by
      rintro ⟨id, hid⟩
      rw [(parseId_eq_ok_iff short).2 hid] at h
      cases h
    cases text with
    | none => exact absurd ⟨none, .absent⟩ hnone
    | some s =>
      rw [parseId_of_unidentified hnone] at h
      exact ⟨hnone, s, rfl, (Except.error.inj h).symm⟩
  · rintro ⟨hnone, s, rfl, rfl⟩
    exact parseId_of_unidentified hnone

end Reading

/-! ## Required identifiers -/

/-- Whether an identifier is **given under a label**: by a text that is not empty. -/
def RawIds.Gives (raw : RawIds) (label : String) : Prop :=
  ∃ name : IdName, name.label = label ∧ ∃ text, raw name = some text ∧ text ≠ ""

/-- A label is given where **its identifier** has a text that is not empty. -/
theorem hasLabel_eq_true_iff {raw : RawIds} {label : String} :
    raw.hasLabel label = true ↔ raw.Gives label := by
  have hgiven : ∀ name, raw.isGiven name = true ↔ ∃ text, raw name = some text ∧ text ≠ "" := by
    intro name
    rw [RawIds.isGiven]
    cases raw name <;> simp
  constructor
  · intro h
    rw [RawIds.hasLabel] at h
    split at h
    · rename_i name hname
      exact ⟨name, by simpa using List.find?_some hname, (hgiven name).1 h⟩
    · cases h
  · rintro ⟨name, rfl, htext⟩
    rw [hasLabel_label]
    exact (hgiven name).2 htext

theorem all_hasLabel_iff {raw : RawIds} {required : List String} :
    required.all raw.hasLabel = true ↔ ∀ label ∈ required, raw.Gives label := by
  simp only [List.all_eq_true, hasLabel_eq_true_iff]

/-- If something required is missing, **that** is what is told. -/
theorem resolveScope_of_missing {raw : RawIds} {required : List String} {level : String}
    (missing : ¬∀ label ∈ required, raw.Gives label) :
    resolveScope raw required level = .error (.parameter .missingParameters) := by
  have hall : required.all raw.hasLabel = false := by
    rw [Bool.eq_false_iff, Ne, all_hasLabel_iff]
    exact missing
  rw [resolveScope, hall]
  rfl

/-! ## Scopes -/

/-- Whether a scope has the numbers **that some texts identify**, that of a process or a container at
its own level only. -/
structure Scope.IsOf (scope : Scope) (kind : EntityKind) (raw : RawIds) : Prop where
  cluster : Identifies (raw .cluster) scope.cluster
  node : Identifies (raw .node) scope.node
  podNamespace : Identifies (raw .namespace_) scope.podNamespace
  pod : Identifies (raw .pod) scope.pod
  level : match kind with
    | .node => scope.level = .node
    | .process => ∃ id, scope.level = .process id ∧ Identifies (raw .process) id
    | .container => ∃ id, scope.level = .container id ∧ Identifies (raw .container) id

/-- The level of a kind of entity **is known**. -/
theorem EntityKind.exists_levelName (kind : EntityKind) : ∃ name,
    LevelName.ofName? kind.level = some name ∧
      ∀ process container, name.entityLevel process container = match kind with
        | .node => .node
        | .process => .process process
        | .container => .container container := by
  cases kind
  · exact ⟨.node, rfl, fun _ _ => rfl⟩
  · exact ⟨.process, rfl, fun _ _ => rfl⟩
  · exact ⟨.container, rfl, fun _ _ => rfl⟩

section Resolved

variable {raw : RawIds} {required : List String} {kind : EntityKind} {scope : Scope}

/-- A resolved scope has **the numbers of its texts**. -/
theorem isOf_of_resolveScope (h : resolveScope raw required kind.level = .ok scope) :
    scope.IsOf kind raw := by
  obtain ⟨-, hcluster, hnode, process, container, hprocess, hcontainer, hspace, hpod, name, hname,
    hlevel⟩ := resolveScope_eq_ok_iff.1 h
  obtain ⟨name', hname', hentity⟩ := kind.exists_levelName
  obtain rfl : name' = name := Option.some.inj (hname'.symm.trans hname)
  rw [hentity] at hlevel
  refine ⟨identifies_of_parseId hcluster, identifies_of_parseId hnode, identifies_of_parseId hspace,
    identifies_of_parseId hpod, ?_⟩
  cases kind with
  | node => exact hlevel
  | process => exact ⟨process, hlevel, identifies_of_parseId hprocess⟩
  | container => exact ⟨container, hlevel, identifies_of_parseId hcontainer⟩

/-- The numbers of a scope are **printed as their texts**. -/
theorem Scope.IsOf.raw_eq (h : scope.IsOf kind raw) {name : IdName} {n : Int}
    (hn : scope.number? name = some n) : raw name = some (toString n) := by
  have hlevel := h.level
  cases name with
  | cluster => exact (hn ▸ h.cluster : Identifies _ (some n)).eq_toString
  | node => exact (hn ▸ h.node : Identifies _ (some n)).eq_toString
  | namespace_ => exact (hn ▸ h.podNamespace : Identifies _ (some n)).eq_toString
  | pod => exact (hn ▸ h.pod : Identifies _ (some n)).eq_toString
  | process =>
    cases kind with
    | process =>
      obtain ⟨id, hid, hidentifies⟩ := hlevel
      rw [Scope.number?, hid] at hn
      exact (hn ▸ hidentifies : Identifies _ (some n)).eq_toString
    | node => rw [Scope.number?, hlevel] at hn; cases hn
    | container =>
      obtain ⟨id, hid, -⟩ := hlevel
      rw [Scope.number?, hid] at hn
      cases hn
  | container =>
    cases kind with
    | container =>
      obtain ⟨id, hid, hidentifies⟩ := hlevel
      rw [Scope.number?, hid] at hn
      exact (hn ▸ hidentifies : Identifies _ (some n)).eq_toString
    | node => rw [Scope.number?, hlevel] at hn; cases hn
    | process =>
      obtain ⟨id, hid, -⟩ := hlevel
      rw [Scope.number?, hid] at hn
      cases hn

variable (short : ∀ name text, raw name = some text → text.length ≤ numeralLimit)
include short

/-- A scope is resolved if everything required is given and **every text identifies** something. -/
theorem exists_resolveScope_iff :
    (∃ scope, resolveScope raw required kind.level = .ok scope) ↔
      (∀ label ∈ required, raw.Gives label) ∧ ∀ name, ∃ id, Identifies (raw name) id := by
  constructor
  · rintro ⟨scope, h⟩
    obtain ⟨hgiven, hcluster, hnode, process, container, hprocess, hcontainer, hspace, hpod, -⟩ :=
      resolveScope_eq_ok_iff.1 h
    refine ⟨all_hasLabel_iff.1 hgiven, fun name => ?_⟩
    cases name with
    | cluster => exact ⟨_, identifies_of_parseId hcluster⟩
    | node => exact ⟨_, identifies_of_parseId hnode⟩
    | process => exact ⟨_, identifies_of_parseId hprocess⟩
    | container => exact ⟨_, identifies_of_parseId hcontainer⟩
    | namespace_ => exact ⟨_, identifies_of_parseId hspace⟩
    | pod => exact ⟨_, identifies_of_parseId hpod⟩
  · rintro ⟨hgiven, hall⟩
    choose id hid using hall
    have hread : ∀ name, parseId name (raw name) = .ok (id name) := fun name =>
      (parseId_eq_ok_iff (short name)).2 (hid name)
    obtain ⟨level, hlevel, -⟩ := kind.exists_levelName
    exact ⟨⟨id .cluster, id .node, level.entityLevel (id .process) (id .container),
      id .namespace_, id .pod⟩, resolveScope_eq_ok_iff.2 ⟨all_hasLabel_iff.2 hgiven, hread _,
        hread _, _, _, hread _, hread _, hread _, hread _, level, hlevel, rfl⟩⟩

/-- Where everything required is given, **the first text** that identifies nothing is told. -/
theorem resolveScope_eq_malformed_iff (given : ∀ label ∈ required, raw.Gives label) {f : Failure} :
    resolveScope raw required kind.level = .error f ↔
      ∃ before name after text, IdName.all = before ++ name :: after ∧
        (∀ other ∈ before, ∃ id, Identifies (raw other) id) ∧
        raw name = some text ∧ (¬∃ id, Identifies (some text) id) ∧
        f = .parameter (.malformedId name text) := by
  obtain ⟨level, hlevel, -⟩ := kind.exists_levelName
  rw [resolveScope_eq_error_iff (all_hasLabel_iff.2 given) hlevel, mapM_eq_error_iff]
  simp only [parseId_eq_ok_iff (short _), parseId_eq_error_iff (short _)]
  constructor
  · rintro ⟨before, name, after, hall, hbefore, hnone, text, htext, rfl⟩
    exact ⟨before, name, after, text, hall, hbefore, htext, by rwa [htext] at hnone, rfl⟩
  · rintro ⟨before, name, after, text, hall, hbefore, htext, hnone, rfl⟩
    exact ⟨before, name, after, hall, hbefore, by rwa [htext], text, htext, rfl⟩

end Resolved

/-- **Scopes have canonical numbers.** Let no text have more than 4300 characters. At each level, a
scope is resolved exactly if every required identifier is given by a text that is not empty, and
every text that is not empty is the numeral of a positive number. A resolved scope has the numbers of
the texts, and none where a text is absent or empty; its level carries that of the process or the
container, and no other; and a number is printed as its text, so different texts are of different
numbers. Otherwise the request is at fault: if something required is missing, that is told, and
otherwise the first text at fault, in the order cluster, node, process, container, namespace, pod. -/
theorem scopes_have_canonical_numbers {raw : RawIds}
    (short : ∀ name text, raw name = some text → text.length ≤ 4300) (required : List String)
    (kind : EntityKind) :
    ((∃ scope, resolveScope raw required kind.level = .ok scope) ↔
      (∀ label ∈ required, raw.Gives label) ∧ ∀ name, ∃ id, Identifies (raw name) id) ∧
    (∀ scope, resolveScope raw required kind.level = .ok scope →
      scope.IsOf kind raw ∧
      (∀ name n, scope.number? name = some n → raw name = some (toString n)) ∧
      ∀ raw' required' kind' scope' name name' n,
        resolveScope raw' required' (EntityKind.level kind') = .ok scope' →
        scope.number? name = some n → Scope.number? scope' name' = some n →
        raw name = raw' name') ∧
    ((¬∀ label ∈ required, raw.Gives label) →
      ∃ fault, resolveScope raw required kind.level = .error (.parameter fault) ∧
        fault.message = "missing parameters") ∧
    ((∀ label ∈ required, raw.Gives label) → ∀ f,
      resolveScope raw required kind.level = .error f ↔
        ∃ before name after text,
          [IdName.cluster, .node, .process, .container, .namespace_, .pod]
            = before ++ name :: after ∧
          (∀ other ∈ before, ∃ id, Identifies (raw other) id) ∧
          raw name = some text ∧ (¬∃ id, Identifies (some text) id) ∧
          f = .parameter (.malformedId name text)) := by
  refine ⟨exists_resolveScope_iff short, fun scope h => ?_, fun hmissing => ?_, fun hgiven f => ?_⟩
  · have hscope := isOf_of_resolveScope h
    refine ⟨hscope, fun name n hn => hscope.raw_eq hn, ?_⟩
    intro raw' required' kind' scope' name name' n h' hn hn'
    rw [hscope.raw_eq hn, (isOf_of_resolveScope h').raw_eq hn']
  · exact ⟨.missingParameters, resolveScope_of_missing hmissing, rfl⟩
  · exact resolveScope_eq_malformed_iff short hgiven

/-- Identifiers of a process of a node, in a namespace that is left empty. -/
def processIds (node : String) : RawIds
  | .cluster => some "12"
  | .node => some node
  | .process => some "70"
  | .namespace_ => some ""
  | .container | .pod => none

/-- A process of node 305 is resolved and printed as it was given. One of node 05, which is required
too, is not: the node is told, as the cluster before it is a numeral. -/
theorem scope_of_a_process_of_node_305 :
    (∀ node ∈ ["305", "05"], ∀ name text, processIds node name = some text → text.length ≤ 4300) ∧
      (∃ scope, resolveScope (processIds "305") ["cluster_id", "node_id"] "process" = .ok scope ∧
        scope.IsOf .process (processIds "305") ∧
        ∀ name n, scope.number? name = some n → processIds "305" name = some (toString n)) ∧
      resolveScope (processIds "05") ["cluster_id", "node_id"] "process"
        = .error (.parameter (.malformedId .node "05")) := by
  have hshort : ∀ node ∈ ["305", "05"], ∀ name text, processIds node name = some text →
      text.length ≤ 4300 := by
    intro node hnode name text htext
    have hnode : node = "305" ∨ node = "05" := by simpa using hnode
    rcases hnode with rfl | rfl <;> cases name <;> cases htext <;> decide
  have hgiven : ∀ node ∈ ["305", "05"], ∀ label ∈ ["cluster_id", "node_id"],
      (processIds node).Gives label := by
    intro node hnode label hlabel
    have hnode : node ≠ "" := by
      rintro rfl
      exact absurd hnode (by decide)
    have hlabel : label = "cluster_id" ∨ label = "node_id" := by simpa using hlabel
    rcases hlabel with rfl | rfl
    · exact ⟨.cluster, rfl, "12", rfl, by decide⟩
    · exact ⟨.node, rfl, node, rfl, hnode⟩
  have hcluster : Identifies (some "12") (some 12) := .numeral (n := 12) (by decide)
  have hnode : Identifies (some "305") (some 305) := .numeral (n := 305) (by decide)
  have hprocess : Identifies (some "70") (some 70) := .numeral (n := 70) (by decide)
  have hunidentified : ¬∃ id, Identifies (some "05") id := by
    rintro ⟨id, h⟩
    have hread : parseId .node (some "05") = .ok id :=
      (parseId_eq_ok_iff fun s hs => by cases hs; decide).2 h
    cases hread
  obtain ⟨hresolved, hscope, -⟩ :=
    scopes_have_canonical_numbers (hshort "305" (by decide)) ["cluster_id", "node_id"] .process
  obtain ⟨-, -, -, htold⟩ :=
    scopes_have_canonical_numbers (hshort "05" (by decide)) ["cluster_id", "node_id"] .process
  obtain ⟨scope, hok⟩ := hresolved.2 ⟨hgiven "305" (by decide), fun name => by
    cases name
    · exact ⟨_, hcluster⟩
    · exact ⟨_, hnode⟩
    · exact ⟨_, hprocess⟩
    · exact ⟨_, .absent⟩
    · exact ⟨_, .empty⟩
    · exact ⟨_, .absent⟩⟩
  obtain ⟨hisOf, hprinted, -⟩ := hscope scope hok
  refine ⟨hshort, ⟨scope, hok, hisOf, hprinted⟩, ?_⟩
  refine (htold (hgiven "05" (by decide)) _).2
    ⟨[.cluster], .node, [.process, .container, .namespace_, .pod], "05", rfl, ?_, rfl,
      hunidentified, rfl⟩
  intro other hother
  obtain rfl : other = .cluster := by simpa using hother
  exact ⟨_, hcluster⟩

end ClusterMetrics
