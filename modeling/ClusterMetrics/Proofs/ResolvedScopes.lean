import ClusterMetrics.Query.Scope
import Mathlib.Data.Char

/-! # Resolved scopes

A scope is resolved from texts, each the canonical numeral of a positive number. So the
identifiers of a resolved scope are positive, and none of them is the zero that marks the samples of
no process or no container.

* **`digitValue?_of_isAsciiDigit`**, **`digitsToNat_pos`**: digits and canonical numerals.
* **`parseId_pos`**: identifiers are positive.
* **`resolveScope_eq_ok_iff`**: which scope is resolved. -/

namespace ClusterMetrics

open ClusterMetrics.Text

/-! ## Numerals -/

namespace Text

/-- ASCII digits have the code points **48 to 57**. -/
theorem toNat_of_isAsciiDigit {c : Char} (h : isAsciiDigit c = true) :
    48 ≤ c.toNat ∧ c.toNat ≤ 57 := by
  rw [isAsciiDigit, asciiDigit?] at h
  split at h
  · rename_i hc
    exact ⟨hc.1, hc.2⟩
  · exact absurd h (by simp)

/-- The value of an ASCII digit is counted **from the digit zero**. -/
theorem digitValue?_of_isAsciiDigit {c : Char} (h : isAsciiDigit c = true) :
    digitValue? c = some (c.toNat - 48) := by
  obtain ⟨hlo, hhi⟩ := toNat_of_isAsciiDigit h
  -- ASCII is the first run of digits
  have hzeros : digitZeros = 0x30 :: digitZeros.tail := rfl
  have hfirst : (0x30 ≤ c.toNat && c.toNat < 0x30 + 10) = true := by
    simp only [Bool.and_eq_true, decide_eq_true_eq]
    omega
  rw [digitValue?, hzeros,
    List.find?_cons_of_pos (p := fun z => z ≤ c.toNat && c.toNat < z + 10) hfirst]
  rfl

end Text

/-- Reading on does not make a number **smaller**. -/
theorem le_foldl_digits (digits : List Char) (n : Nat) :
    n ≤ digits.foldl (fun n c => 10 * n + (digitValue? c).getD 0) n := by
  induction digits generalizing n with
  | nil => exact Nat.le_refl n
  | cons c digits ih =>
    have hstep : n ≤ 10 * n + (digitValue? c).getD 0 := by omega
    exact Nat.le_trans hstep (ih _)

/-- A canonical numeral is of a **positive** number. -/
theorem digitsToNat_pos {s : List Char} (h : isCanonicalId s = true) : 0 < digitsToNat s := by
  cases s with
  | nil => simp [isCanonicalId] at h
  | cons c rest =>
    simp only [isCanonicalId, Bool.and_eq_true, bne_iff_ne] at h
    obtain ⟨⟨hzero, hdigit⟩, -⟩ := h
    obtain ⟨hlo, -⟩ := toNat_of_isAsciiDigit hdigit
    -- the first digit is not zero, and what follows does not undo it
    have hne : c.toNat ≠ 48 := fun h => hzero (Char.toNat_inj.1 h)
    have hfirst : 0 < 10 * 0 + (digitValue? c).getD 0 := by
      rw [digitValue?_of_isAsciiDigit hdigit, Option.getD_some]
      omega
    exact Nat.lt_of_lt_of_le hfirst (le_foldl_digits rest _)

/-! ## Identifiers -/

/-- An identifier that is read is **positive**. -/
theorem parseId_pos {name : IdName} {text : Option String} {n : Int}
    (h : parseId name text = .ok (some n)) : 0 < n := by
  cases text with
  | none => simp [parseId] at h
  | some text =>
    rw [parseId] at h
    split at h
    · simp at h
    split at h
    · simp at h
    split at h
    · simp at h
    rename_i _ hcanonical _
    obtain rfl := Option.some.inj (Except.ok.inj h)
    have hpos : 0 < digitsToNat text.toList := digitsToNat_pos (by simpa using hcanonical)
    omega

/-! ## Scopes -/

theorem bind_eq_ok_iff {ε α β : Type} {x : Except ε α} {f : α → Except ε β} {b : β} :
    (x >>= f) = .ok b ↔ ∃ a, x = .ok a ∧ f a = .ok b := by
  cases x <;> simp [bind, Except.bind]

theorem bind_eq_error_iff {ε α β : Type} {x : Except ε α} {f : α → Except ε β} {e : ε} :
    (x >>= f) = .error e ↔ x = .error e ∨ ∃ a, x = .ok a ∧ f a = .error e := by
  cases x <;> simp [bind, Except.bind]

/-- The level of a **kind of entity**, with the identifiers of a process and a container. -/
def LevelName.entityLevel (process container : Option Int) : LevelName → EntityLevel
  | .node => .node
  | .process => .process process
  | .container => .container container

/-- A scope is resolved if the required identifiers are given, **each identifier is read** and the
level is known. -/
theorem resolveScope_eq_ok_iff {raw : RawIds} {required : List String} {level : String}
    {scope : Scope} :
    resolveScope raw required level = .ok scope ↔
      required.all raw.hasLabel = true ∧
        parseId .cluster (raw .cluster) = .ok scope.cluster ∧
        parseId .node (raw .node) = .ok scope.node ∧
        ∃ process container, parseId .process (raw .process) = .ok process ∧
          parseId .container (raw .container) = .ok container ∧
          parseId .namespace_ (raw .namespace_) = .ok scope.podNamespace ∧
          parseId .pod (raw .pod) = .ok scope.pod ∧
          ∃ kind, LevelName.ofName? level = some kind ∧
            scope.level = kind.entityLevel process container := by
  rw [resolveScope]
  cases required.all raw.hasLabel with
  | false => simp [bind, Except.bind, throw, throwThe, MonadExceptOf.throw]
  | true =>
    simp only [Bool.not_true, Bool.false_eq_true, if_false, bind_eq_ok_iff, true_and]
    constructor
    · rintro ⟨cluster, hcluster, node, hnode, process, hprocess, container, hcontainer,
        podNamespace, hspace, pod, hpod, hlevel⟩
      split at hlevel
      case h_4 => cases hlevel
      all_goals
        cases hlevel
        exact ⟨hcluster, hnode, process, container, hprocess, hcontainer, hspace, hpod, _,
          ‹_›, rfl⟩
    · rintro ⟨hcluster, hnode, process, container, hprocess, hcontainer, hspace, hpod, kind, hkind,
        hlevel⟩
      refine ⟨_, hcluster, _, hnode, process, hprocess, container, hcontainer, _, hspace, _, hpod,
        ?_⟩
      obtain ⟨cluster, node, entity, podNamespace, pod⟩ := scope
      subst hlevel
      rw [hkind]
      cases kind <;> rfl

end ClusterMetrics
