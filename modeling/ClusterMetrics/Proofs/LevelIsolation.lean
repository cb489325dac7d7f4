import ClusterMetrics.Proofs.KeptSamples
import ClusterMetrics.Proofs.ResolvedScopes

/-! # Isolation of entity levels

A sample is of a node, of a process or of a container, and two columns tell which. A query reads the
samples of its level only: its scope admits no others, and the level is a part of the series, so a
sample that agrees with a newest one is of the same level. A sample of no level is never read.

* **`LevelName.has`**: whether a sample is of a level. **`Sample.isStray`**: whether it is of none.
* **`has_of_admits`**, **`has_of_mem_latest`**: what a resolved scope admits is of its level.
* **`entity_levels_do_not_leak`**: samples of other levels do not change an answer. -/

namespace ClusterMetrics

/-- Whether a sample is **of a level**: of a node if it is of no process and no container, and of
either of them if it is not of the other. -/
def LevelName.has : LevelName → Sample → Bool
  | .node, s => holds s.process 0 && holds s.container 0
  | .process, s => holdsOther s.process 0 && holds s.container 0
  | .container, s => holds s.process 0 && holdsOther s.container 0

/-- Whether a sample is **stray**: of a process and a container at once, or of an absent one. -/
def Sample.isStray (s : Sample) : Bool :=
  s.process.isNone || s.container.isNone || holdsOther s.process 0 && holdsOther s.container 0

theorem holdsOther_of_some {n m : Int} (h : n ≠ m) : holdsOther (some n) m = true := by
  simpa [holdsOther] using h

/-- A sample of a level is **not stray**. -/
theorem isStray_of_has {kind : LevelName} {s : Sample} (h : kind.has s = true) :
    s.isStray = false := by
  obtain ⟨_, _, process, container, _, _, _, _⟩ := s
  cases process with
  | none => cases kind <;> simp [LevelName.has, holds, holdsOther] at h
  | some p =>
    cases container with
    | none => cases kind <;> simp [LevelName.has, holds, holdsOther] at h
    | some c =>
      cases kind <;>
        simp [LevelName.has, Sample.isStray, holds, holdsOther] at h ⊢ <;> simp [h]

/-- Whether two stores **answer alike** the queries of a scope. -/
structure AnswersAlike (backend backend' : Backend) (scope : Scope) : Prop where
  snapshots : ∀ (query : SnapshotQuery) (filter : MetricFilter) (now : Int),
    query.run backend scope filter now = query.run backend' scope filter now
  summaries : ∀ (query : SummaryQuery) (now : Int),
    query.run backend scope now = query.run backend' scope now
  series : ∀ (query : SeriesQuery) (filter : MetricFilter) (rule : BucketRule),
    query.run backend scope filter rule = query.run backend' scope filter rule

section Scopes

variable {raw : RawIds} {required : List String} {level : String} {scope : Scope}
  {kind : LevelName} (resolved : resolveScope raw required level = .ok scope)
  (named : LevelName.ofName? level = some kind)
include resolved named

/-- A resolved scope admits samples **of its level**. -/
theorem has_of_admits (s : Sample) (h : scope.admits s = true) : kind.has s = true := by
  obtain ⟨-, -, -, process, container, hprocess, hcontainer, -, -, kind', hkind, hlevel⟩ :=
    resolveScope_eq_ok_iff.1 resolved
  obtain rfl := Option.some.inj (named.symm.trans hkind)
  rw [Scope.admits, Bool.and_eq_true, hlevel] at h
  have hadmits := h.2
  -- an identifier of the level is positive, so it is not the zero that marks its absence
  cases kind with
  | node => exact hadmits
  | process =>
    cases process with
    | none =>
      simpa [LevelName.entityLevel, EntityLevel.admits, LevelName.has, and_comm] using hadmits
    | some p =>
      have hp : p ≠ 0 := Int.ne_of_gt (parseId_pos hprocess)
      simp only [LevelName.entityLevel, EntityLevel.admits, Bool.and_eq_true, holds,
        beq_iff_eq] at hadmits
      simp [LevelName.has, hadmits.1, hadmits.2, holds, holdsOther_of_some hp]
  | container =>
    cases container with
    | none => simpa [LevelName.entityLevel, EntityLevel.admits, LevelName.has] using hadmits
    | some c =>
      have hc : c ≠ 0 := Int.ne_of_gt (parseId_pos hcontainer)
      simp only [LevelName.entityLevel, EntityLevel.admits, Bool.and_eq_true, holds,
        beq_iff_eq] at hadmits
      simp [LevelName.has, hadmits.1, hadmits.2, holds, holdsOther_of_some hc]

/-- The newest samples of a resolved scope are **of its level**. -/
theorem has_of_mem_latest {store : Store} {filter : MetricFilter} {now : Int} {m : Sample}
    (hm : m ∈ store.latest scope filter now) : kind.has m = true := by
  have hadmits := has_of_admits resolved named
  obtain ⟨-, n, hn, hagrees⟩ := (mem_latest_iff_agrees hadmits now).1 hm
  have hlevel : kind.has n = true := (List.mem_filter.1 (List.mem_filter.1 hn).1).2
  -- process and container are parts of the series, on which the samples agree
  have hprocess : m.process = n.process := column_eq_of_agrees .process hagrees
  have hcontainer : m.container = n.container := column_eq_of_agrees .container hagrees
  cases kind <;> simpa only [LevelName.has, hprocess, hcontainer] using hlevel

/-- The newest samples of a resolved scope stay where **samples of its level** are kept. -/
theorem latest_keeping_of_has {p : Sample → Bool} (hp : ∀ s, kind.has s = true → p s = true)
    (store : Store) (filter : MetricFilter) (now : Int) :
    (store.keeping p).latest scope filter now = store.latest scope filter now := by
  rw [latest_keeping fun s hs => hp s (has_of_admits resolved named s hs)]
  exact List.filter_eq_self.2 fun m hm => hp m (has_of_mem_latest resolved named hm)

/-- A store answers the queries of a resolved scope alike where **samples of its level** are kept. -/
theorem answersAlike_keeping_of_has {p : Sample → Bool} (hp : ∀ s, kind.has s = true → p s = true)
    (backend : Backend) : AnswersAlike (backend.keeping p) backend scope where
  snapshots query _ _ := query.run_keeping (latest_keeping_of_has resolved named hp _ _ _)
  summaries query _ := query.run_keeping (latest_keeping_of_has resolved named hp _ _ _)
  series query _ rule := query.run_keeping
    (inRange_keeping (fun s hs => hp s (has_of_admits resolved named s hs)) rule)

end Scopes

/-- **Entity levels do not leak into each other.** A resolved scope has a level; if every sample of
another level is deleted, or every stray one, the store answers each snapshot, summary and series of
the scope as before. -/
theorem entity_levels_do_not_leak {raw : RawIds} {required : List String} {level : String}
    {scope : Scope} (resolved : resolveScope raw required level = .ok scope) (backend : Backend) :
    ∃ kind, LevelName.ofName? level = some kind ∧
      AnswersAlike (backend.keeping kind.has) backend scope ∧
      AnswersAlike (backend.keeping fun s => !s.isStray) backend scope := by
  obtain ⟨-, -, -, _, _, -, -, -, -, kind, named, -⟩ := resolveScope_eq_ok_iff.1 resolved
  refine ⟨kind, named, ?_, ?_⟩
  · exact answersAlike_keeping_of_has resolved named (fun _ hs => hs) backend
  · refine answersAlike_keeping_of_has resolved named (fun s hs => ?_) backend
    rw [isStray_of_has hs]
    rfl

/-- A process with a sample of its own, a sample that is of a container too, and one that is of an
absent container; and a sample of its node. -/
def mixedLevels : Store :=
  { Store.empty with
    processes := [⟨some 3, some "init"⟩]
    metricNames := [⟨some 1, some "cpu", none, none⟩]
    metricLabels := [⟨some 1, some "total"⟩]
    samples := [⟨some 1, some 1, some 3, some 0, some 1, some 1, some 90, some (.number 1.0)⟩,
      ⟨some 1, some 1, some 3, some 4, some 1, some 1, some 95, some (.number 2.0)⟩,
      ⟨some 1, some 1, some 3, none, some 1, some 1, some 95, some (.number 3.0)⟩,
      ⟨some 1, some 1, some 0, some 0, some 1, some 1, some 95, some (.number 4.0)⟩] }

/-- A request for a process of a cluster. -/
def oneProcess : RawIds
  | .cluster => some "1"
  | .process => some "3"
  | _ => none

/-- The snapshot of one process is the same without the three samples of other levels. -/
theorem process_snapshot_without_other_levels :
    ∃ scope, resolveScope oneProcess ["cluster_id"] "process" = .ok scope ∧
      (mixedLevels.samples.filter (LevelName.has .process)).length = 1 ∧
      (SnapshotQuery.entities .process).run
          ((Backend.ofStore mixedLevels).keeping (LevelName.has .process)) scope [] 100
        = (SnapshotQuery.entities .process).run (.ofStore mixedLevels) scope [] 100 := by
  have hresolved : resolveScope oneProcess ["cluster_id"] "process"
      = .ok ⟨some 1, none, .process (some 3), none, none⟩ := rfl
  refine ⟨_, hresolved, rfl, ?_⟩
  obtain ⟨kind, hkind, halike, -⟩ :=
    entity_levels_do_not_leak hresolved (Backend.ofStore mixedLevels)
  cases hkind
  exact halike.snapshots (.entities .process) [] 100

end ClusterMetrics
