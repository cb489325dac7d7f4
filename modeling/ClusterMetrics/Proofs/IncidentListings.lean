import ClusterMetrics.Status.Incident
import ClusterMetrics.Proofs.ShapedGroups
import Mathlib.Data.List.DropRight

/-! # Incident listings

Incidents are added, cleared and listed in any order. The registry is at all times the grouping, by
event, of the incidents added since it was last cleared, so that a listing depends on these alone. It
is newest first where the clocks of their zones tell them apart as instants do; a clock that is set
back does not.

* **`RegistryOp`**: an operation; **`IncidentRegistry.final`** and **`IncidentRegistry.answers`**:
  what a run of operations leads to.
* **`IncidentRegistry.final_eq_groupBy`**: the registry after a run.
* **`ClocksAgree`**: whether incidents of one zone are in the order of instants.
* **`ListingOf`**: what a listing of given incidents says; **`IncidentRegistry.listingOf`**: the
  listing of a registry does.
* **`listing_within_a_run`**: listings within a run, and what they leave behind.
  **`repeated_hour_is_listed_by_the_clock`**: one that is not newest first. -/

namespace ClusterMetrics

/-- An **operation** on the registry of incidents. -/
inductive RegistryOp where
  | add (incident : Incident)
  | clear
  | list

namespace RegistryOp

/-- Whether an operation **removes** all incidents. -/
def isClear : RegistryOp → Bool
  | clear => true
  | _ => false

/-- The incident that an operation **adds**. -/
def added? : RegistryOp → Option Incident
  | add incident => some incident
  | _ => none

/-- The incidents that a run adds **after it last clears** the registry. -/
def sinceClear (ops : List RegistryOp) : List Incident :=
  (ops.rtakeWhile fun op => !op.isClear).filterMap added?

section SinceClear

variable (ops : List RegistryOp)

@[simp] theorem sinceClear_concat_add (incident : Incident) :
    sinceClear (ops ++ [add incident]) = sinceClear ops ++ [incident] := by
  rw [sinceClear, List.rtakeWhile_concat_pos _ _ _ rfl, List.filterMap_append]
  rfl

@[simp] theorem sinceClear_concat_clear : sinceClear (ops ++ [clear]) = [] := by
  rw [sinceClear, List.rtakeWhile_concat_neg _ _ _ (by simp [isClear]), List.filterMap_nil]

@[simp] theorem sinceClear_concat_list : sinceClear (ops ++ [list]) = sinceClear ops := by
  rw [sinceClear, List.rtakeWhile_concat_pos _ _ _ rfl, List.filterMap_append]
  exact List.append_nil _

end SinceClear

end RegistryOp

namespace IncidentRegistry

/-! ## Runs -/

/-- What an operation makes of the registry. -/
def step (registry : IncidentRegistry) : RegistryOp → IncidentRegistry
  | .add incident => registry.add incident
  | .clear => empty
  | .list => registry

/-- The **answer** of an operation; only a listing has one. -/
def answer? (registry : IncidentRegistry) : RegistryOp → Option (Except Failure (List Incident))
  | .list => some registry.newestFirst
  | _ => none

/-- The registry **after** a run. -/
def final (registry : IncidentRegistry) (ops : List RegistryOp) : IncidentRegistry :=
  ops.foldl step registry

/-- The **answers** of a run, in order. -/
def answers : IncidentRegistry → List RegistryOp → List (Except Failure (List Incident))
  | _, [] => []
  | registry, op :: ops => (registry.answer? op).toList ++ answers (registry.step op) ops

theorem final_append (registry : IncidentRegistry) (ops ops' : List RegistryOp) :
    final registry (ops ++ ops') = final (final registry ops) ops' := List.foldl_append

/-- A run answers as its **parts** do, one after the other. -/
theorem answers_append (registry : IncidentRegistry) (ops ops' : List RegistryOp) :
    answers registry (ops ++ ops') = answers registry ops ++ answers (final registry ops) ops' := by
  induction ops generalizing registry with
  | nil => rfl
  | cons op ops ih =>
    rw [List.cons_append, answers, ih, answers, List.append_assoc]
    rfl

/-! ## The invariant -/

/-- Incidents added **one by one** are grouped by their events. -/
theorem foldl_add (added : List Incident) :
    added.foldl (fun registry incident => add incident registry) empty
      = groupBy Incident.eventName added := by
  have hstep : ∀ (registry : IncidentRegistry) (incident : Incident), add incident registry
      = upsert Prod.fst Incident.eventName (fun a => (a.eventName, [a]))
          (fun g a => (g.1, g.2 ++ [a])) incident registry := by
    intro registry incident
    induction registry with
    | nil => rfl
    | cons g rest ih => rw [add, upsert, ih]
  have hrest : ∀ (rest : List Incident) (g : String × List Incident),
      rest.foldl (fun g a => (g.1, g.2 ++ [a])) g = (g.1, g.2 ++ rest) := by
    intro rest
    induction rest with
    | nil => intro g; rw [List.foldl_nil, List.append_nil]
    | cons a rest ih => intro g; rw [List.foldl_cons, ih, List.append_cons g.2 a rest]
  have hgroups : ∀ g ∈ groupBy Incident.eventName added,
      collected (fun a : Incident => (a.eventName, [a])) (fun g a => (g.1, g.2 ++ [a])) g.2
        = some g := by
    rintro ⟨name, members⟩ hg
    have hnames : ∀ a ∈ members, a.eventName = name := by
      intro a ha
      have hmembers : members = added.filter fun a => a.eventName = name := (mem_groupBy.1 hg).2
      rw [hmembers] at ha
      exact of_decide_eq_true (List.mem_filter.1 ha).2
    cases members with
    | nil => exact absurd rfl (members_ne_nil_of_mem_groupBy hg)
    | cons a rest =>
      rw [collected, hrest, hnames a List.mem_cons_self]
      rfl
  simp only [hstep]
  refine (foldl_upsert Prod.fst Incident.eventName ?_ ?_ added).trans ?_
  · exact fun _ _ _ => rfl
  · exact fun _ => rfl
  · rw [List.filterMap_congr hgroups, List.filterMap_some]

/-- A further incident joins **the group of its event**. -/
theorem add_groupBy (added : List Incident) (incident : Incident) :
    add incident (groupBy Incident.eventName added)
      = groupBy Incident.eventName (added ++ [incident]) := by
  rw [← foldl_add, ← foldl_add, List.foldl_append]
  rfl

/-- After a run the registry is the **grouping** of what was added since it was last cleared. -/
theorem final_eq_groupBy (ops : List RegistryOp) :
    final empty ops = groupBy Incident.eventName (RegistryOp.sinceClear ops) := by
  -- the last operation is the one that decides, so the induction is from the right
  induction ops using List.reverseRecOn with
  | nil => rfl
  | append_singleton ops op ih =>
    rw [final_append, ih]
    cases op with
    | add incident =>
      rw [RegistryOp.sinceClear_concat_add]
      exact add_groupBy (RegistryOp.sinceClear ops) incident
    | clear =>
      rw [RegistryOp.sinceClear_concat_clear]
      rfl
    | list =>
      rw [RegistryOp.sinceClear_concat_list]
      rfl

end IncidentRegistry

/-! ## Listings -/

/-- Whether a **clock agrees with instants**: of two incidents whose times were read in one zone, the
one that its clock shows later is the later one. -/
def ClocksAgree (incidents : List Incident) : Prop :=
  ∀ a ∈ incidents, ∀ b ∈ incidents, IncidentRegistry.sharesZone a b = true →
    (b.detected.wall ≤ a.detected.wall ↔ b.detected.instant ≤ a.detected.instant)

/-- What the **listing** of some incidents says, given the order in which they were added. -/
structure ListingOf (added : List Incident) (listing : Except Failure (List Incident)) :
    Prop where
  /-- It fails if some times are known to an instant and others are not. -/
  fails_iff : (∃ failure, listing = .error failure) ↔
    (∃ a ∈ added, a.detected.isAware = false) ∧ ∃ b ∈ added, b.detected.isAware = true
  type_error : ∀ failure, listing = .error failure → failure.className = "TypeError"
  /-- Each incident is listed as often as it was added. -/
  perm : ∀ items, listing = .ok items → items.Perm added
  newest_first : ClocksAgree added → ∀ items, listing = .ok items →
    items.Pairwise fun a b => b.detected.instant ≤ a.detected.instant
  /-- Those of one time are listed by event, events in the order of their first incidents. -/
  ties : ClocksAgree added → ∀ items, listing = .ok items → ∀ t : Int,
    (items.filter fun a => a.detected.instant = t)
      = ((groupBy Incident.eventName added).flatMap (·.2)).filter fun a => a.detected.instant = t

namespace IncidentRegistry

/-- Times **cannot be compared** if some are known to an instant and others are not. -/
theorem comparable_eq_false_iff {incidents : List Incident} :
    comparable incidents = false ↔
      (∃ a ∈ incidents, a.detected.isAware = false) ∧
        ∃ b ∈ incidents, b.detected.isAware = true := by
  simp only [comparable, Bool.or_eq_false_iff, List.all_eq_false, Bool.not_eq_true,
    Bool.not_eq_false']

/-- Whether one incident was detected **no earlier** than another by their instants. -/
def notBefore (a b : Incident) : Bool := b.detected.instant ≤ a.detected.instant

theorem notBefore_trans (a b c : Incident) (hab : notBefore a b = true)
    (hbc : notBefore b c = true) : notBefore a c = true := by
  simp only [notBefore, decide_eq_true_eq] at hab hbc ⊢
  exact Int.le_trans hbc hab

theorem notBefore_total (a b : Incident) : (notBefore a b || notBefore b a) = true := by
  rw [notBefore, notBefore, Bool.or_eq_true, decide_eq_true_eq, decide_eq_true_eq]
  exact Int.le_total _ _

/-- Where clocks agree with instants, incidents are sorted **by their instants**. -/
theorem mergeSort_notEarlier {incidents : List Incident} (agree : ClocksAgree incidents) :
    incidents.mergeSort notEarlier = incidents.mergeSort notBefore := by
  have hsame : ∀ a ∈ incidents, ∀ b ∈ incidents, notEarlier a b = notBefore (id a) (id b) := by
    intro a ha b hb
    rw [notEarlier]
    split
    · exact decide_eq_decide.2 (agree a ha b hb ‹_›)
    · rfl
  simpa using List.map_mergeSort hsame

/-- Incidents **of one time** are listed in the order in which the registry holds them. -/
theorem filter_mergeSort_notBefore (incidents : List Incident) (t : Int) :
    ((incidents.mergeSort notBefore).filter fun a => a.detected.instant = t)
      = incidents.filter fun a => a.detected.instant = t := by
  have hties : (incidents.filter fun a => a.detected.instant = t).Pairwise
      fun a b => notBefore a b = true := by
    refine List.pairwise_of_forall_mem_list fun a ha b hb => ?_
    have hat := of_decide_eq_true (List.mem_filter.1 ha).2
    have hbt := of_decide_eq_true (List.mem_filter.1 hb).2
    rw [notBefore, hat, hbt]
    exact decide_eq_true (Int.le_refl t)
  -- sorting keeps what is in order already, and there are no more of them after it
  have hsublist := (List.sublist_mergeSort notBefore_trans notBefore_total hties
    List.filter_sublist).filter fun a => a.detected.instant = t
  rw [List.filter_filter] at hsublist
  simp only [Bool.and_self] at hsublist
  have hperm := (List.mergeSort_perm incidents notBefore).filter fun a => a.detected.instant = t
  exact (hsublist.eq_of_length hperm.length_eq.symm).symm

/-- The registry of some incidents **lists** them. -/
theorem listingOf (added : List Incident) :
    ListingOf added (newestFirst (groupBy Incident.eventName added)) := by
  have hperm : (toList (groupBy Incident.eventName added)).Perm added :=
    groupBy_perm Incident.eventName added
  have hmem : ∀ a, a ∈ toList (groupBy Incident.eventName added) ↔ a ∈ added := fun _ =>
    hperm.mem_iff
  have hagree : ClocksAgree added → ClocksAgree (toList (groupBy Incident.eventName added)) :=
    fun agree a ha b hb => agree a ((hmem a).1 ha) b ((hmem b).1 hb)
  have hcomparable := @comparable_eq_false_iff (toList (groupBy Incident.eventName added))
  simp only [hmem] at hcomparable
  unfold newestFirst
  by_cases h : comparable (toList (groupBy Incident.eventName added)) = true
  · rw [if_pos h]
    constructor
    case fails_iff =>
      rw [← hcomparable, h]
      simp
    case type_error =>
      rintro failure ⟨⟩
    case perm =>
      rintro items ⟨⟩
      exact (List.mergeSort_perm _ _).trans hperm
    case newest_first =>
      rintro agree items ⟨⟩
      rw [mergeSort_notEarlier (hagree agree)]
      exact (List.pairwise_mergeSort notBefore_trans notBefore_total _).imp of_decide_eq_true
    case ties =>
      rintro agree items ⟨⟩ t
      rw [mergeSort_notEarlier (hagree agree)]
      exact filter_mergeSort_notBefore _ t
  · rw [if_neg h]
    constructor
    case fails_iff =>
      rw [← hcomparable]
      exact ⟨fun _ => Bool.eq_false_iff.2 h, fun _ => ⟨_, rfl⟩⟩
    case type_error =>
      rintro failure ⟨⟩
      rfl
    -- a listing that fails has no items to speak of
    case perm => rintro items ⟨⟩
    all_goals rintro - items ⟨⟩

end IncidentRegistry

/-- **A listing within a run** lists the incidents added since the registry was last cleared, newest
first if the clocks of their zones agree with instants. Whether it succeeds or fails, the other
operations answer as they do in the run without it, and the run ends with the same registry. -/
theorem listing_within_a_run (before after : List RegistryOp) :
    ∃ earlier listing later,
      IncidentRegistry.answers .empty before = earlier ∧
      IncidentRegistry.answers .empty (before ++ .list :: after) = earlier ++ listing :: later ∧
      IncidentRegistry.answers .empty (before ++ after) = earlier ++ later ∧
      IncidentRegistry.final .empty (before ++ .list :: after)
        = IncidentRegistry.final .empty (before ++ after) ∧
      ListingOf (RegistryOp.sinceClear before) listing := by
  refine ⟨IncidentRegistry.answers .empty before,
    (IncidentRegistry.final .empty before).newestFirst,
    IncidentRegistry.answers (IncidentRegistry.final .empty before) after, rfl, ?_, ?_, ?_, ?_⟩
  · rw [IncidentRegistry.answers_append]
    rfl
  · rw [IncidentRegistry.answers_append]
  · rw [IncidentRegistry.final_append, IncidentRegistry.final_append]
    rfl
  · rw [IncidentRegistry.final_eq_groupBy]
    exact IncidentRegistry.listingOf (RegistryOp.sinceClear before)

/-- An incident in Berlin, at a reading of the clock when this was some time ahead of UTC. -/
def berlinIncident (wall offset : Int) : Incident :=
  ⟨"cpu_high", 1, 1, "", 0.0, "", ⟨wall, some offset⟩, some "Europe/Berlin"⟩

/-- An incident at 02:45 on 2024-10-27, before the clock is set back. -/
def beforeSetBack : Incident := berlinIncident 1729997100000000 7200000000

/-- An incident at 02:30 on the same day, after the clock is set back. -/
def afterSetBack : Incident := berlinIncident 1729996200000000 3600000000

/-- In an hour that is repeated, incidents of one zone are listed **by its clock**: the one that comes
later is listed last. -/
theorem repeated_hour_is_listed_by_the_clock :
    IncidentRegistry.answers .empty [.add beforeSetBack, .add afterSetBack, .list]
        = [.ok [beforeSetBack, afterSetBack]] ∧
      beforeSetBack.detected.instant < afterSetBack.detected.instant := by
  have hsorted : [beforeSetBack, afterSetBack].mergeSort IncidentRegistry.notEarlier
      = [beforeSetBack, afterSetBack] := List.mergeSort_of_pairwise (by decide)
  refine ⟨?_, by decide⟩
  show [Except.ok ([beforeSetBack, afterSetBack].mergeSort IncidentRegistry.notEarlier)] = _
  rw [hsorted]

end ClusterMetrics
