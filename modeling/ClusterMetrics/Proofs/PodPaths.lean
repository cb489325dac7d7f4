import ClusterMetrics.Proofs.UniqueIds
import Mathlib.Data.List.Pairwise

/-! # Pods of containers

A container leads to its pods through its external identifier, which any number of links may bear.
Where identifiers are unique a pod determines its path, and where no external identifier is linked
to one pod twice, a container leads to each pod at most once.

* **`Store.LinksDiffer`**: no external identifier is linked to one pod twice.
* **`Store.podPath?`**: the path of a pod.
* **`podPaths_eq_filterMap`**: the pods of a container are found link by link.
* **`podPaths_idsDiffer`**, **`podPaths_filter`**: a container leads to a pod at most once. -/

namespace ClusterMetrics

/-- Whether **no external identifier** is linked to one pod twice. -/
def Store.LinksDiffer (store : Store) : Prop :=
  store.podContainers.Pairwise fun k l =>
    (joins k.externalId l.externalId && joins k.pod l.pod) = false

instance (store : Store) : Decidable store.LinksDiffer :=
  inferInstanceAs (Decidable (store.podContainers.Pairwise fun k l =>
    (joins k.externalId l.externalId && joins k.pod l.pod) = false))

/-- The **path of a pod**: the pod of an identifier, and its namespace. -/
def Store.podPath? (store : Store) (n : Option Int) : Option PodPath := do
  let p ← findById Pod.id store.pods n
  let s ← findById PodNamespace.id store.podNamespaces p.podNamespace
  return ⟨p, s⟩

/-- The links of a **container**. -/
def Store.links (store : Store) (container : Option Int) : List PodContainer :=
  match findById Container.id store.containers container with
  | none => []
  | some c => store.podContainers.filter fun k => joins c.externalId k.externalId

/-- A path consists of the **rows found** for a pod. -/
theorem podPath?_eq_some_iff {store : Store} {n : Option Int} {path : PodPath} :
    store.podPath? n = some path ↔
      findById Pod.id store.pods n = some path.pod ∧
        findById PodNamespace.id store.podNamespaces path.pod.podNamespace
          = some path.podNamespace := by
  simp only [Store.podPath?, Option.bind_eq_bind, Option.bind_eq_some_iff, Option.pure_def,
    Option.some.injEq]
  constructor
  · rintro ⟨p, hp, s, hs, rfl⟩
    exact ⟨hp, hs⟩
  · rintro ⟨hp, hs⟩
    exact ⟨path.pod, hp, path.podNamespace, hs, rfl⟩

section

variable {store : Store} (unique : store.HasUniqueIds)
include unique

/-- The path of a pod **bears its identifier**. -/
theorem joins_of_podPath? {n : Option Int} {path : PodPath} (h : store.podPath? n = some path) :
    joins n path.pod.id = true :=
  ((findById_eq_some_iff unique.pods).1 (podPath?_eq_some_iff.1 h).1).2

/-- The pods of a container are found **link by link**. -/
theorem podPaths_eq_filterMap (scope : Scope) (container : Option Int) :
    store.podPaths scope container
      = ((store.links container).filterMap fun k => store.podPath? k.pod).filter
          scope.admitsPod := by
  -- a link leads to one pod at most, and a pod to one namespace
  have hlink : ∀ k : PodContainer,
      ((store.pods.filter fun p => joins k.pod p.id).flatMap fun p =>
        (store.podNamespaces.filter fun n => joins p.podNamespace n.id).map fun n =>
          (⟨p, n⟩ : PodPath)) = (store.podPath? k.pod).toList := by
    intro k
    rw [filter_joins unique.pods, Store.podPath?]
    cases findById Pod.id store.pods k.pod with
    | none => rfl
    | some p =>
      rw [Option.toList_some, List.flatMap_singleton, filter_joins unique.podNamespaces,
        Option.bind_eq_bind, Option.bind_some]
      cases findById PodNamespace.id store.podNamespaces p.podNamespace <;> rfl
  rw [Store.podPaths, filter_joins unique.containers, Store.links]
  cases findById Container.id store.containers container with
  | none => rfl
  | some c =>
    rw [Option.toList_some, List.flatMap_singleton, List.filterMap_eq_flatMap_toList]
    congr 2
    funext k
    exact hlink k

/-- A pod of a container lies in the scope and is **the path of its identifier**. -/
theorem podPath?_of_mem_podPaths {scope : Scope} {container : Option Int} {path : PodPath}
    (h : path ∈ store.podPaths scope container) : store.podPath? path.pod.id = some path := by
  rw [podPaths_eq_filterMap unique, List.mem_filter, List.mem_filterMap] at h
  obtain ⟨⟨k, -, hk⟩, -⟩ := h
  obtain ⟨n, hkn, hid⟩ := joins_iff.1 (joins_of_podPath? unique hk)
  rw [hid, ← hkn]
  exact hk

/-- Where links differ, a container leads to pods of **distinct identifiers**. -/
theorem podPaths_idsDiffer (links : store.LinksDiffer) (scope : Scope) (container : Option Int) :
    IdsDiffer (fun path : PodPath => path.pod.id) (store.podPaths scope container) := by
  have hlinks : (store.links container).Pairwise fun k l => joins k.pod l.pod = false := by
    rw [Store.links]
    cases findById Container.id store.containers container with
    | none => exact List.Pairwise.nil
    | some c =>
      refine (List.Pairwise.filter _ links).imp_of_mem ?_
      intro k l hk hl h
      -- both links bear the external identifier of the container
      have hck : joins k.externalId c.externalId = true := by
        rw [joins_comm]
        exact (List.mem_filter.1 hk).2
      rwa [joins_trans hck (List.mem_filter.1 hl).2, Bool.true_and] at h
  rw [podPaths_eq_filterMap unique]
  apply List.Pairwise.filter
  refine hlinks.filterMap _ ?_
  intro k l hkl path hpath path' hpath'
  rw [Bool.eq_false_iff]
  intro h
  have hk := joins_of_podPath? unique hpath
  have hl := joins_of_podPath? unique hpath'
  rw [joins_comm] at hl
  simpa [hkl] using joins_trans (joins_trans hk h) hl

/-- Among the pods of a container, those of one identifier are **the path of that identifier**, or
none. -/
theorem podPaths_filter (links : store.LinksDiffer) {n : Int} {path : PodPath}
    (h : store.podPath? (some n) = some path) (scope : Scope) (container : Option Int) :
    (store.podPaths scope container).filter (fun p => joins (some n) p.pod.id)
      = if (store.podPaths scope container).any fun p => joins (some n) p.pod.id then [path]
        else [] := by
  have hfind := filter_joins (podPaths_idsDiffer unique links scope container) (some n)
  rw [hfind]
  cases hp : findById (fun p : PodPath => p.pod.id) (store.podPaths scope container) (some n) with
  | none =>
    rw [hp, Option.toList_none, List.filter_eq_nil_iff] at hfind
    rw [if_neg (by simpa using hfind)]
    rfl
  | some p =>
    obtain ⟨hmem, hjoins⟩ :=
      (findById_eq_some_iff (podPaths_idsDiffer unique links scope container)).1 hp
    have hpath : store.podPath? (some n) = some p := by
      rw [← joins_some_left.1 hjoins]
      exact podPath?_of_mem_podPaths unique hmem
    rw [h] at hpath
    rw [if_pos (List.any_eq_true.2 ⟨p, hmem, hjoins⟩), Option.some.inj hpath]
    rfl

end

end ClusterMetrics
