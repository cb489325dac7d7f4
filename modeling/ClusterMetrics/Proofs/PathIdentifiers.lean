import ClusterMetrics.Proofs.ListedItems
import ClusterMetrics.Proofs.Rejections
import Mathlib.Data.List.Nodup
import Mathlib.Data.List.ReduceOption

/-! # Identifiers of paths

A path carries the identifiers of its pattern, in the order in which they are checked, and each of
them is given. So a scope is resolved by reading the identifiers of the path one after the other,
and it fails on the first that cannot be read.

* **`exists_pattern_of_findRoute`**: the identifiers of a path are those of its pattern.
* **`PathIds.numbers`**: the identifiers read in order; **`mapM_eq_error_iff`**: what is read in
  order fails on the first that cannot be read.
* **`DataRoute.Carries`**: the identifiers that a route needs, and **`carries_of_findRoute`** that
  its paths carry them.
* **`Carries.scope_eq_error_iff`**, **`Carries.numbers_of_scope`**: the scope of a route fails as its
  identifiers do, and otherwise has their numbers. -/

namespace ClusterMetrics

/-! ## Patterns -/

/-- The identifier that a segment **carries**. -/
def Segment.idName? : Segment → Option IdName
  | fixed _ => none
  | id name => some name

/-- The identifiers of a pattern, in order. -/
def idNames (segments : List Segment) : List IdName := segments.filterMap Segment.idName?

/-- A path that fits a pattern carries **its identifiers**, and each of them is given. -/
theorem idNames_of_fit? {segments : List Segment} {parts : List (List Char)} {ids : PathIds}
    (h : fit? segments parts = some ids) :
    ids.map (·.1) = idNames segments ∧ ∀ id ∈ ids, id.2 ≠ "" := by
  induction segments generalizing parts ids with
  | nil =>
    cases parts with
    | nil =>
      obtain rfl := Option.some.inj h
      exact ⟨rfl, by simp⟩
    | cons part parts => cases h
  | cons segment segments ih =>
    cases parts with
    | nil => cases segment <;> cases h
    | cons part parts =>
      cases segment with
      | fixed text =>
        rw [fit?] at h
        split at h
        · exact ih h
        · cases h
      | id name =>
        rw [fit?] at h
        split at h
        · cases h
        · rename_i hpart
          obtain ⟨rest, hrest, rfl⟩ := Option.map_eq_some_iff.1 h
          obtain ⟨hnames, hgiven⟩ := ih hrest
          refine ⟨congrArg (List.cons name) hnames, List.forall_mem_cons.2 ⟨?_, hgiven⟩⟩
          intro hempty
          have hnil : part = [] := by
            rw [← String.toList_ofList (l := part), show String.ofList part = "" from hempty]
            rfl
          exact hpart (by rw [hnil]; rfl)

/-- A path that leads to a route carries the identifiers of **one of its patterns**. -/
theorem exists_pattern_of_findRoute {base path : String} {route : DataRoute} {ids : PathIds}
    (found : findRoute base path = some (.data route, ids)) :
    ∃ p ∈ dataPaths, p.2 = route ∧ ids.map (·.1) = idNames p.1 ∧ ∀ id ∈ ids, id.2 ≠ "" := by
  obtain ⟨parts, -, hfit⟩ := Option.bind_eq_some_iff.1 found
  obtain ⟨p, hp, hfit⟩ := List.exists_of_findSome?_eq_some hfit
  obtain ⟨ids', hids, heq⟩ := Option.map_eq_some_iff.1 hfit
  obtain ⟨hroute, rfl⟩ := Prod.mk.inj heq
  simp only [patterns, List.mem_cons] at hp
  -- the other routes are no data routes
  rcases hp with rfl | rfl | rfl | hp
  · cases hroute
  · cases hroute
  · cases hroute
  · obtain ⟨q, hq, rfl⟩ := List.mem_map.1 hp
    exact ⟨q, hq, Route.data.inj hroute, idNames_of_fit? hids⟩

/-! ## Reading identifiers -/

/-- A list fails on **its first element** that fails. -/
theorem mapM_eq_error_iff {ε α β : Type} {f : α → Except ε β} {l : List α} {e : ε} :
    l.mapM f = .error e ↔ ∃ before a after, l = before ++ a :: after ∧
      (∀ b ∈ before, ∃ c, f b = .ok c) ∧ f a = .error e := by
  induction l with
  | nil => simp [pure, Except.pure]
  | cons a l ih =>
    rw [List.mapM_cons, bind_eq_error_iff]
    constructor
    · rintro (ha | ⟨b, ha, hl⟩)
      · exact ⟨[], a, l, rfl, by simp, ha⟩
      · rcases bind_eq_error_iff.1 hl with hl | ⟨bs, -, hl⟩
        · obtain ⟨before, c, after, rfl, hbefore, hc⟩ := ih.1 hl
          exact ⟨a :: before, c, after, rfl, List.forall_mem_cons.2 ⟨⟨b, ha⟩, hbefore⟩, hc⟩
        · cases hl
    · rintro ⟨before, c, after, hsplit, hbefore, hc⟩
      cases before with
      | nil =>
        obtain ⟨rfl, -⟩ := List.cons.inj hsplit
        exact .inl hc
      | cons b before =>
        obtain ⟨rfl, rfl⟩ := List.cons.inj hsplit
        obtain ⟨⟨d, hd⟩, hbefore⟩ := List.forall_mem_cons.1 hbefore
        exact .inr ⟨d, hd, bind_eq_error_iff.2 (.inl (ih.2 ⟨before, c, after, rfl, hbefore, hc⟩))⟩

theorem map_eq_error_iff {ε α β : Type} {x : Except ε α} {f : α → β} {e : ε} :
    x.map f = .error e ↔ x = .error e := by
  cases x <;> simp [Except.map]

/-- What is present is collected **one element after the other**. -/
theorem map_reduceOption_mapM_cons {ε α β : Type} (f : α → Except ε (Option β)) (a : α)
    (l : List α) :
    ((a :: l).mapM f).map List.reduceOption
      = (f a).bind fun b => ((l.mapM f).map List.reduceOption).map (b.toList ++ ·) := by
  rw [List.mapM_cons]
  cases f a with
  | error e => rfl
  | ok b => cases l.mapM f <;> cases b <;> rfl

namespace PathIds

variable {ids : PathIds}

/-- The **numbers** of the identifiers of a path, read one after the other. -/
def numbers (ids : PathIds) : Except Failure (List Int) :=
  (ids.mapM fun id => parseId id.1 (some id.2)).map List.reduceOption

/-- The identifiers of a path are read as those **of names** are, if the path has them in the order
of the names and the others are not given. -/
theorem map_mapM_eq_numbers {raw : RawIds} {names : List IdName}
    (sublist : (ids.map (·.1)).Sublist names) (nodup : names.Nodup)
    (given : ∀ id ∈ ids, raw id.1 = some id.2)
    (absent : ∀ name ∈ names, name ∉ ids.map (·.1) → raw name = none) :
    (names.mapM fun name => parseId name (raw name)).map List.reduceOption = ids.numbers := by
  induction names generalizing ids with
  | nil =>
    obtain rfl : ids = [] := by simpa using sublist
    rfl
  | cons name names ih =>
    obtain ⟨hfresh, hnodup⟩ := List.nodup_cons.1 nodup
    rw [map_reduceOption_mapM_cons]
    rcases List.sublist_cons_iff.1 sublist with hskip | ⟨rest, hnames, hrest⟩
    · -- the path does not have the name, so that nothing is read
      have hname : raw name = none :=
        absent name List.mem_cons_self fun hmem => hfresh (hskip.subset hmem)
      have hothers : ∀ other ∈ names, other ∉ ids.map (·.1) → raw other = none :=
        fun other hother => absent other (List.mem_cons_of_mem name hother)
      rw [hname, ih hskip hnodup given hothers]
      cases ids.numbers <;> rfl
    · cases ids with
      | nil => cases hnames
      | cons id ids =>
        obtain ⟨rfl, rfl⟩ := List.cons.inj hnames
        obtain ⟨hfirst, hgiven⟩ := List.forall_mem_cons.1 given
        have hothers : ∀ other ∈ names, other ∉ ids.map (·.1) → raw other = none := by
          intro other hother hnot
          refine absent other (List.mem_cons_of_mem id.1 hother) fun hmem => ?_
          rcases List.mem_cons.1 hmem with rfl | hmem
          · exact hfresh hother
          · exact hnot hmem
        rw [hfirst, ih hrest hnodup hgiven hothers, numbers, numbers, map_reduceOption_mapM_cons]

end PathIds

/-! ## Scopes -/

namespace Scope

variable (scope : Scope)

/-- The **number of an identifier** in a scope. -/
def number? : IdName → Option Int
  | .cluster => scope.cluster
  | .node => scope.node
  | .process => match scope.level with
    | .process id => id
    | _ => none
  | .container => match scope.level with
    | .container id => id
    | _ => none
  | .namespace_ => scope.podNamespace
  | .pod => scope.pod

/-- Every statement is given the numbers of the scope **but those of pods**. -/
theorem bound_eq : scope.bound
    = [IdName.cluster, .node, .process, .container].filterMap scope.number? := by
  obtain ⟨cluster, node, level, podNamespace, pod⟩ := scope
  cases cluster <;> cases node <;> cases level with
  | node => rfl
  | process id => cases id <;> rfl
  | container id => cases id <;> rfl

/-- A statement on pods is given **those of pods** besides. -/
theorem boundPod_eq : scope.boundPod = [IdName.namespace_, .pod].filterMap scope.number? := by
  obtain ⟨cluster, node, level, podNamespace, pod⟩ := scope
  cases podNamespace <;> cases pod <;> rfl

end Scope

section Resolved

variable {raw : RawIds} {required : List String} {level : String}

/-- A scope whose required identifiers are given fails on **the first identifier** that cannot be
read. -/
theorem resolveScope_eq_error_iff {kind : LevelName} {f : Failure}
    (given : required.all raw.hasLabel = true) (known : LevelName.ofName? level = some kind) :
    resolveScope raw required level = .error f ↔
      (IdName.all.mapM fun name => parseId name (raw name)) = .error f := by
  rw [resolveScope, given]
  simp only [Bool.not_true, Bool.false_eq_true, if_false, known, IdName.all, List.mapM_cons,
    List.mapM_nil]
  -- neither side fails once every text is read
  cases kind <;> simp [bind_eq_error_iff, pure, Except.pure]

/-- The numbers of a resolved scope are **those of the texts**. A process or a container counts at
its own level only. -/
theorem parseId_of_resolveScope {scope : Scope} (h : resolveScope raw required level = .ok scope)
    {name : IdName} (process : name = .process → raw name ≠ none → level = "process")
    (container : name = .container → raw name ≠ none → level = "container") :
    parseId name (raw name) = .ok (scope.number? name) := by
  obtain ⟨-, hcluster, hnode, p, c, hp, hc, hspace, hpod, kind, hkind, hlevel⟩ :=
    resolveScope_eq_ok_iff.1 h
  cases name with
  | cluster => exact hcluster
  | node => exact hnode
  | process =>
    rw [Scope.number?, hlevel]
    by_cases hraw : raw .process = none
    · -- nothing is read, at whichever level
      rw [hraw] at hp ⊢
      obtain rfl := Except.ok.inj hp
      cases kind <;> rfl
    · obtain rfl := process rfl hraw
      obtain rfl : LevelName.process = kind := Option.some.inj hkind
      exact hp
  | container =>
    rw [Scope.number?, hlevel]
    by_cases hraw : raw .container = none
    · rw [hraw] at hc ⊢
      obtain rfl := Except.ok.inj hc
      cases kind <;> rfl
    · obtain rfl := container rfl hraw
      obtain rfl : LevelName.container = kind := Option.some.inj hkind
      exact hc
  | namespace_ => exact hspace
  | pod => exact hpod

/-- An identifier is found **by its label**. -/
theorem hasLabel_label (name : IdName) : raw.hasLabel name.label = raw.isGiven name := by
  cases name <;> rfl

end Resolved

/-! ## Routes -/

namespace DataRoute

/-- The identifiers that a route **requires**. -/
def required : DataRoute → List IdName
  | clusterAgents | clusterNodes => [.cluster]
  | snapshot (.entities kind) | series (.entities kind) => kind.required
  | snapshot .pods | series .pods | series .clusterSummary | summary .nodes => [.cluster]
  | _ => []

/-- The **level** at which a route has its samples. -/
def level : DataRoute → String
  | snapshot (.entities kind) | series (.entities kind) => kind.level
  | snapshot .pods | series .pods => "container"
  | _ => "node"

/-- The identifiers whose numbers **the statement** of a route is given, in order. -/
def boundNames : DataRoute → List IdName
  | clusterAgents | clusterNodes => [.cluster]
  | snapshot (.entities _) | series (.entities _) | series .clusterSummary | summary _ =>
    [.cluster, .node, .process, .container]
  | snapshot .pods | series .pods => IdName.all
  | _ => []

/-- The **scope** of a route; one that carries no identifiers is not narrowed. -/
def scope (ids : PathIds) : DataRoute → Except Failure Scope
  | clusterAgents | clusterNodes => ids.scope [.cluster] "node"
  | snapshot query => query.scope ids
  | series query => query.scope ids
  | summary query => query.scope ids
  | _ => .ok ⟨none, none, .node, none, none⟩

/-- Whether a path carries identifiers as **a route needs them**: those of its statement, in order,
each of them given. -/
structure Carries (route : DataRoute) (ids : PathIds) : Prop where
  sublist : (ids.map (·.1)).Sublist route.boundNames
  required : ∀ name ∈ route.required, name ∈ ids.map (·.1)
  process : .process ∈ ids.map (·.1) → route.level = "process"
  container : .container ∈ ids.map (·.1) → route.level = "container"
  given : ∀ id ∈ ids, id.2 ≠ ""

/-- The identifiers of a path are such as **its route** needs. -/
theorem carries_of_findRoute {base path : String} {route : DataRoute} {ids : PathIds}
    (found : findRoute base path = some (.data route, ids)) : route.Carries ids := by
  have hpaths : ∀ p ∈ dataPaths, (idNames p.1).Sublist p.2.boundNames ∧
      (∀ name ∈ p.2.required, name ∈ idNames p.1) ∧
      (.process ∈ idNames p.1 → p.2.level = "process") ∧
      (.container ∈ idNames p.1 → p.2.level = "container") := by
    decide
  obtain ⟨p, hp, rfl, hnames, hgiven⟩ := exists_pattern_of_findRoute found
  obtain ⟨hsublist, hrequired, hprocess, hcontainer⟩ := hpaths p hp
  rw [← hnames] at hsublist hrequired hprocess hcontainer
  exact ⟨hsublist, hrequired, hprocess, hcontainer, hgiven⟩

/-- The statement of a route is given identifiers **in the order** in which they are checked. -/
theorem boundNames_sublist (route : DataRoute) : route.boundNames.Sublist IdName.all := by
  have hpodless : [IdName.cluster, .node, .process, .container].Sublist IdName.all := by decide
  cases route with
  | snapshot query =>
    cases query with
    | entities kind => exact hpodless
    | pods => exact List.Sublist.refl _
  | series query =>
    cases query with
    | entities kind => exact hpodless
    | pods => exact List.Sublist.refl _
    | clusterSummary => exact hpodless
  | summary query => exact hpodless
  | _ => decide

/-- The level of a route **is known**. -/
theorem exists_level (route : DataRoute) : ∃ kind, LevelName.ofName? route.level = some kind := by
  have hkind : ∀ kind : EntityKind, ∃ level, LevelName.ofName? kind.level = some level := by
    intro kind
    cases kind <;> exact ⟨_, rfl⟩
  cases route with
  | snapshot query =>
    cases query with
    | entities kind => exact hkind kind
    | pods => exact ⟨_, rfl⟩
  | series query =>
    cases query with
    | entities kind => exact hkind kind
    | pods => exact ⟨_, rfl⟩
    | clusterSummary => exact ⟨_, rfl⟩
  | _ => exact ⟨_, rfl⟩

section Carried

variable {route : DataRoute} {ids : PathIds} (carries : route.Carries ids)
include carries

/-- The identifiers of a path have **different names**. -/
theorem Carries.nodup : (ids.map (·.1)).Nodup :=
  (carries.sublist.trans route.boundNames_sublist).nodup (by decide)

/-- An identifier of a path is found **under its name**. -/
theorem Carries.text?_of_mem {id : IdName × String} (h : id ∈ ids) :
    ids.text? id.1 = some id.2 :=
  lookup_of_mem carries.nodup h

/-- The numbers of a path are those of its identifiers **by name**. -/
theorem Carries.map_mapM_eq_numbers {names : List IdName} (bound : route.boundNames.Sublist names)
    (nodup : names.Nodup) :
    (names.mapM fun name => parseId name (ids.text? name)).map List.reduceOption = ids.numbers :=
  PathIds.map_mapM_eq_numbers (carries.sublist.trans bound) nodup
    (fun _ hid => carries.text?_of_mem hid) fun _ _ hnot => lookup_eq_none hnot

/-- The identifiers that a route requires **are given**. -/
theorem Carries.all_hasLabel :
    (route.required.map IdName.label).all (RawIds.hasLabel ids.text?) = true := by
  rw [List.all_map, List.all_eq_true]
  intro name hname
  obtain ⟨id, hid, rfl⟩ := List.mem_map.1 (carries.required name hname)
  have hgiven := carries.given id hid
  rw [Function.comp_apply, hasLabel_label, RawIds.isGiven, carries.text?_of_mem hid]
  simpa using hgiven

/-- The scope of a route is **resolved** from the identifiers of its path. -/
theorem Carries.scope_eq : route.scope ids
    = resolveScope ids.text? (route.required.map IdName.label) route.level := by
  have hnone : route.boundNames = [] → ids = [] := by
    intro hempty
    have hsublist := carries.sublist
    rw [hempty] at hsublist
    simpa using hsublist
  cases route with
  | clusters => rw [hnone rfl]; rfl
  | agents => rw [hnone rfl]; rfl
  | nodes => rw [hnone rfl]; rfl
  | metricNames => rw [hnone rfl]; rfl
  | clusterAgents => rfl
  | clusterNodes => rfl
  | snapshot query => cases query <;> rfl
  | series query => cases query <;> rfl
  | summary query => cases query <;> rfl

/-- The scope of a route fails **as its identifiers do**. -/
theorem Carries.scope_eq_error_iff {f : Failure} :
    route.scope ids = .error f ↔ ids.numbers = .error f := by
  obtain ⟨kind, hkind⟩ := route.exists_level
  rw [carries.scope_eq, resolveScope_eq_error_iff carries.all_hasLabel hkind,
    ← carries.map_mapM_eq_numbers route.boundNames_sublist (by decide)]
  exact map_eq_error_iff.symm

/-- Where a scope is resolved, its numbers are **those of the path**. -/
theorem Carries.numbers_of_scope {scope : Scope} (h : route.scope ids = .ok scope) :
    ids.numbers = .ok (route.boundNames.filterMap scope.number?) := by
  rw [carries.scope_eq] at h
  have hread : ∀ name, parseId name (ids.text? name) = .ok (scope.number? name) := by
    intro name
    have hcarried : ids.text? name ≠ none → name ∈ ids.map (·.1) := fun hsome => by
      by_contra hnot
      exact hsome (lookup_eq_none hnot)
    refine parseId_of_resolveScope h ?_ ?_
    · rintro rfl hsome
      exact carries.process (hcarried hsome)
    · rintro rfl hsome
      exact carries.container (hcarried hsome)
  have hnodup : route.boundNames.Nodup := route.boundNames_sublist.nodup (by decide)
  rw [← carries.map_mapM_eq_numbers (List.Sublist.refl _) hnodup, mapM_eq_ok_filterMap
    fun name _ => ⟨_, hread name⟩]
  simp only [hread]
  simp [Except.map, Except.toOption, List.reduceOption, List.filterMap_map]

end Carried

end DataRoute

end ClusterMetrics
