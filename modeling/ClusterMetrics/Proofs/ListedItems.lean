import ClusterMetrics.Proofs.AnswerableRows

/-! # Listed items

The records of a kind without times are answered one by one, so a list holds an item for each row
that is a record, and so do lists by name, each row standing under its own name.

* **`RecordKind.item?`**: the item of a row; **`item?_isSome_iff`**: the rows that have one.
* **`shapeList_items`**: the items of a list.
* **`NamedLists`**: the items of rows, listed by name; **`shapeGroups_namedLists`**: the groups by a
  text are such lists, without those of hidden names.
* **`Server.AnswersWith`**: the data that a server answers; **`answersWith_of_shape`**: how they
  come about. -/

namespace ClusterMetrics

/-! ## Items -/

/-- The **item** that a row is answered as, if it is a record. -/
def RecordKind.item? (kind : RecordKind) (row : Row) : Option Row :=
  (kind.decode row).toOption.bind fun record => record.dump.toOption

/-- Whether no field of a kind is a **time**. -/
def RecordKind.IsTimeless (kind : RecordKind) : Prop := ∀ f ∈ kind.fields, f.2 ≠ .second

section Items

variable {kind : RecordKind} (timeless : kind.IsTimeless)
include timeless

/-- A record without times has **an item**. -/
theorem exists_item_of_decode {row : Row} {record : Record} (h : kind.decode row = .ok record) :
    ∃ item, record.dump = .ok item ∧ kind.item? row = some item := by
  obtain ⟨item, hitem⟩ := exists_dump (isDated_of_decode h timeless)
  exact ⟨item, hitem, by simp [RecordKind.item?, h, hitem, Except.toOption]⟩

/-- The rows that have an item are **the records**. -/
theorem item?_isSome_iff {row : Row} : (kind.item? row).isSome = (kind.decode row).isOk := by
  cases h : kind.decode row with
  | error issues => simp [RecordKind.item?, h, Except.toOption, Except.isOk, Except.toBool]
  | ok record =>
    obtain ⟨item, -, hitem⟩ := exists_item_of_decode timeless h
    rw [hitem]
    rfl

end Items

/-! ## Layouts -/

/-- Where every element has an outcome, the outcomes are **those of the elements**. -/
theorem mapM_eq_ok_filterMap {ε α β : Type} {f : α → Except ε β} {l : List α}
    (h : ∀ a ∈ l, ∃ b, f a = .ok b) : l.mapM f = .ok (l.filterMap fun a => (f a).toOption) := by
  induction l with
  | nil => rfl
  | cons a l ih =>
    obtain ⟨⟨b, hb⟩, hl⟩ := List.forall_mem_cons.1 h
    rw [List.mapM_cons, hb, ih hl, List.filterMap_cons, hb]
    rfl

/-- The lists of a **JSON object**, each under its name. -/
def namedLists (entries : List (String × List Row)) : Value :=
  .dict (entries.map fun e => (e.1, .list (e.2.map .dict)))

/-- The lists whose names are **not hidden**. -/
def shownLists (entries : List (String × List Row)) : List (String × List Row) :=
  entries.filter fun e => !isHidden e.1

/-- The items **under a name**; an absent name has none. -/
def itemsUnder (entries : List (String × List Row)) (name : String) : List Row :=
  (entries.lookup name).getD []

section Lookup

variable {α β : Type} [BEq α] [LawfulBEq α] {entries : List (α × β)}

/-- Among entries of distinct keys, an entry is found **under its key**. -/
theorem lookup_of_mem (distinct : (entries.map (·.1)).Nodup) {e : α × β} (he : e ∈ entries) :
    entries.lookup e.1 = some e.2 := by
  obtain ⟨before, after, rfl⟩ := List.append_of_mem he
  refine List.lookup_eq_some_iff.2 ⟨before, after, rfl, fun d hd => ?_⟩
  rw [List.map_append, List.map_cons] at distinct
  have hne : d.1 ≠ e.1 :=
    (List.nodup_append.1 distinct).2.2 _ (List.mem_map_of_mem hd) _ List.mem_cons_self
  simpa using hne.symm

/-- Selecting entries by their keys leaves what is found **under a selected key**. -/
theorem lookup_filter_key {p : α → Bool} {key : α} (h : p key = true) (entries : List (α × β)) :
    (entries.filter fun e => p e.1).lookup key = entries.lookup key := by
  induction entries with
  | nil => rfl
  | cons e entries ih =>
    rw [List.filter_cons, List.lookup_cons]
    by_cases hkey : key = e.1
    · subst hkey
      rw [if_pos h, List.lookup_cons]
      simp
    · have hne : (key == e.1) = false := by simpa using hkey
      rw [hne, ← ih]
      split
      · rw [List.lookup_cons, hne]
      · rfl

/-- Nothing is found under a key that **no entry** has. -/
theorem lookup_eq_none {key : α} (h : key ∉ entries.map (·.1)) : entries.lookup key = none := by
  refine List.lookup_eq_none_iff.2 fun e he => ?_
  have hne : key ≠ e.1 := by
    rintro rfl
    exact h (List.mem_map_of_mem he)
  simpa using hne

end Lookup

/-- Under a name that is not hidden, the same items **are shown**. -/
theorem itemsUnder_shownLists {entries : List (String × List Row)} {name : String}
    (h : isHidden name = false) : itemsUnder (shownLists entries) name = itemsUnder entries name := by
  have hlookup : (shownLists entries).lookup name = entries.lookup name :=
    lookup_filter_key (p := fun n => !isHidden n) (by simp [h]) entries
  rw [itemsUnder, hlookup, itemsUnder]

/-- The items of some rows **listed by name**: no name twice, none without items, and under each
name the items of its rows, in order. -/
structure NamedLists (kind : RecordKind) (nameOf : Row → String) (rows : List Row)
    (entries : List (String × List Row)) : Prop where
  names_nodup : (entries.map (·.1)).Nodup
  nonempty : ∀ e ∈ entries, e.2 ≠ []
  items : ∀ name, itemsUnder entries name
    = (rows.filter fun row => nameOf row = name).filterMap kind.item?

section Layouts

variable {kind : RecordKind} (timeless : kind.IsTimeless) (rows : List Row)
include timeless

/-- A list holds **the items** of the rows. -/
theorem shapeList_items : ∃ shaped, shapeList kind (rows.map .dict) = .ok shaped ∧
    shaped.layout = .records (rows.filterMap kind.item?) := by
  have hdump : ∀ e ∈ (decodeRows kind (rows.map .dict)).entries, ∃ item, e.2.dump = .ok item := by
    intro e he
    obtain ⟨-, hdecode⟩ := mem_decodeRows_entries.1 he
    obtain ⟨item, hitem, -⟩ := exists_item_of_decode timeless hdecode
    exact ⟨item, hitem⟩
  have hitems : ((decodeRows kind (rows.map .dict)).entries.filterMap fun e : Row × Record =>
      e.2.dump.toOption) = rows.filterMap kind.item? := by
    rw [decodeRows_entries, List.filterMap_filterMap]
    simp only [Option.bind_map]
    rfl
  rw [shapeList_eq, mapM_eq_ok_filterMap hdump, hitems]
  exact ⟨_, rfl, rfl⟩

end Layouts

section Groups

variable {kind : RecordKind} {nameOf : Row → String} {rows : List Row}

/-- The item of a row, **placed under its name**. -/
def placeItem (kind : RecordKind) (nameOf : Row → String) (row : Row) : Option (Placed Row) :=
  (kind.item? row).map fun item => ⟨.text (nameOf row), .text (nameOf row), item⟩

/-- A placed item is **a row's**, under the name of the row. -/
theorem mem_filterMap_placeItem {p : Placed Row} :
    p ∈ rows.filterMap (placeItem kind nameOf) ↔ ∃ row ∈ rows, kind.item? row = some p.member ∧
      p.key = .text (nameOf row) ∧ p.shown = .text (nameOf row) := by
  obtain ⟨key, shown, member⟩ := p
  simp only [List.mem_filterMap, placeItem, Option.map_eq_some_iff, Placed.mk.injEq]
  constructor
  · rintro ⟨row, hrow, item, hitem, rfl, rfl, rfl⟩
    exact ⟨row, hrow, hitem, rfl, rfl⟩
  · rintro ⟨row, hrow, hitem, rfl, rfl⟩
    exact ⟨row, hrow, member, hitem, rfl, rfl, rfl⟩

/-- The records of rows are **placed as their items**. -/
theorem mapM_placeRecord_eq (timeless : kind.IsTimeless)
    {keyOf : Row → Record → Except Failure Value}
    (hkeyOf : ∀ row ∈ rows, ∀ record, keyOf row record = .ok (.text (nameOf row))) :
    (decodeRows kind (rows.map .dict)).entries.mapM (placeRecord keyOf)
      = .ok (rows.filterMap (placeItem kind nameOf)) := by
  have hplace : ∀ e ∈ (decodeRows kind (rows.map .dict)).entries,
      ∃ p, placeRecord keyOf e = .ok p ∧ placeItem kind nameOf e.1 = some p := by
    intro e he
    obtain ⟨hmem, hdecode⟩ := mem_decodeRows_entries.1 he
    obtain ⟨item, hdump, hitem⟩ := exists_item_of_decode timeless hdecode
    have hkey : keyOf e.1 e.2 = .ok (.text (nameOf e.1)) := hkeyOf e.1 hmem e.2
    exact ⟨_, placeRecord_eq_ok_iff.2 ⟨hkey, rfl, hdump⟩, by rw [placeItem, hitem]; rfl⟩
  have hrows : rows.filterMap (placeItem kind nameOf)
      = (decodeRows kind (rows.map .dict)).entries.filterMap fun e =>
          placeItem kind nameOf e.1 := by
    rw [decodeRows_entries, List.filterMap_filterMap]
    refine List.filterMap_congr fun row _ => ?_
    cases hrow : kind.decode row with
    | error issues => simp [placeItem, RecordKind.item?, hrow, Except.toOption]
    | ok record => simp [Except.toOption]
  have hresult : ∀ e ∈ (decodeRows kind (rows.map .dict)).entries,
      ∃ p, placeRecord keyOf e = .ok p := by
    intro e he
    obtain ⟨p, hp, -⟩ := hplace e he
    exact ⟨p, hp⟩
  rw [hrows, mapM_eq_ok_filterMap hresult]
  refine congrArg _ (List.filterMap_congr fun e he => ?_)
  obtain ⟨p, hp, hitem⟩ := hplace e he
  rw [hp, hitem]
  rfl

/-- The groups of placed items **by name**. -/
def itemsByName (kind : RecordKind) (nameOf : Row → String) (rows : List Row) :
    List (String × List Row) :=
  (regroup id (rows.filterMap (placeItem kind nameOf))).map fun g => (g.shown.keyText, g.members)

/-- The items placed under a name are those of **the rows of the name**, in order. -/
theorem map_member_filter_placeItem (name : String) :
    ((rows.filterMap (placeItem kind nameOf)).filter fun p => p.key = .text name).map (·.member)
      = (rows.filter fun row => nameOf row = name).filterMap kind.item? := by
  rw [List.filter_filterMap, List.map_filterMap, List.filterMap_filter]
  refine List.filterMap_congr fun row _ => ?_
  rw [placeItem]
  by_cases h : nameOf row = name
  · cases kind.item? row <;> simp [h]
  · cases kind.item? row <;> simp [h]

/-- A group of placed items holds **the items of its name**, and it has some. -/
theorem items_of_mem_regroup {g : Group Row}
    (hg : g ∈ regroup id (rows.filterMap (placeItem kind nameOf))) :
    g.key = .text g.shown.keyText ∧ g.members ≠ [] ∧ g.members
      = (rows.filter fun row => nameOf row = g.shown.keyText).filterMap kind.item? := by
  obtain ⟨⟨p, hp, hkey, hshown⟩, hg⟩ := exists_of_mem_regroup hg
  obtain ⟨row, -, -, hpkey, hpshown⟩ := mem_filterMap_placeItem.1 hp
  have hname : g.key = .text g.shown.keyText := by
    rw [← hkey, ← hshown, hpkey, hpshown]
    rfl
  refine ⟨hname, ?_, ?_⟩
  · rw [hg]
    exact List.ne_nil_of_mem (List.mem_map_of_mem (List.mem_filter.2 ⟨hp, decide_eq_true hkey⟩))
  · rw [← map_member_filter_placeItem, hg, hname]
    rfl

/-- A name without a group has **no items**. -/
theorem items_eq_nil {name : String}
    (h : ∀ g ∈ regroup id (rows.filterMap (placeItem kind nameOf)), g.shown.keyText ≠ name) :
    (rows.filter fun row => nameOf row = name).filterMap kind.item? = [] := by
  rw [← map_member_filter_placeItem, List.map_eq_nil_iff, List.filter_eq_nil_iff]
  intro p hp hkey
  -- an item of the name would have opened a group
  have hmem : p.key ∈ (regroup id (rows.filterMap (placeItem kind nameOf))).map Group.key := by
    rw [map_key_regroup, List.mem_eraseDups]
    exact List.mem_map_of_mem hp
  obtain ⟨g, hg, hgkey⟩ := List.mem_map.1 hmem
  rw [(items_of_mem_regroup hg).1, of_decide_eq_true hkey] at hgkey
  exact h g hg (GroupKey.text.inj hgkey)

/-- The groups of placed items **list them by name**. -/
theorem namedLists_itemsByName (kind : RecordKind) (nameOf : Row → String) (rows : List Row) :
    NamedLists kind nameOf rows (itemsByName kind nameOf rows) := by
  have htext : ∀ p ∈ rows.filterMap (placeItem kind nameOf), p.IsByText := by
    intro p hp
    obtain ⟨row, -, -, hkey, hshown⟩ := mem_filterMap_placeItem.1 hp
    exact ⟨nameOf row, hkey, hshown⟩
  have hnames : ((itemsByName kind nameOf rows).map (·.1)).Nodup := by
    rw [itemsByName, List.map_map]
    exact names_nodup_of_isByText htext
  constructor
  case names_nodup => exact hnames
  case nonempty =>
    intro e he
    obtain ⟨g, hg, rfl⟩ := List.mem_map.1 he
    exact (items_of_mem_regroup hg).2.1
  case items =>
    intro name
    by_cases h : name ∈ (itemsByName kind nameOf rows).map (·.1)
    · obtain ⟨e, he, rfl⟩ := List.mem_map.1 h
      rw [itemsUnder, lookup_of_mem hnames he, Option.getD_some]
      obtain ⟨g, hg, rfl⟩ := List.mem_map.1 he
      exact (items_of_mem_regroup hg).2.2
    · have hnone : ∀ g ∈ regroup id (rows.filterMap (placeItem kind nameOf)),
          g.shown.keyText ≠ name := by
        rintro g hg rfl
        exact h (List.mem_map_of_mem (List.mem_map_of_mem hg))
      rw [itemsUnder, lookup_eq_none h, items_eq_nil hnone]
      rfl

/-- Groups by a text **list the items by name**, and hidden names are not shown. -/
theorem shapeGroups_namedLists (timeless : kind.IsTimeless)
    {keyOf : Row → Record → Except Failure Value}
    (hkeyOf : ∀ row ∈ rows, ∀ record, keyOf row record = .ok (.text (nameOf row))) :
    ∃ shaped, shapeGroups kind (rows.map .dict) keyOf = .ok shaped ∧
      shaped.layout.toValue = namedLists (shownLists (itemsByName kind nameOf rows)) := by
  rw [shapeGroups_eq, mapM_placeRecord_eq timeless hkeyOf]
  refine ⟨_, rfl, ?_⟩
  have hshown : shownGroups (regroup id (rows.filterMap (placeItem kind nameOf)))
      = (regroup id (rows.filterMap (placeItem kind nameOf))).filter fun g =>
          !isHidden g.shown.keyText := by
    refine List.filter_congr fun g hg => ?_
    obtain ⟨⟨p, hp, -, hshown⟩, -⟩ := exists_of_mem_regroup hg
    obtain ⟨row, -, -, -, hpshown⟩ := mem_filterMap_placeItem.1 hp
    rw [← hshown, hpshown]
    rfl
  rw [Layout.toValue, hshown, namedLists, shownLists, itemsByName, List.filter_map, List.map_map]
  rfl

end Groups

/-! ## Answers -/

/-- Whether a server **answers data**: every `GET` request that leads to a route with some
identifiers is answered with 200 and the data. -/
def Server.AnswersWith (server : Server) (route : DataRoute) (ids : PathIds) (data : Value) :
    Prop :=
  ∀ request, findRoute server.config.basePath request.path = some (.data route, ids) →
    request.method = "GET" → (server.answer request).1.code = 200 ∧
      (server.answer request).1.body.toValue.field? "data" = some data

/-- A server answers **the layout** of a route's rows. -/
theorem answersWith_of_shape {server : Server} {route : DataRoute} {ids : PathIds}
    {rows : List Row} {shaped : Shaped}
    (hrows : ∀ queryString, route.rows server.backend server.second ids queryString = .ok rows)
    (hshape : route.shape (rows.map .dict) = .ok shaped) :
    server.AnswersWith route ids shaped.layout.toValue := by
  intro request found get
  have hfetch : route.fetch server.backend server.second ids request.queryString
      = .ok ⟨rows.length, shaped⟩ :=
    DataRoute.fetch_eq_ok_iff.2 ⟨rows, hrows request.queryString, hshape, rfl⟩
  have hbody : ∃ count, (server.answer request).1
      = ⟨200, .data shaped.layout count server.elapsed⟩ := by
    rw [answer_data found get, Server.dataBody, hfetch]
    exact ⟨_, rfl⟩
  obtain ⟨count, hanswer⟩ := hbody
  rw [hanswer]
  cases count <;> exact ⟨rfl, rfl⟩

end ClusterMetrics
