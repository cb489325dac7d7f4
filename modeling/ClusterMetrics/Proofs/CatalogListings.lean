import ClusterMetrics.Proofs.ListedItems
import ClusterMetrics.Proofs.Numerals
import ClusterMetrics.Proofs.RowFields
import ClusterMetrics.Proofs.Statements
import ClusterMetrics.Proofs.UniqueIds

/-! # Catalog listings

The listings of the catalog lose no row that is a record, and repeat none. Joined to their clusters,
agents and nodes are listed under the name of the cluster that owns them, which is what the listing
of the one cluster answers if no other cluster bears the name.

* **`Lists`**: items of rows, each once, in the order of identifiers; **`lists_sortBy`**.
* **`clusterItems_lists`**: the clusters are listed; **`isKubernetes_iff`**: which are linked.
* **`Store.ownerName`**: the name that a row is listed under; **`withCluster_eq`**.
* **`OwnedTable`**: agents and nodes alike; **`OwnedTable.answersWith_all`** and
  **`OwnedTable.answersWith_ofCluster`**: the listings of all and of one cluster.
* **`catalog_listings_lose_and_repeat_nothing`**: the listings over a store.
  **`hidden_cluster_is_not_listed`**: a hidden name is not among them. -/

namespace ClusterMetrics

/-! ## Rows in the order of identifiers -/

/-- Whether items **list** those rows that are records: each of them once, in ascending order of the
identifiers. -/
def Lists {α : Type} (kind : RecordKind) (id : α → Option Int) (row : α → Row) (rows : List α)
    (items : List Row) : Prop :=
  ∃ listed : List α, listed.Perm (rows.filter fun a => (kind.decode (row a)).isOk) ∧
    (listed.Pairwise fun a b => ∃ m n, id a = some m ∧ id b = some n ∧ m < n) ∧
    (listed.map fun a => kind.item? (row a)) = items.map some

section Lists

variable {α : Type} {kind : RecordKind} {id : α → Option Int} {row : α → Row} {rows : List α}

/-- Keys that begin with a number are **in the order of the numbers**, if these differ. -/
theorem lt_of_keyLe {m n : Int} {k l : List Cell} (hne : m ≠ n)
    (h : keyLe (.ofInt (some m) :: k) (.ofInt (some n) :: l) = true) : m < n := by
  have hcells : ¬Cell.int m = .int n := by simpa using hne
  simp only [Cell.ofInt, keyLe, hcells, if_false, Cell.le, decide_eq_true_eq] at h
  omega

/-- Rows of different identifiers are sorted **by their identifiers**. -/
theorem pairwise_lt_sortBy {key : α → List Cell}
    (hkey : ∀ a, ∃ rest, key a = .ofInt (id a) :: rest) (hids : IdsDiffer id rows)
    (hid : ∀ a ∈ rows, (id a).isSome = true) :
    (sortBy key rows).Pairwise fun a b => ∃ m n, id a = some m ∧ id b = some n ∧ m < n := by
  have hdiffer : (sortBy key rows).Pairwise fun a b => joins (id a) (id b) = false := by
    refine (List.Perm.pairwise_iff ?_ (sortBy_perm key _)).2 hids
    intro a b h
    rw [joins_comm, h]
  refine ((sortBy_pairwise key rows).and hdiffer).imp_of_mem fun {a b} ha hb h => ?_
  obtain ⟨hle, hjoins⟩ := h
  obtain ⟨m, hm⟩ := Option.isSome_iff_exists.1 (hid a (mem_sortBy.1 ha))
  obtain ⟨n, hn⟩ := Option.isSome_iff_exists.1 (hid b (mem_sortBy.1 hb))
  obtain ⟨k, hk⟩ := hkey a
  obtain ⟨l, hl⟩ := hkey b
  have hne : m ≠ n := by
    rintro rfl
    rw [hm, hn, joins_some_left.2 rfl] at hjoins
    exact Bool.noConfusion hjoins
  rw [hk, hl, hm, hn] at hle
  exact ⟨m, n, hm, hn, lt_of_keyLe hne hle⟩

/-- Rows sorted by their identifiers **are listed**. -/
theorem lists_sortBy (timeless : kind.IsTimeless) {key : α → List Cell}
    (hkey : ∀ a, ∃ rest, key a = .ofInt (id a) :: rest) (hids : IdsDiffer id rows)
    (hid : ∀ a ∈ rows, (kind.decode (row a)).isOk = true → (id a).isSome = true) :
    Lists kind id row rows (((sortBy key rows).map row).filterMap kind.item?) := by
  let isRecord (a : α) : Bool := (kind.decode (row a)).isOk
  have hitem : ∀ a, isRecord a = (kind.item? (row a)).isSome := fun a =>
    (item?_isSome_iff timeless).symm
  refine ⟨sortBy key (rows.filter isRecord), sortBy_perm key _, ?_, ?_⟩
  · refine pairwise_lt_sortBy hkey (hids.filter isRecord) fun a ha => ?_
    obtain ⟨hmem, hrecord⟩ := List.mem_filter.1 ha
    exact hid a hmem hrecord
  · have hrecords : (sortBy key rows).filterMap (fun a => kind.item? (row a))
        = (sortBy key (rows.filter isRecord)).filterMap fun a => kind.item? (row a) := by
      rw [← filter_sortBy, List.filterMap_filter]
      refine List.filterMap_congr fun a _ => ?_
      rw [hitem]
      cases kind.item? (row a) <;> simp
    rw [List.filterMap_map]
    refine Eq.trans (map_filterMap_of_forall fun a ha => ?_).symm (congrArg _ hrecords.symm)
    obtain ⟨-, hrecord⟩ := List.mem_filter.1 (mem_sortBy.1 ha)
    obtain ⟨item, hsome⟩ := Option.isSome_iff_exists.1 (hitem a ▸ hrecord)
    rw [hsome]
    rfl

end Lists

/-! ## Clusters -/

/-- A cluster with an identifier and a name **is a record**, whatever runs on it. -/
theorem item?_clusterRow (id : Int) (name : String) (linked : Bool) :
    RecordKind.clusterItem.item? (clusterRow (⟨some id, some name⟩, linked))
      = some [("id", .int id), ("name", .text name), ("kubernetes", .bool linked)] := by
  cases linked <;> rfl

/-- Whether a cluster **has** an identifier and a name. -/
def Cluster.isNamed (c : Cluster) : Bool := c.id.isSome && c.name.isSome

/-- The clusters that have an item are **those that have both**. -/
theorem isSome_item?_clusterRow (c : Cluster) (linked : Bool) :
    (RecordKind.clusterItem.item? (clusterRow (c, linked))).isSome = c.isNamed := by
  obtain ⟨_ | id, _ | name⟩ := c
  · rfl
  · rfl
  · rfl
  · rw [item?_clusterRow]
    rfl

/-- Whether a key is of a cluster that **has both**. -/
def isNamedKey : List Cell → Bool
  | [.int _, .text _] => true
  | _ => false

theorem isNamedKey_clusterKeyCells (c : Cluster) : isNamedKey (clusterKeyCells c) = c.isNamed := by
  obtain ⟨_ | id, _ | name⟩ := c <;> rfl

/-- Clusters that have both are **told apart** by their keys. -/
theorem clusterKeyCells_nodup {clusters : List Cluster} (hids : IdsDiffer Cluster.id clusters) :
    ((clusters.filter Cluster.isNamed).map clusterKeyCells).Nodup := by
  rw [List.Nodup, List.pairwise_map]
  refine (hids.filter Cluster.isNamed).imp_of_mem fun {c d} hc _ hjoins heq => ?_
  obtain ⟨hid, -⟩ := Bool.and_eq_true_iff.1 (List.mem_filter.1 hc).2
  obtain ⟨n, hn⟩ := Option.isSome_iff_exists.1 hid
  have hsame : c.id = d.id := ofInt_inj.1 (List.cons.inj heq).1
  rw [← hsame, hn, joins_some_left.2 rfl] at hjoins
  exact Bool.noConfusion hjoins

namespace Store

variable {store : Store}

/-- A cluster is marked if **some link** of it has an identifier, however many have. -/
theorem isKubernetes_iff {c : Cluster} : store.isKubernetes c = true ↔
    ∃ k ∈ store.kubernetesClusters, joins k.cluster c.id = true ∧ k.id.isSome = true := by
  rw [isKubernetes, List.any_eq_true]
  simp only [Bool.and_eq_true]

/-- The clusters that have both are **listed once**, in the order of their keys. -/
theorem filter_listClusters (unique : store.HasUniqueIds) :
    (store.listClusters.filter fun r => r.1.isNamed)
      = (sortBy clusterKeyCells (store.clusters.filter Cluster.isNamed)).map fun c =>
          (c, store.isKubernetes c) := by
  have hfirst : ∀ g ∈ sortBy (·.1) (groupBy clusterKeyCells store.clusters), ∀ c,
      g.2.head? = some c → c.isNamed = isNamedKey g.1 := by
    intro g hg c hc
    have hmem : c ∈ g.2 := List.mem_of_head? hc
    rw [(mem_groupBy.1 (mem_sortBy.1 hg)).2] at hmem
    have hkey : clusterKeyCells c = g.1 := of_decide_eq_true (List.mem_filter.1 hmem).2
    rw [← hkey, isNamedKey_clusterKeyCells]
  have hselect : (store.listClusters.filter fun r => r.1.isNamed)
      = ((sortBy (·.1) (groupBy clusterKeyCells store.clusters)).filter fun g =>
          isNamedKey g.1).filterMap fun g =>
            g.2.head?.map fun c => (c, store.isKubernetes c) := by
    rw [listClusters, List.filter_filterMap, List.filterMap_filter]
    refine List.filterMap_congr fun g hg => ?_
    cases hc : g.2.head? with
    | none => simp
    | some c => simp [hfirst g hg c hc, Option.filter]
  have hgroups : (groupBy clusterKeyCells store.clusters).filter (fun g => isNamedKey g.1)
      = (store.clusters.filter Cluster.isNamed).map fun c => (clusterKeyCells c, [c]) := by
    rw [← groupBy_filter fun c _ => (isNamedKey_clusterKeyCells c).symm,
      groupBy_of_nodup (clusterKeyCells_nodup unique.clusters)]
  rw [hselect, filter_sortBy, hgroups, sortBy_map, List.filterMap_map]
  exact congrFun List.filterMap_eq_map' _

/-- The items of the listing are those **of the clusters**, sorted by identifiers. -/
theorem listClusters_items (unique : store.HasUniqueIds) :
    (store.listClusters.map clusterRow).filterMap RecordKind.clusterItem.item?
      = ((sortBy clusterKeyCells store.clusters).map fun c =>
          clusterRow (c, store.isKubernetes c)).filterMap RecordKind.clusterItem.item? := by
  have hnamed : ∀ l : List (Cluster × Bool),
      (l.map clusterRow).filterMap RecordKind.clusterItem.item?
        = ((l.filter fun r => r.1.isNamed).map clusterRow).filterMap
            RecordKind.clusterItem.item? := by
    intro l
    rw [List.filterMap_map, List.filterMap_map, List.filterMap_filter]
    refine List.filterMap_congr fun r _ => ?_
    have hsome : (RecordKind.clusterItem.item? (clusterRow r)).isSome = r.1.isNamed :=
      isSome_item?_clusterRow r.1 r.2
    rw [Function.comp_apply, ← hsome]
    cases RecordKind.clusterItem.item? (clusterRow r) <;> simp
  have hrows : ((sortBy clusterKeyCells store.clusters).map fun c =>
      clusterRow (c, store.isKubernetes c))
        = ((sortBy clusterKeyCells store.clusters).map fun c => (c, store.isKubernetes c)).map
            clusterRow := by
    rw [List.map_map]
    rfl
  rw [hrows, hnamed store.listClusters, filter_listClusters unique, ← filter_sortBy,
    hnamed ((sortBy clusterKeyCells store.clusters).map _), List.filter_map]
  rfl

end Store

/-! ## Owners -/

namespace Store

variable {store : Store} (unique : store.HasUniqueIds)

/-- The **name of the cluster** that a row belongs to; empty if there is none or it has no name. -/
def ownerName (store : Store) (cluster : Option Int) : String :=
  ((findById Cluster.id store.clusters cluster).bind Cluster.name).getD ""

include unique

/-- Every row is joined to the cluster it belongs to, **once**. -/
theorem withCluster_eq {α : Type} (cluster : α → Option Int) (rows : List α) :
    store.withCluster cluster rows
      = rows.map fun a =>
          (a, (findById Cluster.id store.clusters (cluster a)).bind Cluster.name) := by
  rw [withCluster, List.map_eq_flatMap]
  refine List.flatMap_congr fun a _ => ?_
  rw [filter_joins unique.clusters]
  cases findById Cluster.id store.clusters (cluster a) <;> rfl

/-- A row is listed under the name of a cluster **exactly if it belongs to it**, where no other
cluster bears the name. -/
theorem ownerName_eq_iff {owner : Cluster} (mem : owner ∈ store.clusters) {c : Int}
    (id : owner.id = some c) {name : String} (named : owner.name = some name) (hne : name ≠ "")
    (only : ∀ other ∈ store.clusters, other.name = some name → other.id = some c)
    (cluster : Option Int) : store.ownerName cluster = name ↔ holds cluster c = true := by
  rw [holds_iff, ownerName]
  constructor
  · intro h
    cases hfound : findById Cluster.id store.clusters cluster with
    | none =>
      rw [hfound] at h
      exact absurd h.symm hne
    | some other =>
      obtain ⟨hmem, hjoins⟩ := (findById_eq_some_iff unique.clusters).1 hfound
      cases hname : other.name with
      | none =>
        rw [hfound, Option.bind_some, hname] at h
        exact absurd h.symm hne
      | some name' =>
        rw [hfound, Option.bind_some, hname, Option.getD_some] at h
        subst h
        obtain ⟨n, hn, hother⟩ := joins_iff.1 hjoins
        rw [hn, ← hother]
        exact only other hmem hname
  · rintro rfl
    have hfound : findById Cluster.id store.clusters (some c) = some owner :=
      (findById_eq_some_iff unique.clusters).2 ⟨mem, joins_some_left.2 id⟩
    rw [hfound, Option.bind_some, named, Option.getD_some]

end Store

/-- The name that a row of a listing **stands under**. -/
def Row.clusterName (row : Row) : String := (row.text? "cluster_name").getD ""

section OwnerColumn

variable (row : Row) (name : Option String)

theorem get?_ownerColumn :
    (row ++ ownerColumn name).get? "cluster_name" = some (textValue name) := by
  rw [Row.get?, Value.lookupLast, ownerColumn, List.reverse_append]
  rfl

@[simp] theorem clusterName_ownerColumn : (row ++ ownerColumn name).clusterName = name.getD "" := by
  rw [Row.clusterName, Row.text?, get?_ownerColumn]
  cases name <;> rfl

/-- A row is grouped by **the name it stands under**. -/
theorem clusterKey_ownerColumn (record : Record) :
    clusterKey (row ++ ownerColumn name) record
      = .ok (.text (row ++ ownerColumn name).clusterName) := by
  rw [clusterKey, get?_ownerColumn, clusterName_ownerColumn]
  cases name with
  | none => rfl
  | some s =>
    by_cases h : s = ""
    · subst h
      rfl
    · simp [textValue, Value.ofOption, Value.isEmptyLike, h]

/-- The name of the owner does not matter to **what a row is decoded to**. -/
theorem decode_ownerColumn {kind : RecordKind} (hkind : ∀ f ∈ kind.fields, f.1 ≠ "cluster_name") :
    kind.decode (row ++ ownerColumn name) = kind.decode row := by
  have hfields : (kind.fields.map fun f => (f.1, f.2, f.2.decode (row ++ ownerColumn name) f.1))
      = kind.fields.map fun f => (f.1, f.2, f.2.decode row f.1) := by
    refine List.map_congr_left fun f hf => ?_
    have hget : (row ++ ownerColumn name).get? f.1 = row.get? f.1 := by
      have hne : ("cluster_name" == f.1) = false := by simpa using (hkind f hf).symm
      rw [Row.get?, Value.lookupLast, ownerColumn, List.reverse_append, List.find?_append]
      simp [hne, Row.get?, Value.lookupLast]
    rw [FieldKind.decode, hget, FieldKind.decode]
  unfold RecordKind.decode
  rw [hfields]

end OwnerColumn

/-! ## Tables of owned rows -/

/-- A table of **rows that belong to clusters**, with its listings: of all rows, and of those of one
cluster. -/
structure OwnedTable (α : Type) where
  rows : Store → List α
  id : α → Option Int
  cluster : α → Option Int
  kind : RecordKind
  row : α → Row
  listing : Option Int → CatalogQuery
  all : DataRoute
  ofCluster : DataRoute
  timeless : kind.IsTimeless
  fields_ne : ∀ f ∈ kind.fields, f.1 ≠ "cluster_name"
  id_mem : ("id", .whole) ∈ kind.fields
  get?_id : ∀ a, (row a).get? "id" = some (intValue (id a))
  idsDiffer : ∀ {store : Store}, store.HasUniqueIds → IdsDiffer id (rows store)
  rows_all : ∀ store, (listing none).rows store
    = (sortBy (fun r => [.ofInt (id r.1)]) (store.withCluster cluster (rows store))).map fun r =>
        row r.1 ++ ownerColumn r.2
  rows_ofCluster : ∀ store c, (listing (some c)).rows store
    = (sortBy (fun a => [.ofInt (id a)]) ((rows store).filter fun a => holds (cluster a) c)).map row
  bound : ∀ c, (listing c).bound = c.toList
  others : ∀ c, (listing c).others = 0
  check_all : ∀ ids queryString, all.check ids queryString = .ok (.catalog (listing none))
  check_ofCluster : ∀ ids queryString,
    ofCluster.check ids queryString = ClusterMetrics.ofCluster ids listing
  shape_all : all.shape = shapeByCluster kind
  shape_ofCluster : ofCluster.shape = shapeList kind

/-- The **agents**. -/
def agentTable : OwnedTable Agent where
  rows := Store.agents
  id := Agent.id
  cluster := Agent.cluster
  kind := .agentItem
  row := agentRow
  listing := .agents
  all := .agents
  ofCluster := .clusterAgents
  timeless := by unfold RecordKind.IsTimeless; decide
  fields_ne := by decide
  id_mem := by decide
  get?_id _ := rfl
  idsDiffer unique := unique.agents
  rows_all _ := rfl
  rows_ofCluster _ _ := rfl
  bound _ := rfl
  others _ := rfl
  check_all _ _ := rfl
  check_ofCluster _ _ := rfl
  shape_all := rfl
  shape_ofCluster := rfl

/-- The **nodes**. -/
def nodeTable : OwnedTable Node where
  rows := Store.nodes
  id := Node.id
  cluster := Node.cluster
  kind := .nodeItem
  row := nodeRow
  listing := .nodes
  all := .nodes
  ofCluster := .clusterNodes
  timeless := by unfold RecordKind.IsTimeless; decide
  fields_ne := by decide
  id_mem := by decide
  get?_id _ := rfl
  idsDiffer unique := unique.nodes
  rows_all _ := rfl
  rows_ofCluster _ _ := rfl
  bound _ := rfl
  others _ := rfl
  check_all _ _ := rfl
  check_ofCluster _ _ := rfl
  shape_all := rfl
  shape_ofCluster := rfl

/-- The identifiers of a path below a cluster are **read as its scope**. -/
theorem scope_cluster {c : Nat} (hpos : 0 < c) (hlt : c < 10 ^ numeralLimit) :
    PathIds.scope [(.cluster, toString c)] [.cluster] "node"
      = .ok ⟨some c, none, .node, none, none⟩ := by
  have hparse : parseId .cluster (some (toString c)) = .ok (some (c : Int)) := by
    rw [parseId_numeral .cluster hpos, if_pos hlt]
  have hgiven : [IdName.cluster.label].all
      (RawIds.hasLabel (PathIds.text? [(.cluster, toString c)])) = true := by
    show ((toString c != "") && true) = true
    simp
  exact resolveScope_eq_ok_iff.2
    ⟨hgiven, hparse, rfl, none, none, rfl, rfl, rfl, rfl, .node, rfl, rfl⟩

namespace OwnedTable

variable {α : Type} (t : OwnedTable α) {store : Store}

/-- The rows of a table, in the order of their identifiers. -/
def sorted (store : Store) : List α := sortBy (fun a => [.ofInt (t.id a)]) (t.rows store)

/-- A record has **an identifier**. -/
theorem id_isSome {a : α} (h : (t.kind.decode (t.row a)).isOk = true) : (t.id a).isSome = true := by
  cases hdecode : t.kind.decode (t.row a) with
  | error issues =>
    rw [hdecode] at h
    cases h
  | ok record =>
    obtain ⟨_, w, -, hget, hcoerce⟩ := exists_coerce_of_decode hdecode t.id_mem
    rw [t.get?_id] at hget
    obtain rfl := Option.some.inj hget
    cases hid : t.id a with
    | none =>
      rw [hid] at hcoerce
      cases hcoerce
    | some n => rfl

/-- Selected rows **are listed** by the items of the sorted rows that are selected. -/
theorem lists_filter (unique : store.HasUniqueIds) (p : α → Bool) :
    Lists t.kind t.id t.row ((t.rows store).filter p)
      ((((t.sorted store).filter p).map t.row).filterMap t.kind.item?) := by
  rw [sorted, filter_sortBy]
  refine lists_sortBy t.timeless ?_ ((t.idsDiffer unique).filter p) ?_
  · exact fun a => ⟨[], rfl⟩
  · exact fun a _ h => t.id_isSome h

/-- A row as it is listed among all, with **the name of its owner**. -/
def ownedRow (store : Store) (a : α) : Row :=
  t.row a ++ ownerColumn ((findById Cluster.id store.clusters (t.cluster a)).bind Cluster.name)

/-- The listing of all has **every row**, in order. -/
theorem rows_all_eq (unique : store.HasUniqueIds) :
    (t.listing none).rows store = (t.sorted store).map (t.ownedRow store) := by
  rw [t.rows_all, Store.withCluster_eq unique, sortBy_map, List.map_map]
  rfl

/-- Under a name stand the items **of the rows whose owner bears it**. -/
theorem itemsUnder_rows_all (unique : store.HasUniqueIds) (name : String) :
    itemsUnder (itemsByName t.kind Row.clusterName ((t.listing none).rows store)) name
      = (((t.sorted store).filter fun a => store.ownerName (t.cluster a) = name).map
          t.row).filterMap t.kind.item? := by
  have hitem : t.kind.item? ∘ t.ownedRow store = t.kind.item? ∘ t.row := by
    funext a
    rw [Function.comp_apply, Function.comp_apply, RecordKind.item?, ownedRow,
      decode_ownerColumn _ _ t.fields_ne, RecordKind.item?]
  have hname : (fun row : Row => decide (row.clusterName = name)) ∘ t.ownedRow store
      = fun a => decide (store.ownerName (t.cluster a) = name) := by
    funext a
    rw [Function.comp_apply, ownedRow, clusterName_ownerColumn, Store.ownerName]
  rw [(namedLists_itemsByName t.kind Row.clusterName _).items name, t.rows_all_eq unique,
    List.filter_map, List.filterMap_map, List.filterMap_map, hitem, hname]

section Answers

variable {server : Server} (serves : server.backend = .ofStore store)
include serves

/-- The listing of all is answered with the items **by the names of the owners**, but for those that
are hidden. -/
theorem answersWith_all (unique : store.HasUniqueIds) (ids : PathIds) :
    server.AnswersWith t.all ids
      (namedLists (shownLists
        (itemsByName t.kind Row.clusterName ((t.listing none).rows store)))) := by
  have hrows : ∀ queryString, t.all.rows server.backend server.second ids queryString
      = .ok ((t.listing none).rows store) := by
    intro queryString
    rw [DataRoute.rows, t.check_all, serves]
    show (t.listing none).run (Backend.ofStore store) = _
    rw [CatalogQuery.run, t.bound, t.others, Backend.query_ofStore store (by decide)]
    rfl
  have hkey : ∀ row ∈ (t.listing none).rows store, ∀ record,
      clusterKey row record = .ok (.text row.clusterName) := by
    intro row hrow record
    rw [t.rows_all_eq unique] at hrow
    obtain ⟨a, -, rfl⟩ := List.mem_map.1 hrow
    exact clusterKey_ownerColumn _ _ record
  obtain ⟨shaped, hshape, hlayout⟩ := shapeGroups_namedLists t.timeless hkey
  have hlaid : t.all.shape (((t.listing none).rows store).map .dict) = .ok shaped := by
    rw [t.shape_all]
    exact hshape
  have hanswer := answersWith_of_shape hrows hlaid
  rwa [hlayout] at hanswer

/-- The listing of one cluster is answered with the items **of its rows**. -/
theorem answersWith_ofCluster {c : Nat} (hpos : 0 < c) (stored : fits64 c = true) :
    server.AnswersWith t.ofCluster [(.cluster, toString c)]
      (.list (((((t.sorted store).filter fun a => holds (t.cluster a) c).map t.row).filterMap
        t.kind.item?).map .dict)) := by
  have hrows : ∀ queryString, t.ofCluster.rows server.backend server.second
      [(.cluster, toString c)] queryString = .ok ((t.listing (some c)).rows store) := by
    intro queryString
    rw [DataRoute.rows, t.check_ofCluster, serves, ClusterMetrics.ofCluster,
      scope_cluster hpos (lt_limit_of_fits64 stored)]
    show (t.listing (some (c : Int))).run (Backend.ofStore store) = _
    have htakes : Backend.Takes [(c : Int)] 0 := ⟨by simp [variableLimit], by simpa using stored⟩
    rw [CatalogQuery.run, t.bound, t.others, Option.toList_some, Backend.query_ofStore store htakes]
    rfl
  obtain ⟨shaped, hshape, hlayout⟩ := shapeList_items t.timeless ((t.listing (some c)).rows store)
  rw [← t.shape_ofCluster] at hshape
  have hanswer := answersWith_of_shape hrows hshape
  rw [hlayout, t.rows_ofCluster, ← filter_sortBy] at hanswer
  exact hanswer

end Answers

end OwnedTable

/-! ## The listings over a store -/

/-- Whether the identifiers of the catalog are **keys**: they are unique, and every link of a
cluster to Kubernetes has one. -/
structure Store.HasKeys (store : Store) : Prop extends store.HasUniqueIds where
  identified : ∀ k ∈ store.kubernetesClusters, k.id.isSome = true

/-- What the **listing of clusters** says: the clusters that are records, each once, and of each of
them whether any row links it to Kubernetes. -/
structure Store.ListsClusters (store : Store) (items : List Row) : Prop where
  lists : Lists .clusterItem Cluster.id (fun c => clusterRow (c, store.isKubernetes c))
    store.clusters items
  shown : ∀ c ∈ store.clusters, ∀ item,
    RecordKind.clusterItem.item? (clusterRow (c, store.isKubernetes c)) = some item →
      item.get? "kubernetes" = some (.bool (store.isKubernetes c))
  linked : ∀ c ∈ store.clusters, store.isKubernetes c = true ↔
    ∃ k ∈ store.kubernetesClusters, joins k.cluster c.id = true

/-- What the **listings of owned rows** say: no hidden name is listed, and under any other name stand
the rows of its cluster that are records, each once; and the listing of a cluster is what stands under
its name, if this is not hidden and no other cluster bears it. -/
structure OwnedTable.ListsRows {α : Type} (t : OwnedTable α) (server : Server) (store : Store)
    (entries : List (String × List Row)) : Prop where
  answered : server.AnswersWith t.all [] (namedLists entries)
  names_nodup : (entries.map (·.1)).Nodup
  shown : ∀ e ∈ entries, isHidden e.1 = false
  nonempty : ∀ e ∈ entries, e.2 ≠ []
  lists : ∀ name, isHidden name = false → Lists t.kind t.id t.row
    ((t.rows store).filter fun a => store.ownerName (t.cluster a) = name) (itemsUnder entries name)
  ofCluster : ∀ owner ∈ store.clusters, ∀ (c : Nat) (name : String), owner.id = some (c : Int) →
    1 ≤ c → fits64 c = true → owner.name = some name → name ≠ "" → isHidden name = false →
      (∀ other ∈ store.clusters, other.name = some name → other.id = owner.id) →
        server.AnswersWith t.ofCluster [(.cluster, toString c)]
          (.list ((itemsUnder entries name).map .dict))

/-- The clusters **are listed**. -/
theorem exists_listsClusters {server : Server} {store : Store}
    (serves : server.backend = .ofStore store) (keys : store.HasKeys) :
    ∃ items, server.AnswersWith .clusters [] (.list (items.map .dict)) ∧
      store.ListsClusters items := by
  have htimeless : RecordKind.clusterItem.IsTimeless := by
    unfold RecordKind.IsTimeless
    decide
  have hrows : ∀ queryString, DataRoute.clusters.rows server.backend server.second [] queryString
      = .ok (store.listClusters.map clusterRow) := by
    intro queryString
    rw [serves]
    show CatalogQuery.run .clusters (Backend.ofStore store) = _
    rw [CatalogQuery.run, Backend.query_ofStore store (by decide)]
    rfl
  obtain ⟨shaped, hshape, hlayout⟩ := shapeList_items htimeless (store.listClusters.map clusterRow)
  have hlaid : DataRoute.clusters.shape ((store.listClusters.map clusterRow).map .dict)
      = .ok shaped := hshape
  have hanswer := answersWith_of_shape hrows hlaid
  rw [hlayout, Store.listClusters_items keys.toHasUniqueIds] at hanswer
  refine ⟨_, hanswer, ?_, ?_, ?_⟩
  · refine lists_sortBy htimeless (fun c => ⟨_, rfl⟩) keys.clusters ?_
    intro c _ hrecord
    rw [← item?_isSome_iff htimeless, isSome_item?_clusterRow] at hrecord
    exact (Bool.and_eq_true_iff.1 hrecord).1
  · intro c _ item hitem
    have hnamed := isSome_item?_clusterRow c (store.isKubernetes c)
    generalize store.isKubernetes c = linked at hitem hnamed ⊢
    rw [hitem] at hnamed
    obtain ⟨_ | id, _ | name⟩ := c
    · cases hnamed
    · cases hnamed
    · cases hnamed
    · rw [item?_clusterRow] at hitem
      cases hitem
      rfl
  · intro c _
    rw [Store.isKubernetes_iff]
    refine exists_congr fun k => and_congr_right fun hk => ?_
    rw [and_iff_left (keys.identified k hk)]

/-- The rows of an owned table **are listed**. -/
theorem OwnedTable.exists_listsRows {α : Type} (t : OwnedTable α) {server : Server} {store : Store}
    (serves : server.backend = .ofStore store) (unique : store.HasUniqueIds) :
    ∃ entries, t.ListsRows server store entries := by
  have hnamed := namedLists_itemsByName t.kind Row.clusterName ((t.listing none).rows store)
  have hunder : ∀ name, isHidden name = false → itemsUnder
      (shownLists (itemsByName t.kind Row.clusterName ((t.listing none).rows store))) name = _ :=
    fun name shown => (itemsUnder_shownLists shown).trans (t.itemsUnder_rows_all unique name)
  refine ⟨shownLists (itemsByName t.kind Row.clusterName ((t.listing none).rows store)), ?_⟩
  constructor
  case answered => exact t.answersWith_all serves unique []
  case names_nodup => exact hnamed.names_nodup.sublist (List.filter_sublist.map _)
  case shown => exact fun e he => by simpa using (List.mem_filter.1 he).2
  case nonempty => exact fun e he => hnamed.nonempty e (List.mem_filter.1 he).1
  case lists =>
    intro name shown
    rw [hunder name shown]
    exact t.lists_filter unique _
  case ofCluster =>
    intro owner mem c name id hpos stored named hne shown only
    have howned : ∀ cluster, decide (store.ownerName cluster = name) = holds cluster c := by
      intro cluster
      rw [Bool.eq_iff_iff, decide_eq_true_eq]
      exact Store.ownerName_eq_iff unique mem id named hne
        (fun other hother hname => (only other hother hname).trans id) cluster
    rw [hunder name shown]
    simp only [howned]
    exact t.answersWith_ofCluster serves hpos stored

/-- **Catalog listings lose and repeat nothing**, but for hidden names. Over a store whose identifiers
are keys, the clusters that are records are listed, each once, in ascending order, and marked if any
row links them to Kubernetes; so are agents and nodes, each under the name of the cluster it belongs
to, or under the empty name if there is none, unless the name is hidden; and what stands under the name
of a cluster, if it is not hidden and no other cluster bears it, is what the listing of that cluster
answers. -/
theorem catalog_listings_lose_and_repeat_nothing {server : Server} {store : Store}
    (serves : server.backend = .ofStore store) (keys : store.HasKeys) :
    (∃ items, server.AnswersWith .clusters [] (.list (items.map .dict)) ∧
        store.ListsClusters items) ∧
      (∃ entries, agentTable.ListsRows server store entries) ∧
      ∃ entries, nodeTable.ListsRows server store entries :=
  ⟨exists_listsClusters serves keys, agentTable.exists_listsRows serves keys.toHasUniqueIds,
    nodeTable.exists_listsRows serves keys.toHasUniqueIds⟩

/-- Two clusters, of which one has a name and two links to Kubernetes, with an agent each, and an
agent of a cluster that is not in the catalog. -/
def mainAndUnnamed : Store :=
  { Store.empty with
    clusters := [⟨some 2, none⟩, ⟨some 1, some "main"⟩]
    kubernetesClusters := [⟨some 1, some 1, none⟩, ⟨some 2, some 1, none⟩]
    agents := [⟨some 3, some 7, some "1.0", some "10.0.0.3", some 1⟩,
      ⟨some 2, some 2, some "1.0", some "10.0.0.2", some 1⟩,
      ⟨some 1, some 1, some "1.0", some "10.0.0.1", some 0⟩] }

/-- The agents are listed by two names, and one of them by the listing of its cluster. -/
theorem listings_of_main_and_unnamed :
    (serverOn mainAndUnnamed).backend = .ofStore mainAndUnnamed ∧ mainAndUnnamed.HasKeys ∧
      findRoute (serverOn mainAndUnnamed).config.basePath
        (getTarget "/api/v1/clusters/1/agents").path
          = some (.data .clusterAgents, [(.cluster, toString 1)]) ∧
      ∃ entries, agentTable.ListsRows (serverOn mainAndUnnamed) mainAndUnnamed entries ∧
        ((serverOn mainAndUnnamed).answer (getTarget "/api/v1/clusters/1/agents")).1.code = 200 ∧
        ((serverOn mainAndUnnamed).answer
            (getTarget "/api/v1/clusters/1/agents")).1.body.toValue.field? "data"
          = some (.list ((itemsUnder entries "main").map .dict)) := by
  have hkeys : mainAndUnnamed.HasKeys := by
    constructor
    · constructor <;> decide
    · decide
  have hfound : findRoute (serverOn mainAndUnnamed).config.basePath
      (getTarget "/api/v1/clusters/1/agents").path
        = some (.data .clusterAgents, [(.cluster, toString 1)]) := by decide +kernel
  obtain ⟨-, ⟨entries, hagents⟩, -⟩ :=
    @catalog_listings_lose_and_repeat_nothing (serverOn mainAndUnnamed) _ rfl hkeys
  have hanswer := hagents.ofCluster ⟨some 1, some "main"⟩ (by simp [mainAndUnnamed]) 1 "main" rfl
    (by decide) (by decide) rfl (by decide) (by decide) (by simp [mainAndUnnamed])
  exact ⟨rfl, hkeys, hfound, entries, hagents, hanswer _ hfound rfl⟩

/-- An agent of the first release that is online, as it is listed. -/
def listedAgent (id : Int) (address : String) : Row :=
  [("id", .int id), ("version", .text "1.0"), ("ip", .text address), ("online", .bool true)]

/-- The agent of a cluster whose name is hidden **is listed under no name**, though the listing of its
cluster has it. -/
theorem hidden_cluster_is_not_listed :
    hiddenCluster.HasKeys ∧
      (serverOn hiddenCluster).AnswersWith .agents []
        (namedLists [("main", [listedAgent 1 "10.0.0.1"])]) ∧
      (serverOn hiddenCluster).AnswersWith .clusterAgents [(.cluster, toString 2)]
        (.list [.dict (listedAgent 2 "10.0.0.2")]) := by
  have hkeys : hiddenCluster.HasKeys := by
    constructor
    · constructor <;> decide
    · decide
  have hsorted : agentTable.sorted hiddenCluster = hiddenCluster.agents :=
    sortBy_of_pairwise (by decide)
  have hcluster := @OwnedTable.answersWith_ofCluster Agent agentTable hiddenCluster
    (serverOn hiddenCluster) rfl 2 (by decide) (by decide)
  rw [hsorted] at hcluster
  exact ⟨hkeys, answersWith_of_shape rows_hiddenCluster rfl, hcluster⟩

end ClusterMetrics
