import ClusterMetrics.Query.Catalog
import ClusterMetrics.Query.Series

/-! # Routes

A path leads to a route by its segments, of which some are fixed and some carry an identifier. An
identifier is any text that is not empty and holds no slash. Every route lies below the base path of
the server.

* **`Route`**: what can be asked for; a **`DataRoute`** is answered from the store.
* **`patterns`**: the paths of all routes, in the order in which they are tried.
* **`findRoute`**: the route of a path with the identifiers that the path carries. -/

namespace ClusterMetrics

/-- A route that is **answered from the store**. -/
inductive DataRoute
  | clusters
  | agents
  | nodes
  | metricNames
  | clusterAgents
  | clusterNodes
  | snapshot (query : SnapshotQuery)
  | series (query : SeriesQuery)
  | summary (query : SummaryQuery)
  deriving DecidableEq, Repr

/-- What can be **asked for**. -/
inductive Route
  | health
  | status
  | incidents
  | data (route : DataRoute)
  deriving DecidableEq, Repr

/-- A **segment** of a path. -/
inductive Segment
  | fixed (text : String)
  | id (name : IdName)
  deriving DecidableEq, Repr

/-- The segments of a path below a cluster. -/
def clusterPath (head : String) (rest : List Segment) : List Segment :=
  .fixed head :: .id .cluster :: rest

/-- The segments of a path below a node of a cluster. -/
def nodePath (head : String) (rest : List Segment) : List Segment :=
  clusterPath head (.fixed "nodes" :: .id .node :: rest)

/-- The segments of a path below a namespace of a cluster. -/
def namespacePath (head : String) (rest : List Segment) : List Segment :=
  clusterPath head (.fixed "k8s" :: .fixed "namespaces" :: .id .namespace_ :: rest)

/-- The paths to the entities of a cluster, each beside what it leads to. -/
def entityPaths {α : Type} (head : String) (entities : EntityKind → α) (pods : α) :
    List (List Segment × α) :=
  [(clusterPath head [.fixed "nodes"], entities .node),
   (nodePath head [], entities .node),
   (nodePath head [.fixed "processes"], entities .process),
   (nodePath head [.fixed "processes", .id .process], entities .process),
   (nodePath head [.fixed "containers"], entities .container),
   (nodePath head [.fixed "containers", .id .container], entities .container),
   (clusterPath head [.fixed "k8s", .fixed "pods"], pods),
   (namespacePath head [.fixed "pods"], pods),
   (namespacePath head [.fixed "pods", .id .pod], pods)]

/-- The paths of the catalog. -/
def catalogPaths : List (List Segment × DataRoute) :=
  [([.fixed "clusters"], .clusters),
   ([.fixed "agents"], .agents),
   ([.fixed "nodes"], .nodes),
   ([.fixed "metric_names"], .metricNames),
   (clusterPath "clusters" [.fixed "agents"], .clusterAgents),
   (clusterPath "clusters" [.fixed "nodes"], .clusterNodes)]

/-- The paths of the summaries. -/
def summaryPaths : List (List Segment × DataRoute) :=
  [([.fixed "clusters"], .summary .clusters),
   (clusterPath "clusters" [], .summary .clusters),
   (clusterPath "clusters" [.fixed "nodes"], .summary .nodes),
   (nodePath "clusters" [], .summary .nodes)].map fun p => (.fixed "summary" :: p.1, p.2)

/-- The paths of the routes that are answered from the store. -/
def dataPaths : List (List Segment × DataRoute) :=
  catalogPaths ++
  entityPaths "snapshot" (fun kind => .snapshot (.entities kind)) (.snapshot .pods) ++
  (clusterPath "metrics" [.fixed "summary"], .series .clusterSummary) ::
  entityPaths "metrics" (fun kind => .series (.entities kind)) (.series .pods) ++
  summaryPaths

/-- The paths of **all routes**. -/
def patterns : List (List Segment × Route) :=
  ([.fixed "health"], .health) ::
  ([.fixed "status"], .status) ::
  ([.fixed "incidents", .fixed "basic"], .incidents) ::
  dataPaths.map fun p => (p.1, .data p.2)

/-- The identifiers that a path carries. -/
abbrev PathIds := List (IdName × String)

/-- The text given for an identifier. -/
def PathIds.text? (ids : PathIds) : RawIds := fun name => ids.lookup name

/-- The parts of a text between slashes. -/
def slashParts : List Char → List (List Char)
  | [] => [[]]
  | c :: rest =>
    match slashParts rest with
    | [] => [[c]]
    | part :: more => if c = '/' then [] :: part :: more else (c :: part) :: more

/-- Whether a part of a path is a fixed text; at the end of a path a line feed may follow. -/
def isFixed (text : List Char) (isLast : Bool) (part : List Char) : Bool :=
  part == text || isLast && part == text ++ ['\n']

/-- The identifiers of a path whose parts **fit** a pattern. -/
def fit? : List Segment → List (List Char) → Option PathIds
  | [], [] => some []
  | .fixed text :: segments, part :: parts =>
    if isFixed text.toList segments.isEmpty part then fit? segments parts else none
  | .id name :: segments, part :: parts =>
    if part.isEmpty then none else (fit? segments parts).map ((name, String.ofList part) :: ·)
  | _, _ => none

/-- The parts of a path **below a base**, each after a slash. -/
def partsBelow? (base path : List Char) : Option (List (List Char)) :=
  if base.isPrefixOf path then
    match path.drop base.length with
    | '/' :: rest => some (slashParts rest)
    | _ => none
  else none

/-- The **route of a path** and the identifiers that the path carries. -/
def findRoute (base path : String) : Option (Route × PathIds) := do
  let parts ← partsBelow? base.toList path.toList
  patterns.findSome? fun p => (fit? p.1 parts).map (p.2, ·)

end ClusterMetrics
