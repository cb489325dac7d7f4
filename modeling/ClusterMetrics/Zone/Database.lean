import ClusterMetrics.Fault
import ClusterMetrics.Zone.Encoding
import ClusterMetrics.Zone.Table.Africa
import ClusterMetrics.Zone.Table.AmericaFirst
import ClusterMetrics.Zone.Table.AmericaSecond
import ClusterMetrics.Zone.Table.Asia
import ClusterMetrics.Zone.Table.Europe
import ClusterMetrics.Zone.Table.Links
import ClusterMetrics.Zone.Table.Oceans
import ClusterMetrics.Zone.Table.Placeless

/-! # The time zone database

Zones are filed under paths such as `Asia/Seoul`, whose parts are told apart by letter case. The
directories of the database are packages, one nested in another, and a zone is looked up as a file of a
package: the last part of a name is that of the file, and the parts before it lead to the package, where
a dot is as good as a slash. Beside zones and packages, every directory holds the file that makes it a
package, and a directory of cached files, which is a package without zones.

* **`histories`**, **`find?`**: the zones by path.
* **`Package.ofPath?`**: the package that parts of a name lead to. **`Package.file`**: a file in it.
* **`Lookup`**, **`find`**: what a name leads to. -/

namespace ClusterMetrics.Zone

/-! ## Paths -/

/-- The encoded histories of all zones, by name. -/
def histories : List (List (String × String)) :=
  [Table.africa, Table.americaFirst, Table.americaSecond, Table.asia, Table.europe, Table.oceans,
   Table.placeless]

/-- The encoded history filed under a name. -/
def history? (name : String) : Option String := histories.findSome? (List.lookup name ·)

/-- The **zone** of a path or of the path that it is an alternative for. -/
def find? (name : String) : Option Zone :=
  (history? ((Table.links.lookup name).getD name)).map Encoding.decode

/-- The path of parts. -/
def pathOf (parts : List (List Char)) : String := String.ofList (['/'].intercalate parts)

/-- The paths of the **directories** that zones are filed in, besides the database itself. -/
def directories : List String :=
  ["Africa", "America", "America/Argentina", "America/Indiana", "America/Kentucky",
   "America/North_Dakota", "Antarctica", "Arctic", "Asia", "Atlantic", "Australia", "Brazil", "Canada",
   "Chile", "Etc", "Europe", "Indian", "Mexico", "Pacific", "US"]

/-- Whether parts lead to a **directory** of zones. -/
def isDirectory (parts : List (List Char)) : Bool :=
  parts.isEmpty || directories.contains (pathOf parts)

/-! ## Lookup -/

/-- What a name **leads to**. -/
inductive Lookup
  | zone (z : Zone)
  /-- To no end: the lookup breaks off. -/
  | obstructed (obstacle : ZoneObstacle)
  | missing
  deriving DecidableEq, Repr

/-- The zone that a name leads to, if it does. -/
def Lookup.zone? : Lookup → Option Zone
  | zone z => some z
  | _ => none

theorem Lookup.zone?_eq_some_iff {found : Lookup} {z : Zone} :
    found.zone? = some z ↔ found = .zone z := by
  cases found <;> simp [zone?]

/-- A **package** of the database. -/
inductive Package
  /-- A directory of zones. -/
  | directory (parts : List (List Char))
  /-- The directory of cached files of a directory of zones. -/
  | cache
  deriving DecidableEq, Repr

/-- The name of the file that makes a directory a package, without its ending. -/
def initialFile : List Char := "__init__".toList

/-- The name of the directories of cached files. -/
def cacheDirectory : List Char := "__pycache__".toList

/-- The number of packages that can be **nested** in the database. Every package takes up a part of the
stack while the ones around it are imported, so there is room for fewer the more of the stack is in use;
this is the number for a stack that is not. -/
def nestingLimit : Nat := 246

/-- The number of packages that can be nested on a stack a fifth of which is in use. -/
def nestingFloor : Nat := 200

/-- The number of bytes that a **file name** takes. -/
def fileNameLimit : Nat := 255

namespace Package

/-- The package that parts **lead to**, or what the lookup ends with. -/
def ofPath? (parts : List (List Char)) : Except Lookup Package :=
  if nestingLimit < parts.length then .error (.obstructed .deepName)
  else if isDirectory parts then .ok (directory parts)
  else if isDirectory parts.dropLast then
    if parts.getLast? = some initialFile then .error (.obstructed .noPackage)
    else if parts.getLast? = some cacheDirectory then .ok cache
    else .error .missing
  else .error .missing

/-- What the name of a **file** in a package leads to. -/
def file (name : List Char) : Package → Lookup
  | package =>
    if name.contains '\x00' then .missing
    else if fileNameLimit < name.foldl (fun n c => n + c.utf8Size) 0 then .obstructed .longName
    else match package with
      | cache => .missing
      | directory parts =>
        if name = cacheDirectory ∨ isDirectory (parts ++ [name]) then .obstructed .directory
        else match find? (pathOf (parts ++ [name])) with
          | some z => .zone z
          | none => .missing

end Package

/-- Whether a part of a name is none of a plain path: empty, or a step to the same directory or out of
it. -/
def isImproper (part : List Char) : Bool := part == [] || part == ['.'] || part == ['.', '.']

/-- The parts of a name between slashes. -/
def partsOf (name : String) : List (List Char) := Encoding.splitOn '/' name.toList

/-- The parts of a name that lead to a package; dots separate them, too. -/
def packageParts (name : String) : List (List Char) :=
  (partsOf name).dropLast.flatMap (Encoding.splitOn '.')

/-- **Looks a name up.** -/
def find (name : String) : Lookup :=
  if (partsOf name).any isImproper then .missing
  else
    match Package.ofPath? (packageParts name) with
    | .error found => found
    | .ok package => package.file ((partsOf name).getLastD [])

/-- Whether it **does not depend on the stack** what a name leads to. -/
def IsSettled (name : String) : Prop :=
  (packageParts name).length ≤ nestingFloor ∨ nestingLimit < (packageParts name).length

end ClusterMetrics.Zone
