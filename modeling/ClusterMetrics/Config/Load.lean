import ClusterMetrics.Config.Server
import ClusterMetrics.Record.Shape
import ClusterMetrics.Yaml.Document

/-! # Loading the configuration

The configuration is read from a file: the one that is named, or else the one that the environment
names, or else `config.yaml`. A file that is named has to be there; without any other the defaults hold.
The file holds a mapping of settings, and a file without data holds none.

* **`Entry`**: what a path leads to. **`Folder.entry`**: the same in a folder of files.
* **`ServerConfig.parse`**: the configuration of a text. **`ConfigSource`**: where to look for it.
* **`ConfigSource.load`**: the configuration that is found. -/

namespace ClusterMetrics

open ClusterMetrics.Yaml (Datum)

/-- Why there is **no configuration**. -/
inductive ConfigFault
  /-- The file that was named is not there. -/
  | missing (path : String)
  | isDirectory
  /-- The path goes on behind a file. -/
  | notDirectory
  | document (fault : Yaml.Fault)
  /-- The file holds data that is no mapping from texts. -/
  | notSettings
  | invalid (report : Report)
  deriving DecidableEq, Repr

/-- The **wording** of a fault. -/
def ConfigFault.message : ConfigFault → String
  | missing path => "config file not found: " ++ path
  | isDirectory => "config file is a directory"
  | notDirectory => "config path goes on behind a file"
  | document _ => "config file is no document"
  | notSettings => "config file holds no settings"
  | invalid report => "invalid settings: " ++ commaSeparated (report.map (·.1))

/-! ## Files -/

/-- What a **path leads to**. -/
inductive Entry
  | file (text : String)
  /-- A file, but the path goes on behind it. -/
  | behindFile
  | directory
  | absent
  deriving DecidableEq, Repr

/-- A **folder** of files by their paths in it. -/
abbrev Folder := List (String × String)

/-- The parts of a path that lead somewhere. -/
def pathParts (path : String) : List String :=
  ((path.splitOn "/").filter fun part => part != "" && part != ".")

/-- Whether a path asks for a directory. -/
def asksDirectory (path : String) : Bool :=
  match (path.splitOn "/").getLast? with
  | some last => last == "" || last == "."
  | none => false

/-- The path of parts. -/
def joinParts (parts : List String) : String := String.intercalate "/" parts

/-- What parts of a path lead to from a place in the folder. Nothing is known outside of it. -/
def Folder.entryFrom (folder : Folder) (place : List String) : List String → Entry
  | [] => .directory
  | part :: rest =>
    if part = ".." then
      if place.isEmpty then if rest.isEmpty then .directory else .absent
      else folder.entryFrom place.dropLast rest
    else
      let here := place ++ [part]
      match folder.lookup (joinParts here) with
      | some text => if rest.isEmpty then .file text else .absent
      | none =>
        if folder.any fun f => (joinParts here ++ "/").isPrefixOf f.1 then
          folder.entryFrom here rest
        else .absent

/-- What a path leads to **in a folder**. -/
def Folder.entry (folder : Folder) (path : String) : Entry :=
  let parts := pathParts path
  if path.startsWith "/" then if parts.isEmpty then .directory else .absent
  else
    match folder.entryFrom [] parts with
    | .file text => if asksDirectory path then .behindFile else .file text
    | entry => entry

/-! ## Settings -/

/-- A text whose lines all end with a line feed. -/
def unifyLines : List Char → List Char
  | [] => []
  | '\r' :: '\n' :: rest => '\n' :: unifyLines rest
  | c :: rest => (if c = '\r' then '\n' else c) :: unifyLines rest

mutual

/-- The value of a datum; entries whose keys are no texts are left out. -/
def datumValue : Datum → Value
  | .scalar v => v
  | .list items => .list (datumValues items)
  | .mapping entries => .dict (datumEntries entries)

/-- The values of data. -/
def datumValues : List Datum → List Value
  | [] => []
  | datum :: rest => datumValue datum :: datumValues rest

/-- The entries whose keys are texts. -/
def datumEntries : List (Datum × Datum) → Row
  | [] => []
  | (key, datum) :: rest =>
    match key with
    | .scalar (.text name) => (name, datumValue datum) :: datumEntries rest
    | _ => datumEntries rest

end

/-- Whether a datum holds nothing. -/
def isBlankDatum : Datum → Bool
  | .scalar v => v.isEmptyLike
  | .list items => items.isEmpty
  | .mapping entries => entries.isEmpty

/-- The settings of a mapping from texts. -/
def settings? : List (Datum × Datum) → Option Row
  | [] => some []
  | (.scalar (.text key), datum) :: rest => (settings? rest).map ((key, datumValue datum) :: ·)
  | _ => none

/-- The **configuration of a text**. -/
def ServerConfig.parse (text : String) : Except ConfigFault ServerConfig := do
  let datum ← (Yaml.read? (unifyLines text.toList)).mapError .document
  let row ← match datum with
    | none => pure []
    | some datum =>
      if isBlankDatum datum then pure []
      else
        match datum with
        | .mapping entries =>
          match settings? entries with
          | some row => pure row
          | none => throw .notSettings
        | _ => throw .notSettings
  (ServerConfig.ofRow row).mapError .invalid

/-! ## Sources -/

/-- **Where to look** for the configuration: the path that was named, and the one that the environment
names. -/
structure ConfigSource where
  named : Option String
  environment : Option String

namespace ConfigSource

/-- A text that is not empty. -/
def given? (text : Option String) : Option String := text.filter (· != "")

/-- The path that is looked at. -/
def path (source : ConfigSource) : String :=
  ((given? source.named).or (given? source.environment)).getD "config.yaml"

/-- The configuration, if the path leads to an entry. -/
def load (source : ConfigSource) : Entry → Except ConfigFault ServerConfig
  | .file text => ServerConfig.parse text
  | .behindFile => .error .notDirectory
  | .directory => .error .isDirectory
  | .absent =>
    match given? source.named with
    | some path => .error (.missing path)
    | none => .ok .default

end ConfigSource

end ClusterMetrics
