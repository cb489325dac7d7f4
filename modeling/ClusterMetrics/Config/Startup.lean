import ClusterMetrics.Config.Load

/-! # Starting up

A server starts from its configuration if the level of its log and its base path are of use. The level is
named in any case; a name of no level stands for the usual one.

* **`LogLevel`**: the number of a level. **`Startup`**: what a server starts with.
* **`ServerConfig.isMountable`**: whether routes can lie below the base path.
* **`ServerConfig.startup`**: the start of a server. -/

namespace ClusterMetrics

/-- Why a server **does not start**. -/
inductive StartFault
  | config (fault : ConfigFault)
  /-- The name of the log level stands for a text. -/
  | levelIsText
  /-- The name of the log level stands for a table. -/
  | levelIsTable
  /-- No routes can lie below the base path. -/
  | basePath
  deriving DecidableEq, Repr

/-- The **wording** of a fault. -/
def StartFault.message : StartFault → String
  | config fault => fault.message
  | levelIsText => "the log level is no level"
  | levelIsTable => "the log level is no level"
  | basePath => "the base path has to begin with a slash and not to end with one"

/-- The letters beyond ASCII whose capitals are ASCII. -/
def foreignCapitals : List (Char × String) :=
  [('\u00df', "SS"), ('\u0131', "I"), ('\u017f', "S"), ('\ufb00', "FF"), ('\ufb01', "FI"),
   ('\ufb02', "FL"), ('\ufb03', "FFI"), ('\ufb04', "FFL"), ('\ufb05', "ST"), ('\ufb06', "ST")]

/-- A character in capitals, as far as they are ASCII. -/
def asciiCapitals (c : Char) : List Char :=
  match foreignCapitals.lookup c with
  | some capitals => capitals.toList
  | none => [c.toUpper]

/-- The numbers of the **log levels**. -/
def levelNumbers : List (String × Int) :=
  [("CRITICAL", 50), ("FATAL", 50), ("ERROR", 40), ("WARNING", 30), ("WARN", 30), ("INFO", 20),
   ("DEBUG", 10), ("NOTSET", 0)]

/-- The number of the usual level. -/
def usualLevel : Int := 20

/-- The number of a **log level**. Two names are taken by the log itself. -/
def levelOf (name : String) : Except StartFault Int :=
  let capitals := String.ofList (name.toList.flatMap asciiCapitals)
  if capitals = "BASIC_FORMAT" then .error .levelIsText
  else if capitals = "_STYLES" then .error .levelIsTable
  else .ok ((levelNumbers.lookup capitals).getD usualLevel)

/-- Whether routes can lie **below the base path**: it is empty, or begins with a slash and does not end
with one. -/
def ServerConfig.isMountable (config : ServerConfig) : Bool :=
  config.basePath == "" || (config.basePath.startsWith "/" && !config.basePath.endsWith "/")

/-- What a server **starts with**. -/
structure Startup where
  host : String
  port : Int
  title : String
  version : String
  logLevel : Int
  deriving DecidableEq, Repr

/-- The start of a server by name. -/
def Startup.toRow (s : Startup) : Row :=
  [("host", .text s.host), ("port", .int s.port), ("title", .text s.title),
   ("version", .text s.version), ("log_level", .int s.logLevel)]

/-- The **start of a server**: its log comes first. -/
def ServerConfig.startup (config : ServerConfig) : Except StartFault Startup := do
  let level ← levelOf config.logLevel
  if !config.isMountable then throw .basePath
  return ⟨config.host, config.port, "clusterscope", "0.1.0", level⟩

/-- The start with the configuration that an entry holds. -/
def ConfigSource.startup (source : ConfigSource) (entry : Entry) : Except StartFault Startup := do
  let config ← (source.load entry).mapError .config
  config.startup

end ClusterMetrics
