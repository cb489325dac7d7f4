import ClusterMetrics.Record.Validation

/-! # Server configuration

The configuration has seven settings, each with a default. A setting that is given is converted to
its type; settings of other names are ignored. -/

namespace ClusterMetrics

/-- The **configuration** of the server. -/
structure ServerConfig where
  host : String
  port : Int
  logLevel : String
  /-- The path in front of every route. -/
  basePath : String
  databaseUrl : String
  /-- Whether missing tables are created at the start. -/
  createTables : Bool
  /-- The bound on the time of a single store call, in seconds. -/
  queryTimeout : Float

namespace ServerConfig

/-- The configuration with every setting at its **default**. -/
def default : ServerConfig :=
  ⟨"0.0.0.0", 8080, "INFO", "/api/v1", "sqlite:///clusterscope.db", false, 30.0⟩

/-- Converts to a positive number. -/
def coercePositive (v : Value) : Except Issue Float := do
  let x ← coerceFloat v
  if x > 0.0 then return x else throw .greaterThan

/-- Reads a **configuration**. -/
def ofRow (row : Row) : Except Report ServerConfig := do
  let host := row.withDefault "host" default.host coerceText
  let port := row.withDefault "port" default.port coerceInt
  let logLevel := row.withDefault "log_level" default.logLevel coerceText
  let basePath := row.withDefault "api_prefix" default.basePath coerceText
  let databaseUrl := row.withDefault "database_url" default.databaseUrl coerceText
  let createTables := row.withDefault "create_tables" default.createTables coerceBool
  let queryTimeout :=
    row.withDefault "query_timeout_seconds" default.queryTimeout coercePositive
  Report.check (host.report ++ port.report ++ logLevel.report ++ basePath.report ++
    databaseUrl.report ++ createTables.report ++ queryTimeout.report)
  return ⟨← host.value, ← port.value, ← logLevel.value, ← basePath.value, ← databaseUrl.value,
    ← createTables.value, ← queryTimeout.value⟩

/-- The settings by name. -/
def toRow (config : ServerConfig) : Row :=
  [("host", .text config.host), ("port", .int config.port), ("log_level", .text config.logLevel),
   ("api_prefix", .text config.basePath), ("database_url", .text config.databaseUrl),
   ("create_tables", .bool config.createTables),
   ("query_timeout_seconds", .float config.queryTimeout)]

end ServerConfig

end ClusterMetrics
