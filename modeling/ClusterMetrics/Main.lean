import ClusterMetrics.CommandLine
import ClusterMetrics.Config.Startup
import ClusterMetrics.Json.Writer

/-! # The program

The program reads its command line and its configuration, and prints what a server would start with. -/

namespace ClusterMetrics

/-- What a path leads to on disk. -/
def readEntry (path : String) : IO Entry := do
  try
    return .file (← IO.FS.readFile path)
  catch e =>
    match e with
    | .noFileOrDirectory _ _ _ => return .absent
    | _ => return .directory

/-- Starts with the configuration of a path. -/
def runWith (config : Option String) : IO UInt32 := do
  let source : ConfigSource := ⟨config, ← IO.getEnv "CLUSTERSCOPE_CONFIG"⟩
  match source.startup (← readEntry source.path) with
  | .ok startup =>
    IO.println (Json.render (.dict startup.toRow))
    return 0
  | .error fault =>
    IO.eprintln fault.message
    return 1

/-- Runs a command line. -/
def runCommand : CommandLine → IO UInt32
  | .help => do
    CommandLine.usage.forM IO.println
    return 0
  | .run config => runWith config
  | .refused => do
    CommandLine.usage.head?.forM IO.eprintln
    return 2

end ClusterMetrics

/-- The program. -/
def main (args : List String) : IO UInt32 :=
  ClusterMetrics.runCommand (ClusterMetrics.CommandLine.parse args)
