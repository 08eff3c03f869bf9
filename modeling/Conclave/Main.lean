import Conclave.Json.Writer
import Conclave.Startup

namespace Conclave.Startup

def variableNames : List String :=
  ["LISTEN_ADDR", "NOTIFIER_URL", "SELECTION_POLICY", "DISPATCH_TIMEOUT_SECS",
    "RESULT_TIMEOUT_SECS", "DEFAULT_TOTAL_NODES", "DEFAULT_THRESHOLD", "ENABLE_HEALTH_CHECKS",
    "NODE_ENDPOINTS"]

def Level.name : Level → String
  | .info => "INFO"
  | .warn => "WARN"

def LogLine.json (l : LogLine) : Json :=
  .object [("level", .string l.level.name), ("fields", .object [("message", .string l.text)]),
    ("target", .string "threshold_coordinator")]

def readVariable (name : String) : IO (Option (String × String)) := do
  return (← IO.getEnv name).map fun value => (name, value)

end Conclave.Startup

open Conclave in
def main : IO UInt32 := do
  let env ← Startup.variableNames.filterMapM Startup.readVariable
  let now := Timestamp.ofNanoseconds (← IO.monoNanosNow)
  let (lines, result) := Startup.run now env
  for line in lines do
    IO.println line.json.write
  match result with
  | .ok _ => return 0
  | .error e =>
      IO.eprintln ("Error: " ++ e.message)
      return 1
