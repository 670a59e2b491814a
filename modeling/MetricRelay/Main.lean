/-
The program: arguments, environment and the configuration file in, log lines and an exit code out.
-/
import MetricRelay.Json.Reader
import MetricRelay.Startup

namespace MetricRelay.Program

/-- A variable of the environment, empty if it is unset. -/
def environmentVariable (name : String) : IO String :=
  return (← IO.getEnv name).getD ""

/-- The configuration in a file, if the file can be read. -/
def readConfiguration (path : String) : IO Startup.Place := do
  try
    let text ← IO.FS.readFile path
    return .file ((Json.read (Text.ofChars text.toList)).toOption.getD .null)
  catch _ => return .nothing

/-- Runs the program. -/
def run (args : List String) : IO UInt32 := do
  let environment : Settings.Environment :=
    { projectId := ← environmentVariable "GCM_PROJECT_ID"
      accessToken := ← environmentVariable "GCM_ACCESS_TOKEN"
      logLevel := ← environmentVariable "LOG_LEVEL" }
  let config ← match CommandLine.parse args with
    | .config (some path) => readConfiguration path
    | _ => pure .nothing
  match Startup.run { place := fun _ => config, environment } args with
  | .error (.level _) => failure "The log level is none."
  | .error (.start _) => failure "No request can go to the service, or no metric can have its name."
  | .ok r =>
    for record in r.logs do
      if let .ok line := record.textLine then
        IO.println line
    if let some text := r.errorText then
      IO.eprintln text
    return (r.exit.getD 0).toUInt32
where
  failure (text : String) : IO UInt32 := do
    IO.eprintln text
    return 1

end MetricRelay.Program

def main (args : List String) : IO UInt32 :=
  MetricRelay.Program.run args
