/-
A run of the program, from its arguments to its end.

`run` tells what happens in which order, given what the run meets: the configuration files, the
environment, whether the servers can be started, and what ends the control server.  A level that is
none, an address to which no request can go, and a namespace that bytes cannot write make it break
off.
-/
import MetricRelay.CommandLine
import MetricRelay.Exposition.Meters
import MetricRelay.Logging
import MetricRelay.Monitoring.Client
import MetricRelay.Settings.Load

namespace MetricRelay.Startup

open Settings

/-- What ends the control server. -/
inductive ControlEnd where
  | returns
  | fails (reason : String)
  | signal (number : Nat)
deriving DecidableEq, Repr

/-- What is found under a path. -/
inductive Place where
  | nothing
  | folder
  | file (config : Json)

/-- What a run meets. -/
structure Surroundings where
  place : String → Place
  environment : Environment := {}
  /-- Why the server that exposes the metrics cannot be started. -/
  exposureFault : Option String := none
  control : ControlEnd := .returns
  /-- The signal that ends a run without a control server. -/
  signal : Nat := 15

/-- A server that is started. -/
inductive Server where
  | metrics (address : String) (portNumber : Int)
  | control (address : String) (portNumber : Int)
deriving DecidableEq, Repr

/-- A run so far. -/
structure Run where
  /-- The exit code; nothing if the run ends by itself. -/
  exit : Option Nat := none
  servers : List Server := []
  /-- The intervals of the sweepers in seconds, and whether they were stopped. -/
  sweepers : List (Float × Bool) := []
  /-- How often the connection to the service was closed. -/
  closed : Nat := 0
  logs : List Logging.Record := []
  errorText : Option String := none

/-- The logger of the program. -/
def mainLogger : String := "gcm_exporter.main"

/-- The logger of the server that exposes the metrics. -/
def exposureLogger : String := "gcm_exporter.prom_exporter"

namespace Run

/-- The run after a record. -/
def log (r : Run) (logger : String) (level : Int) (message : String) : Run :=
  { r with logs := r.logs ++ [{ logger, level, message }] }

/-- The run after a record of the program. -/
def info (r : Run) (message : String) : Run :=
  r.log mainLogger 20 message

/-- The run after an error of the program. -/
def error (r : Run) (message : String) : Run :=
  r.log mainLogger 40 message

/-- The run after a server is started. -/
def start (r : Run) (s : Server) : Run :=
  { r with servers := r.servers ++ [s] }

/-- The end that a signal brings: sweepers are stopped and the connection is closed. -/
def onSignal (r : Run) (number : Nat) : Run :=
  let r := r.info ("Received signal " ++ toString number ++ ", shutting down...")
  { r with
    exit := some 0, closed := r.closed + 1
    sweepers := r.sweepers.map fun s => (s.1, true) }

end Run

/-- The line of equals signs around the title. -/
def rule : String := String.ofList (List.replicate 60 '=')

/-- The first records of a run. -/
def greeting (path : String) (s : Settings) : Run :=
  let c := s.collection
  (((({} : Run).info rule).info "Google Cloud Monitoring Exporter").info rule)
    |>.info ("Configuration loaded from: " ++ path)
    |>.info ("Project: " ++ c.projectId)
    |>.info ("Metric type prefixes: " ++ (Json.list (c.prefixes.map .text)).shown)
    |>.info ("Request interval: " ++ c.interval.clockText ++ ", offset: " ++ c.offset.clockText)

/-- Runs the control server, or waits for a signal if there is none. -/
def serveControl (around : Surroundings) (s : Settings) (r : Run) : Run :=
  if s.general.controlEnabled then
    let r := r.info ("Starting control API on port " ++ toString s.general.controlPortNumber)
    let r := r.start (.control "0.0.0.0" s.general.controlPortNumber)
    match around.control with
    | .returns => r
    | .fails reason =>
      { r.error ("Control API error: " ++ reason) with exit := some 1, closed := r.closed + 1 }
    | .signal number => r.onSignal number
  else r.onSignal around.signal

/-- Runs the servers of loaded settings. -/
def serve (around : Surroundings) (s : Settings) (r : Run) : Run :=
  let e := s.exposure
  let r := r.start (.metrics e.bindAddress e.portNumber)
  match around.exposureFault with
  | some reason =>
    let r := r.log exposureLogger 40 ("Failed to start Prometheus HTTP server: " ++ reason)
    { r.error ("Failed to initialize exporter: " ++ reason) with exit := some 1 }
  | none =>
    let r := r.log exposureLogger 20
      ("Prometheus exporter listening on " ++ e.bindAddress ++ ":" ++ toString e.portNumber
        ++ "/metrics")
    let r := r.log exposureLogger 20 "Registered collector MonitoringCollector"
    let r := if s.collection.aggregateDeltas then
        { r with sweepers := r.sweepers ++ [(s.collection.sweepInterval.seconds, false)] }
      else r
    serveControl around s r

/-- The settings in a file. -/
def loadFile (around : Surroundings) (path : String) : Except LoadFault Settings :=
  match around.place path with
  | .nothing => .error (.noFile path)
  | .folder => .error (.folder path)
  | .file config => load around.environment config

/-- Why a run breaks off. -/
inductive Breakdown where
  | level (fault : Logging.LevelFault)
  /-- No request can go to the configured address, or no metrics can be named. -/
  | start (fault : Fault)

/-- A run of loaded settings with the records that the configured level lets through. -/
def runLoaded (around : Surroundings) (path : String) (s : Settings) : Except Breakdown Run := do
  let level ← (Logging.level? s.general.logLevel).mapError .level
  let _ ← (Monitoring.baseAddress s.api).mapError .start
  let _ ← (Exposition.Meters.start s.exposure.metricNamespace).mapError .start
  let r := serve around s (greeting path s)
  .ok { r with logs := r.logs.filter fun l => level ≤ l.level }

/-- A run that ends because the settings cannot be loaded. -/
def refused (fault : LoadFault) : Run :=
  { exit := some 1, errorText := some ("Error loading configuration: " ++ fault.message) }

/-- A run. -/
def run (around : Surroundings) (args : List String) : Except Breakdown Run :=
  match CommandLine.parse args with
  | .help => .ok { exit := some 0 }
  | .usage => .ok { exit := some 2 }
  | .config none => .ok (refused .noPath)
  | .config (some path) =>
    match loadFile around path with
    | .error fault => .ok (refused fault)
    | .ok s => runLoaded around path s

end MetricRelay.Startup
