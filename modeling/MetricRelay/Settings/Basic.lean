/-
The settings of the exporter.
-/
import MetricRelay.Settings.Filter
import MetricRelay.Time.Span

namespace MetricRelay.Settings

/-- The form of log lines. -/
inductive LogFormat where
  | json
  | text
deriving DecidableEq, Repr

/-- Settings of the process. -/
structure General where
  logLevel : String := "INFO"
  logFormat : LogFormat := .text
  controlEnabled : Bool := true
  controlPortNumber : Int := 8081
deriving DecidableEq, Repr

/-- Settings of the server that exposes the metrics. -/
structure Exposure where
  portNumber : Int := 9255
  bindAddress : String := "0.0.0.0"
  metricNamespace : String := "stackdriver"
deriving DecidableEq, Repr

/-- Settings of the requests to the monitoring service. -/
structure Api where
  baseUrl : String := "https://monitoring.googleapis.com/v3"
  /-- Seconds to wait for an answer. -/
  timeout : Float := 30.0
  pageSize : Option Int := none
  accessToken : Option String := none

/-- What is collected and what becomes of it. -/
structure Collection where
  projectId : String := ""
  /-- Prefixes of metric types; none starts with another. -/
  prefixes : List String := []
  extraFilters : List ExtraFilter := []
  aggregations : List Aggregation := []
  /-- The length of the time queried for. -/
  interval : Time.Span := ⟨300000000⟩
  /-- How far back the time queried for ends. -/
  offset : Time.Span := ⟨0⟩
  /-- Move the time queried for back by the delay that a metric type declares. -/
  ingestDelay : Bool := false
  fillMissingLabels : Bool := true
  dropDelegated : Bool := false
  aggregateDeltas : Bool := false
  deltaTtl : Time.Span := ⟨1800000000⟩
  sweepInterval : Time.Span := ⟨60000000⟩
  cacheTtl : Time.Span := ⟨0⟩
  cacheOnlyOfficial : Bool := true
deriving DecidableEq, Repr

end MetricRelay.Settings

namespace MetricRelay

/-- All settings. -/
structure Settings where
  general : Settings.General
  exposure : Settings.Exposure
  api : Settings.Api
  collection : Settings.Collection

end MetricRelay
