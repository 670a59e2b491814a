/-
The exporter's own metrics.

Requests, scrapes and failed scrapes are counted; of the latest scrape the outcome, the time and the
duration are kept.
-/
import MetricRelay.Exposition.Family

namespace MetricRelay.Exposition

/-- What the exporter knows about its own work. -/
structure Meters where
  /-- The start of the names of the metrics. -/
  stem : String
  apiCalls : Nat := 0
  scrapes : Nat := 0
  scrapeErrors : Nat := 0
  lastFailed : Bool := false
  lastTime : Float := 0.0
  lastDuration : Float := 0.0

namespace Meters

/-- Meters that have counted nothing, in a namespace that bytes have to be able to write. -/
def start (metricNamespace : String) : Except Fault Meters :=
  if Text.isEncodable metricNamespace.toList then .ok { stem := metricNamespace ++ "_monitoring_" }
  else .error .unencodable

/-- A further request. -/
def recordCall (m : Meters) : Meters :=
  { m with apiCalls := m.apiCalls + 1 }

/-- A finished scrape. -/
def recordScrape (m : Meters) (failed : Bool) (time duration : Float) : Meters :=
  { m with
    scrapes := m.scrapes + 1
    scrapeErrors := if failed then m.scrapeErrors + 1 else m.scrapeErrors
    lastFailed := failed
    lastTime := time
    lastDuration := duration }

/-- The families of the exporter's own metrics, with the project as their label. -/
def families (m : Meters) (projectId : String) : List Family :=
  let labels : Labels := [(.ofText "project_id", .text projectId)]
  let counter (name help : String) (n : Nat) : Family :=
    { name := m.stem ++ name, help := .text help, type := .counter,
      samples := [⟨m.stem ++ name ++ "_total", labels, .real (Float.ofNat n), none⟩] }
  let gauge (name help : String) (x : Float) : Family :=
    { name := m.stem ++ name, help := .text help, type := .gauge,
      samples := [⟨m.stem ++ name, labels, .real x, none⟩] }
  [counter "scrape_errors"
      "Total number of Google Stackdriver Monitoring metrics scrape errors." m.scrapeErrors,
   counter "api_calls" "Total number of Google Stackdriver Monitoring API calls made." m.apiCalls,
   counter "scrapes" "Total number of Google Stackdriver Monitoring metrics scrapes." m.scrapes,
   gauge "last_scrape_error"
      ("Whether the last metrics scrape from Google Stackdriver Monitoring resulted "
        ++ "in an error (1 for error, 0 for success).")
      (if m.lastFailed then 1.0 else 0.0),
   gauge "last_scrape_timestamp"
      ("Number of seconds since 1970 since last metrics scrape from Google "
        ++ "Stackdriver Monitoring.")
      m.lastTime,
   gauge "last_scrape_duration_seconds"
      "Duration of the last metrics scrape from Google Stackdriver Monitoring." m.lastDuration]

end Meters

end MetricRelay.Exposition
