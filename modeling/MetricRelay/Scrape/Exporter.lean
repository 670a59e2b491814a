/-
The exporter between scrapes: running totals, cached descriptors, its own metrics and the outcome of
the latest scrape.
-/
import MetricRelay.Scrape.Listing

namespace MetricRelay.Scrape

open Exposition Monitoring Intake

/-- The outcome of the latest scrape. -/
structure LastScrape where
  /-- Seconds since the start of 1970 at its end. -/
  time : Option Float := none
  duration : Option Float := none
  fault : Option Fault := none
  samples : Nat := 0

/-- An exporter. -/
structure Exporter where
  plan : Plan
  totals : Totals
  cache : DescriptorCache
  meters : Meters
  lastScrape : LastScrape := {}

/-- What one collection yields. -/
structure Collected where
  /-- The families of the readings. -/
  families : List Family
  /-- The families of the exporter's own metrics. -/
  meters : List Family
  fault : Option Fault
  /-- The queries that were made, the first one first. -/
  asked : List Query

namespace Exporter

/-- An exporter that has not scraped yet. -/
def start (c : Settings.Collection) (metricNamespace : String) : Except Fault Exporter :=
  (Meters.start metricNamespace).map fun meters =>
    { plan := { collection := c, metricNamespace }
      totals := ⟨{ ttl := c.deltaTtl.seconds }, { ttl := c.deltaTtl.seconds }⟩
      cache := .empty c.cacheTtl.seconds c.cacheOnlyOfficial
      meters }

/-- The state in which a scrape begins. -/
def work (e : Exporter) : Work :=
  { meters := e.meters, totals := e.totals, cache := e.cache }

/-- One collection: a scrape, whatever its outcome, and a record of it. -/
def collect (e : Exporter) (src : Source) : Collected × Exporter :=
  let begun := src.wall []
  let (fault, w) := run src e.plan e.work
  let finished := src.wall w.asked
  let meters := w.meters.recordScrape fault.isSome finished (finished - begun)
  let last : LastScrape :=
    { time := some finished, duration := some (finished - begun), fault, samples := w.sink.size }
  ({ families := w.sink.families
     meters := meters.families e.plan.collection.projectId
     fault, asked := w.asked.reverse },
   { e with totals := w.totals, cache := w.cache, meters, lastScrape := last })

/-- Evicts stale running totals: the count of evicted ones, and the exporter. -/
def sweep (e : Exporter) (now : Float) : Nat × Exporter :=
  let (counters, cs) := e.totals.counters.evict now
  let (histograms, hs) := e.totals.histograms.evict now
  (counters + histograms, { e with totals := ⟨cs, hs⟩ })

end Exporter

end MetricRelay.Scrape
