/-
Where the pages and the times of a scrape come from.

A source answers a query depending on the queries made before it in the same scrape, and its clocks
stand where those queries have moved them.  The state of a scrape holds the queries made so far
together with everything that the scrape changes.
-/
import MetricRelay.DescriptorCache
import MetricRelay.Exposition.Meters
import MetricRelay.Exposition.Sink
import MetricRelay.Scrape.Query

namespace MetricRelay.Scrape

open Monitoring Intake Exposition

/-- The queries made so far, the latest first. -/
abbrev History := List Query

/-- A service with its clocks, as functions of the queries made so far. -/
structure Source where
  descriptors : History → Query → Except Fault DescriptorPage
  series : History → Query → Except Fault SeriesPage
  /-- Seconds on the clock of the running totals and the cache. -/
  clock : History → Float
  /-- The time from which windows are counted back. -/
  now : History → Except Fault Time.Instant
  /-- Seconds since the start of 1970. -/
  wall : History → Float
  /-- The most pages that are followed in one listing. -/
  limit : Nat := 1000000

/-- What does not change during a scrape. -/
structure Plan where
  collection : Settings.Collection
  metricNamespace : String
  /-- The most bounds of a histogram for which there is room. -/
  room : Nat := Histogram.defaultRoom

/-- What a scrape changes. -/
structure Work where
  asked : History := []
  meters : Meters
  totals : Totals
  cache : DescriptorCache
  sink : Sink := []

/-- The state after a further query, which is counted whether it is answered or not. -/
def Work.ask (w : Work) (q : Query) : Work :=
  { w with asked := q :: w.asked, meters := w.meters.recordCall }

/-- How the series of a plan become readings. -/
def Plan.options (p : Plan) : Options where
  projectId := p.collection.projectId
  metricNamespace := p.metricNamespace
  fillMissingLabels := p.collection.fillMissingLabels
  dropDelegated := p.collection.dropDelegated
  aggregateDeltas := p.collection.aggregateDeltas
  room := p.room

end MetricRelay.Scrape
