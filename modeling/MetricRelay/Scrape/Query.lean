/-
The queries of a scrape: filters, aggregations and windows.

A metric type that is no text has neither a query with extra filters to be tested nor one with
aggregations.
-/
import MetricRelay.Monitoring.Query
import MetricRelay.Monitoring.Series
import MetricRelay.Settings.Basic
import MetricRelay.Text.Split

namespace MetricRelay.Scrape

open Monitoring Settings

/-- The filter for the descriptors of the metric types under a prefix. -/
def descriptorFilter (c : Collection) (stem : String) : String :=
  let query := "metric.type = starts_with(\"" ++ stem ++ "\")"
  if c.dropDelegated then "project = \"" ++ c.projectId ++ "\" AND " ++ query else query

/-- Those of some entries whose prefix fits a metric type. -/
def fitting {α : Type} (stem : α → String) (type : Json) (entries : List α) :
    Except Fault (List α) :=
  match type with
  | .text s => .ok (entries.filter fun e => Text.startsWith s (stem e))
  | _ => if entries.isEmpty then .ok [] else .error .notObject

/-- The filter for the time series of a metric type: extra filters whose prefix fits come last. -/
def seriesFilter (c : Collection) (type : Json) : Except Fault String := do
  let query := "metric.type=\"" ++ type.formatted ++ "\""
  let query := if c.dropDelegated then "project=\"" ++ c.projectId ++ "\" AND " ++ query else query
  .ok ((← fitting ExtraFilter.stem type c.extraFilters).foldl
    (fun query f => query ++ " AND (" ++ f.query ++ ")") query)

/-- The aggregation for a metric type: the first whose prefix fits. -/
def aggregationFor (c : Collection) (type : Json) : Except Fault (Option Aggregation) :=
  (fitting Aggregation.stem type c.aggregations).map List.head?

/-- An instant that has to exist. -/
def existing (t : Option Time.Instant) : Except Fault Time.Instant :=
  match t with
  | some t => .ok t
  | none => .error .tooLarge

/-- The window that ends an offset before now. -/
def window (c : Collection) (now : Time.Instant) : Except Fault Window := do
  let stop ← existing (now.sub? c.offset)
  let start ← existing (stop.sub? c.interval)
  .ok ⟨start, stop⟩

/-- The delay that counts for a descriptor. -/
def delay? (c : Collection) (d : Descriptor) : Option Json :=
  if c.ingestDelay then d.ingestDelay.bind Json.occupied else none

/-- The fault of a delay that is no duration; one that is too long is no fault of its form. -/
def delayFault (d : Descriptor) (delay : String) : Time.DurationFault → Fault
  | .span fault => .duration (.span fault)
  | fault => .ingestDelay d.type.formatted delay fault

/-- The window for a descriptor, moved back by the delay that counts. -/
def delayedWindow (c : Collection) (d : Descriptor) (w : Window) : Except Fault Window :=
  match delay? c d with
  | none => .ok w
  | some delay => do
    let delay ← delay.letters
    let span ← (Time.Duration.parse delay).mapError (delayFault d delay)
    let start ← existing (w.start.sub? span)
    let stop ← existing (w.stop.sub? span)
    .ok ⟨start, stop⟩

/-- The query for the first page of the descriptors under a prefix. -/
def descriptorQuery (c : Collection) (stem : String) : Query :=
  { project := c.projectId, filter := descriptorFilter c stem, subject := .descriptors stem }

/-- The query for the first page of the time series of a metric type. -/
def seriesQuery (c : Collection) (type : Json) (w : Window) : Except Fault Query := do
  let filter ← seriesFilter c type
  let aggregation ← aggregationFor c type
  .ok { project := c.projectId, filter, subject := .series type w aggregation }

end MetricRelay.Scrape
