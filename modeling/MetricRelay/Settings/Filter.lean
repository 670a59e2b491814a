/-
Settings for the metric types under a prefix: extra filters and aggregations.

Both have a short form in one text, with colons between the parts.
-/
import MetricRelay.Fault

namespace MetricRelay.Settings

/-- A condition added to the queries for the metric types under a prefix. -/
structure ExtraFilter where
  stem : String
  query : String
deriving DecidableEq, Repr

/-- How the service aggregates the metric types under a prefix. -/
structure Aggregation where
  stem : String
  alignmentPeriod : String := "60s"
  crossSeriesReducer : String := "REDUCE_NONE"
  groupByFields : List String := []
  perSeriesAligner : String := "ALIGN_NONE"
deriving DecidableEq, Repr

/-- A filter with its members named. -/
def ExtraFilter.toJson (f : ExtraFilter) : Json :=
  .object [("targeted_metric_prefix", .text f.stem), ("filter_query", .text f.query)]

/-- An aggregation with its members named. -/
def Aggregation.toJson (a : Aggregation) : Json :=
  .object [("targeted_metric_prefix", .text a.stem), ("alignment_period", .text a.alignmentPeriod),
    ("cross_series_reducer", .text a.crossSeriesReducer),
    ("group_by_fields", .list (a.groupByFields.map .text)),
    ("per_series_aligner", .text a.perSeriesAligner)]

/-- The filter that a text `prefix:query` writes; the query may hold colons. -/
def ExtraFilter.parse (s : String) : Except Fault ExtraFilter :=
  match Text.cut? ':' s.toList with
  | some (c :: stem, d :: query) => .ok ⟨String.ofList (c :: stem), String.ofList (d :: query)⟩
  | _ => .error (.filterForm s)

/-- The aggregation that a text of five parts writes; commas separate the fields of the fourth. -/
def Aggregation.parse (s : String) : Except Fault Aggregation :=
  match (Text.splitOn ':' s.toList).map String.ofList with
  | [stem, alignmentPeriod, crossSeriesReducer, fields, perSeriesAligner] =>
    let groupByFields :=
      ((Text.splitOn ',' fields.toList).filter fun f => !f.isEmpty).map String.ofList
    .ok { stem, alignmentPeriod, crossSeriesReducer, groupByFields, perSeriesAligner }
  | _ => .error (.aggregationForm s)

end MetricRelay.Settings
