/-
Time series: labelled points of a metric type, and the pages on which they come.

* `newest` — the point of a series that becomes a reading.
-/
import MetricRelay.Label
import MetricRelay.Monitoring.Descriptor
import MetricRelay.Monitoring.Distribution

namespace MetricRelay.Monitoring

/-- The value of a point, by the types in which it may come. -/
structure TypedValue where
  bool : Option Bool := none
  int64 : Option Int := none
  double : Option Float := none
  distribution : Option Distribution := none

/-- A value over an interval of time; the interval's ends are kept as they came. -/
structure Point where
  start : Json
  stop : Json
  value : TypedValue

/-- The points of one metric type and one set of labels; its members are kept as they come. -/
structure Series where
  metricType : Json
  resourceType : Json
  kind : Json
  valueType : Json
  metricLabels : Labels := []
  resourceLabels : Labels := []
  /-- The system labels as JSON text. -/
  systemLabels : Option String := none
  points : List Point := []
  unit : Json := .text ""

/-- A page of descriptors with the token of the next page. -/
structure DescriptorPage where
  descriptors : List Descriptor
  nextToken : Json

/-- A page of time series with the token of the next page. -/
structure SeriesPage where
  series : List Series
  nextToken : Json

/-- The value of the service's JSON. -/
def TypedValue.ofJson (v : Json) : Except Fault TypedValue := do
  let bool := (← v.under "boolValue").map fun b => !b.isVacant
  let int64 ← (← v.under "int64Value").mapM Json.asInt
  let double ← (← v.under "doubleValue").mapM Json.asFloat
  let distribution ← (← v.under "distributionValue").mapM Distribution.ofJson
  .ok { bool, int64, double, distribution }

/-- The point of the service's JSON. -/
def Point.ofJson (v : Json) : Except Fault Point := do
  let ms ← v.members
  let interval ← Json.optionalMembers (Json.member? ms "interval")
  let value ← TypedValue.ofJson (Json.orEmpty (Json.member? ms "value"))
  .ok
    { start := (Json.member? interval "startTime").getD .null
      stop := Json.orText interval "endTime" ""
      value }

/-- System labels are kept as a text, whatever they are; null counts as absent. -/
def systemLabelsOfJson : Option Json → Option String
  | none | some .null => none
  | some v => some v.render

/-- The series of the service's JSON. -/
def Series.ofJson (v : Json) : Except Fault Series := do
  let ms ← v.members
  let metadata ← Json.optionalMembers (Json.member? ms "metadata")
  let systemLabels := systemLabelsOfJson (Json.member? metadata "systemLabels")
  let metric ← Json.optionalMembers (Json.member? ms "metric")
  let metricLabels ← Labels.ofJson (Json.member? metric "labels")
  let resource ← Json.optionalMembers (Json.member? ms "resource")
  let resourceLabels ← Labels.ofJson (Json.member? resource "labels")
  let points ← (← Json.itemsOf ms "points").mapM Point.ofJson
  .ok
    { metricType := Json.orText metric "type" ""
      resourceType := Json.orText resource "type" ""
      kind := Json.orText ms "metricKind" "METRIC_KIND_UNSPECIFIED"
      valueType := Json.orText ms "valueType" "VALUE_TYPE_UNSPECIFIED"
      metricLabels, resourceLabels, systemLabels, points
      unit := Json.orText ms "unit" "" }

/-- The token that asks for a further page, if there is one. -/
def following? (token : Json) : Option Json :=
  token.occupied

/-- The page of descriptors of an answer's body. -/
def DescriptorPage.ofJson (v : Json) : Except Fault DescriptorPage := do
  let ms ← v.members
  let descriptors ← (← Json.itemsOf ms "metricDescriptors").mapM Descriptor.ofJson
  .ok { descriptors, nextToken := Json.orText ms "nextPageToken" "" }

/-- The page of time series of an answer's body. -/
def SeriesPage.ofJson (v : Json) : Except Fault SeriesPage := do
  let ms ← v.members
  let series ← (← Json.itemsOf ms "timeSeries").mapM Series.ofJson
  .ok { series, nextToken := Json.orText ms "nextPageToken" "" }

/-- The latest of points that end after a given instant, the first one of several, together with its
place among them and its end.  Every point has to end at a timestamp. -/
def newestAfter (best : Option (Nat × Point)) (latest : Time.Instant) (place : Nat) :
    List Point → Except Fault (Option (Nat × Point) × Time.Instant)
  | [] => .ok (best, latest)
  | p :: ps => do
    let stop ← p.stop.asInstant
    if latest.micros < stop.micros then newestAfter (some (place, p)) stop (place + 1) ps
    else newestAfter best latest (place + 1) ps

/-- The newest point of a series with its place and its end: the latest one that ends after the
start of 1970, the first of several. -/
def newest (points : List Point) : Except Fault (Option (Nat × Point) × Time.Instant) :=
  newestAfter none .epoch 0 points

end MetricRelay.Monitoring
