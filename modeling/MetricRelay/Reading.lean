/-
Readings: values of metrics on their way to the exposition.

A scalar reading has one value, a histogram reading a count, a sum and cumulative buckets.  Readings
with one label key share a running total; the key is made of the name and the labels sorted by name.
Help and label values are kept as the service gives them; texts are expected.
-/
import MetricRelay.Histogram.Merge
import MetricRelay.Label

namespace MetricRelay

/-- How the values of a metric develop. -/
inductive ValueKind where
  | gauge
  | counter
  | other (word : String)
deriving DecidableEq, Repr

namespace ValueKind

/-- The word for a kind. -/
def word : ValueKind → String
  | gauge => "gauge"
  | counter => "counter"
  | other word => word

/-- The kind of a word. -/
def ofWord (word : String) : ValueKind :=
  if word = "gauge" then gauge else if word = "counter" then counter else other word

end ValueKind

/-- What all readings have. -/
structure Heading where
  name : String
  help : Json
  kind : ValueKind
  labels : Labels
  time : Time.Instant

/-- A reading of one value. -/
structure Scalar extends Heading where
  value : Float

/-- A reading of a distribution. -/
structure HistogramReading extends Heading where
  count : Int
  sum : Float
  buckets : Histogram.Buckets

/-- The name and the sorted labels as one text. -/
def Heading.labelKey (h : Heading) : String :=
  h.name ++ "|" ++ Text.joinStrings ","
    ((Labels.sorted h.labels).map fun l => l.1.written.formatted ++ "=" ++ l.2.formatted)

/-- The heading, if its label key can be made. -/
def Heading.sortable (h : Heading) : Except Fault Heading :=
  if Labels.areSortable h.labels then .ok h else .error .wrongType

/-- The running total of two scalar readings: the newer one with the sum of the values. -/
def Scalar.merge (older newer : Scalar) : Scalar :=
  { newer with value := newer.value + older.value }

/-- The running total of two histogram readings: the newer one with the sums of counts, sums and
buckets. -/
def HistogramReading.merge (older newer : HistogramReading) : HistogramReading :=
  { newer with
    count := older.count + newer.count
    sum := older.sum + newer.sum
    buckets := Histogram.merge older.buckets newer.buckets }

end MetricRelay
