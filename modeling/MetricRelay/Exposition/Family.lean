/-
Metric families as they are exposed: a name, a type, a help text and samples.
-/
import MetricRelay.Reading

namespace MetricRelay.Exposition

/-- The types that a family may have. -/
inductive FamilyType where
  | counter
  | gauge
  | summary
  | histogram
  | gaugeHistogram
  | unknown
  | info
  | stateSet
deriving DecidableEq, Repr

namespace FamilyType

/-- The word for a type. -/
def word : FamilyType → String
  | counter => "counter"
  | gauge => "gauge"
  | summary => "summary"
  | histogram => "histogram"
  | gaugeHistogram => "gaugehistogram"
  | unknown => "unknown"
  | info => "info"
  | stateSet => "stateset"

/-- All types. -/
def all : List FamilyType :=
  [counter, gauge, summary, histogram, gaugeHistogram, unknown, info, stateSet]

/-- The type of a word; `untyped` is another word for the unknown type. -/
def ofWord? (word : String) : Option FamilyType :=
  if word = "untyped" then some unknown else all.find? fun t => t.word == word

end FamilyType

/-- The value of a sample. -/
inductive SampleValue where
  | count (n : Int)
  | real (x : Float)

/-- A named value with labels; the time is in seconds. -/
structure Sample where
  name : String
  labels : Labels
  value : SampleValue
  time : Option Float

/-- Samples of one metric. -/
structure Family where
  name : String
  help : Json
  type : FamilyType
  samples : List Sample := []

end MetricRelay.Exposition
