/-
Names of metric families.

A metric type or resource type is turned into a name word by word: in each path segment everything
but letters and numbers becomes an underscore, the segment is put in lower case, and underscores
join the segments.  The full name puts the namespace, the resource type and the metric type
together.
-/
import MetricRelay.Text.Alphanumeric
import MetricRelay.Text.Case
import MetricRelay.Text.Split
import MetricRelay.Text.Surrogate

namespace MetricRelay.Intake

/-- A path segment as part of a name. -/
def normalizeWord (cs : List Char) : List Char :=
  Text.toLower ((Text.codes cs).map fun n => if Text.isAlphanumeric n then Char.ofNat n else '_')

/-- A path as a name. -/
def normalizeName (name : String) : String :=
  String.ofList (Text.join ['_'] ((Text.splitOn '/' name.toList).map normalizeWord))

/-- The name of the family for a resource type and a metric type; empty parts are left out. -/
def fullName (metricNamespace resourceType metricType : String) : String :=
  Text.joinStrings "_"
    ([metricNamespace, normalizeName resourceType, normalizeName metricType].filter fun part =>
      !part.isEmpty)

end MetricRelay.Intake
