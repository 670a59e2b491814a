/-
The minimal cover of a list of metric type prefixes.

A prefix that starts with another one asks for nothing new.  In sorted order it stands after it with
only other such prefixes between, so one comparison with the last prefix kept is enough.
-/
import MetricRelay.Text.Split
import MetricRelay.Text.Surrogate

namespace MetricRelay.Settings

/-- Sorted prefixes without those that start with the last one kept. -/
def dropCovered (last : Option String) : List String → List String
  | [] => []
  | p :: ps =>
    if last.any (Text.startsWith p) then dropCovered last ps else p :: dropCovered (some p) ps

/-- The prefixes, sorted, that start with no other one, each once. -/
def minimalPrefixes (ps : List String) : List String :=
  dropCovered none (ps.mergeSort Text.precedes)

end MetricRelay.Settings
