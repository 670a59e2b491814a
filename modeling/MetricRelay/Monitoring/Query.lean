/-
Queries: what is asked of the monitoring service, one page at a time.
-/
import MetricRelay.Settings.Filter

namespace MetricRelay.Monitoring

/-- The time between two instants. -/
structure Window where
  start : Time.Instant
  stop : Time.Instant
deriving DecidableEq, Repr

/-- What a query asks for. -/
inductive Subject where
  /-- The descriptors of the metric types under a prefix. -/
  | descriptors (stem : String)
  /-- The time series of a metric type within a window. -/
  | series (type : Json) (window : Window) (aggregation : Option Settings.Aggregation)

/-- A query for one page; the token of the first page is empty. -/
structure Query where
  project : String
  filter : String
  subject : Subject
  token : Json := .text ""

namespace Query

/-- The same query for another page. -/
def forPage (q : Query) (token : Json) : Query :=
  { q with token }

end Query

end MetricRelay.Monitoring
