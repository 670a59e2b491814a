/-
What can go wrong between an answer and the exposition.

Every fault is a cause; `Fault.message?` gives the wording of those that have one of their own.
-/
import MetricRelay.Json.Printer
import MetricRelay.Time.Duration
import MetricRelay.Time.Timestamp
import MetricRelay.Web.Domain.Label

namespace MetricRelay

/-- How a request of the monitoring service failed. -/
inductive ApiProblem where
  /-- The service answered with a status that is no success. -/
  | refused (status : Int) (body : String)
  /-- No answer came. -/
  | unreachable (reason : String)
  /-- The answer's body is no JSON. -/
  | notJson
deriving DecidableEq, Repr

/-- Why something could not be decoded, turned into a reading or exposed. -/
inductive Fault where
  /-- A text that should write a number does not. -/
  | notNumber
  /-- A number, text or list is needed and something else stands there. -/
  | wrongType
  /-- An object is needed and something else stands there. -/
  | notObject
  /-- A number is too large for its type. -/
  | tooLarge
  /-- A text is no JSON. -/
  | notJson
  /-- A JSON text opens too many lists and objects at one place. -/
  | tooDeep
  /-- No metric family can have the name or the type. -/
  | badFamily
  /-- A value, such as the end of a point, is no timestamp. -/
  | timestamp (value : Json) (fault : Time.TimestampFault)
  | duration (fault : Time.DurationFault)
  /-- The ingest delay that a metric type declares is no duration. -/
  | ingestDelay (type delay : String) (fault : Time.DurationFault)
  | unknownBuckets
  /-- A layout has more buckets than can be counted. -/
  | tooManyBuckets
  /-- A layout has more buckets than there is room for. -/
  | noRoom
  | labelsNotObject (raw : String)
  | labelNotText (key : String) (value : Json)
  | filterForm (text : String)
  | aggregationForm (text : String)
  | api (path : String) (problem : ApiProblem)
  /-- No request can go to the address. -/
  | badAddress
  /-- The host of an address stands for no name. -/
  | badName (fault : Web.Domain.NameFault)
  /-- A surrogate without its partner cannot be written as bytes. -/
  | unencodable
  /-- There are more pages than are followed. -/
  | endless
  /-- A source of pages breaks down by itself; the word tells how. -/
  | breakdown (word : String)
deriving Inhabited

namespace Fault

/-- The wording of a failed request. -/
def apiMessage (path : String) : ApiProblem → String
  | .refused status body =>
    "Monitoring API request " ++ path ++ " failed: " ++ toString status ++ " " ++ body
  | .unreachable reason => "Monitoring API request " ++ path ++ " failed: " ++ reason
  | .notJson => "Monitoring API returned invalid JSON for " ++ path

/-- The wording of a refused timestamp; one whose instant does not exist has none. -/
def timestampMessage? (value : Json) : Time.TimestampFault → Option String
  | .outOfRange => none
  | fault =>
    let detail := (fault.detail?.map (": " ++ ·)).getD ""
    some ("invalid RFC 3339 timestamp " ++ value.shown ++ detail)

/-- The message of a fault that has one of its own. -/
def message? : Fault → Option String
  | notNumber | wrongType | notObject | tooLarge | notJson | tooDeep | badFamily | tooManyBuckets
  | noRoom | badAddress | badName _ | unencodable | endless | breakdown _ => none
  | timestamp value fault => timestampMessage? value fault
  | duration fault => fault.message?
  | ingestDelay type delay fault =>
    fault.message?.map fun m => "invalid ingest delay " ++ Text.quoted delay ++ " for " ++ type
      ++ ": " ++ m
  | unknownBuckets => some "Unknown distribution buckets"
  | labelsNotObject raw => some ("system labels are not a JSON object: " ++ raw)
  | labelNotText key value =>
    some ("system label " ++ Text.quoted key ++ " is not a string: " ++ value.shown)
  | filterForm text => some ("Extra filter must be 'prefix:query', got " ++ Text.quoted text)
  | aggregationForm text =>
    some ("Aggregation must be 'prefix:alignment_period:cross_series_reducer:"
      ++ "group_by_fields:per_series_aligner', got " ++ Text.quoted text)
  | api path problem => some (apiMessage path problem)

end Fault

end MetricRelay
