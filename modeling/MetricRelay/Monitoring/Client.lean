/-
Requests to the monitoring service and the pages in its answers.

A query becomes a request below the service's address, with its parameters in a fixed order.  An
answer counts if its status is a success; its body has to be JSON, and then the page is decoded from
it.
-/
import MetricRelay.Json.Bytes
import MetricRelay.Monitoring.Query
import MetricRelay.Monitoring.Series
import MetricRelay.Settings.Basic
import MetricRelay.Text.Base64
import MetricRelay.Web.Address

namespace MetricRelay.Monitoring

/-- A request as it is sent. -/
structure Request where
  host : String
  path : String
  params : List (String × String)
  accept : String := "application/json"
  authorization : Option String
  /-- Whether the written address can be taken apart again; otherwise no answer counts. -/
  isReadable : Bool := true
deriving DecidableEq, Repr

/-- What comes back from a request. -/
inductive Reply where
  | answer (status : Int) (body : String)
  /-- No answer came. -/
  | failure (reason : String)
deriving DecidableEq, Repr

/-- The path of a query below the service's address. -/
def Query.path (q : Query) : String :=
  "/projects/" ++ q.project ++
    match q.subject with
    | .descriptors _ => "/metricDescriptors"
    | .series .. => "/timeSeries"

/-- The parameters that tell the subject of a query. -/
def Subject.params : Subject → List (String × String)
  | .descriptors _ => []
  | .series _ window aggregation =>
    [("interval.startTime", Time.Timestamp.format window.start),
     ("interval.endTime", Time.Timestamp.format window.stop)] ++
      match aggregation with
      | none => []
      | some a =>
        [("aggregation.alignmentPeriod", a.alignmentPeriod),
         ("aggregation.crossSeriesReducer", a.crossSeriesReducer)]
        ++ a.groupByFields.map (fun f => ("aggregation.groupByFields", f))
        ++ [("aggregation.perSeriesAligner", a.perSeriesAligner)]

/-- A value as the value of a parameter. -/
def paramText : Json → String
  | .bool true => "true"
  | .bool false => "false"
  | v => v.formatted

/-- The parameters of a query. -/
def Query.params (q : Query) (pageSize : Option Int) : List (String × String) :=
  ("filter", q.filter) :: q.subject.params
    ++ (match pageSize.filter (· ≠ 0) with
      | none => []
      | some n => [("pageSize", toString n)])
    ++ (match following? q.token with
      | none => []
      | some token => [("pageToken", paramText token)])

/-- The length of parameters as a query. -/
def queryLength (params : List (String × String)) : Nat :=
  params.foldr (fun p n => Web.formLength p.1.toList + Web.formLength p.2.toList + 2 + n) 0 - 1

/-- A fault of an address as a fault of what it is needed for. -/
def addressFault : Web.AddressFault → Fault
  | .invalid => .badAddress
  | .unencodable => .unencodable

/-- The service's address as the base of requests. -/
def baseAddress (api : Settings.Api) : Except Fault Web.Address :=
  let cs := (api.baseUrl.toList.reverse.dropWhile (· = '/')).reverse
  ((Web.Address.read cs).bind Web.Address.asBase).mapError addressFault

/-- The fault of a query that cannot be sent, or whose answer does not count. -/
def Query.unusable (q : Query) : Fault :=
  .api q.path .notJson

/-- The address of a query. -/
def Query.address (q : Query) (base : Web.Address) : Except Fault Web.Address :=
  ((Web.Address.read q.path.toList).bind base.under).mapError fun
    | .invalid => .badAddress
    | .unencodable => q.unusable

/-- The header for an access token; an empty one counts as none. -/
def bearer (token : Option String) : Option String :=
  (token.filter fun t => !t.isEmpty).map ("Bearer " ++ ·)

/-- The header for a user's name and password. -/
def basic (name password : List Char) : String :=
  "Basic " ++ String.ofList (Text.Base64.encode (Text.toUtf8 (name ++ ':' :: password)))

/-- The request for a query.  A user that the address names stands before an access token, which has
to be ASCII in any case. -/
def Query.request (q : Query) (base : Web.Address) (api : Settings.Api) (token : Option String) :
    Except Fault Request := do
  let address ← q.address base
  let params := q.params api.pageSize
  if !(token.getD "").toList.all fun c => c.toNat < 0x80 then .error q.unusable
  else if !params.all fun p => Text.isEncodable p.1.toList && Text.isEncodable p.2.toList then
    .error q.unusable
  else if Web.maxLength < queryLength params then .error .badAddress
  else if !address.host.all fun c => c.toNat < 0x80 then .error q.unusable
  else
    match Web.decodeHost address.host with
    | .error _ => .error q.unusable
    | .ok host =>
      .ok
        { host := String.ofList host
          path := String.ofList address.shownPath
          params
          authorization :=
            match address.credentials? with
            | some (name, password) => some (basic name password)
            | none => bearer token
          isReadable := address.isReadable }

/-- The JSON of a body. -/
def readBody (body : String) : Except Json.ReadFault Json :=
  match Json.textOfBytes? (Text.toUtf8 body.toList) with
  | none => .error .malformed
  | some cs => Json.read cs

/-- The JSON in the answer to a query. -/
def Query.body (q : Query) (r : Request) : Reply → Except Fault Json
  | .failure reason => .error (.api q.path (.unreachable reason))
  | .answer status body =>
    if !r.isReadable || !Text.isEncodable body.toList then .error q.unusable
    else if status < 200 ∨ 299 < status then .error (.api q.path (.refused status body))
    else (readBody body).mapError fun
      | .tooDeep => .tooDeep
      | _ => q.unusable

/-- The page of descriptors in the answer to a query. -/
def Query.descriptorPage (q : Query) (r : Request) (reply : Reply) :
    Except Fault DescriptorPage := do
  DescriptorPage.ofJson (← q.body r reply)

/-- The page of time series in the answer to a query. -/
def Query.seriesPage (q : Query) (r : Request) (reply : Reply) : Except Fault SeriesPage := do
  SeriesPage.ofJson (← q.body r reply)

end MetricRelay.Monitoring
