/-
The control interface of a running exporter: its state, forgetting running totals, dropping cached
descriptors, and the log level.

A request may give any address; its path counts, with escapes resolved twice.
-/
import MetricRelay.Control.Description
import MetricRelay.Control.Route
import MetricRelay.Logging
import MetricRelay.Monitoring.Client
import MetricRelay.Scrape.Exporter
import MetricRelay.Settings.Check

namespace MetricRelay.Control

open Scrape Settings

/-- A request to the control interface. -/
structure Request where
  method : String
  path : String
  body : Option Json := none

/-- An answer of the control interface. -/
structure Reply where
  status : Nat
  body : Json

/-- What a request meets: an exporter, the least level of log records, and the clocks. -/
structure Console where
  exporter : Exporter
  logLevel : Int := 30
  /-- The time at which the interface came up, in seconds since the start of 1970. -/
  started : Float := 0.0

/-- The levels that can be set. -/
def settableLevels : List String := ["DEBUG", "INFO", "WARNING", "ERROR", "CRITICAL"]

/-- An answer that only tells a detail. -/
def detail (status : Nat) (text : String) : Reply :=
  ⟨status, .object [("detail", .text text)]⟩

/-- A successful answer. -/
def success (members : List (String × Json)) : Reply :=
  ⟨200, .object members⟩

/-- The word for a problem with a request's body. -/
def problemWord : ProblemKind → String
  | .missing => "missing"
  | .notModel => "model_attributes_type"
  | _ => "string_type"

/-- A step in the place of a problem. -/
def stepJson : Step → Json
  | .key name => .text name
  | .index n => .int n

/-- The answer to a body with problems. -/
def unprocessable (problems : List Problem) : Reply :=
  ⟨422, .list (problems.map fun p =>
    .object [("loc", .list (p.place.map stepJson)), ("type", .text (problemWord p.kind))])⟩

/-- The level that a body asks for. -/
def requestedLevel (body : Option Json) : Checked String :=
  Checked.below (.key "body") <|
    match body with
    | none | some .null => .problem .missing
    | some v => Checked.model (fun ms => .required ms "level" fun
      | .text s => .valid s
      | _ => .problem .notText) v

/-- The latest scrape; its fault is told by `describe`. -/
def lastScrapeJson (describe : Fault → String) (l : LastScrape) : Json :=
  .object [("timestamp", (l.time.map Json.real).getD .null),
    ("duration_seconds", (l.duration.map Json.real).getD .null),
    ("error", (l.fault.map fun f => Json.text (describe f)).getD .null),
    ("samples", .int l.samples)]

/-- The state of an exporter. -/
def statusJson (describe : Fault → String) (c : Console) (clock wall : Float) :
    List (String × Json) :=
  let e := c.exporter
  let settings := e.plan.collection
  [("uptime_seconds", .real (wall - c.started)), ("project_id", .text settings.projectId),
   ("last_scrape", lastScrapeJson describe e.lastScrape),
   ("api_calls_total", .real (Float.ofNat e.meters.apiCalls)),
   ("descriptor_cache_entries", .int (e.cache.size clock)),
   ("delta_counter_entries", .int e.totals.counters.size),
   ("delta_histogram_entries", .int e.totals.histograms.size),
   ("config", .object
     [("metrics_prefixes", .list (settings.prefixes.map .text)),
      ("interval_s", .real settings.interval.seconds), ("offset_s", .real settings.offset.seconds),
      ("aggregate_deltas", .bool settings.aggregateDeltas),
      ("drop_delegated_projects", .bool settings.dropDelegated)])]

/-- Sets the log level that a body asks for. -/
def setLogLevel (c : Console) (wall : Float) (body : Option Json) : Reply × Console :=
  match requestedLevel body with
  | .invalid problems => (unprocessable problems, c)
  | .crashed _ => (detail 500 "Internal Server Error", c)
  | .valid level =>
    let level := Logging.upper level
    if settableLevels.contains level then
      (success [("status", .text "log_level_changed"), ("level", .text level),
        ("timestamp", .real wall)], { c with logLevel := Logging.levelNumber level })
    else (detail 400 ("Invalid log level: " ++ level), c)

/-- Carries out an action, at a time of the exporter's clock and a time of day.  Pages are no
JSON. -/
def perform (describe : Fault → String) (c : Console) (clock wall : Float) (body : Option Json) :
    Action → Except Fault (Reply × Console)
  | .health => .ok (success [("status", .text "healthy"), ("timestamp", .real wall)], c)
  | .status => .ok (success (statusJson describe c clock wall), c)
  | .resetDeltas =>
    let totals := c.exporter.totals
    .ok (success [("status", .text "deltas_reset"), ("counters_removed", .int totals.counters.size),
        ("histograms_removed", .int totals.histograms.size), ("timestamp", .real wall)],
      { c with exporter.totals := ⟨totals.counters.reset, totals.histograms.reset⟩ })
  | .flushDescriptors =>
    .ok (success [("status", .text "descriptors_flushed"),
        ("entries_removed", .int (c.exporter.cache.size clock)), ("timestamp", .real wall)],
      { c with exporter.cache := c.exporter.cache.clear })
  | .setLogLevel => .ok (setLogLevel c wall body)
  | .description => .ok (success description, c)
  | .page => .error .notJson

/-- The address below which requests go. -/
def home : Web.Address where
  scheme := "http".toList
  host := "testserver".toList
  path := ['/']

/-- Schemes of services that answer. -/
def answeringSchemes : List String := ["http", "https"]

/-- Schemes of connections that stay open instead. -/
def openSchemes : List String := ["ws", "wss"]

/-- The address that a request asks for. -/
def requestedAddress (path : String) : Except Fault Web.Address :=
  ((Web.Address.read path.toList).bind home.under).mapError Monitoring.addressFault

/-- The path at an address. -/
def pathAt (address : Web.Address) : Except Fault (List Char) :=
  let scheme := String.ofList address.scheme
  if !address.host.all fun c => c.toNat < 0x80 then .error .unencodable
  else if !(answeringSchemes ++ openSchemes).contains scheme then .error (.breakdown "KeyError")
  else
    match Web.decodeHost address.host with
    | .error fault => .error (.badName fault)
    | .ok _ =>
      if openSchemes.contains scheme then .error (.breakdown "_Upgrade")
      else .ok (Web.percentDecode address.shownPath)

/-- The route that a request leads to.  Where the path ends in a slash the client is sent on to the
path without it, which needs an address that can be read again. -/
def routeAt? (address : Web.Address) (path : List Char) : Except Fault (Option Route) :=
  match route? path with
  | none => .ok none
  | some route =>
    if path.getLast? == some '/' && (address.withTarget address.target).toOption.isNone then
      .error (.breakdown "RemoteProtocolError")
    else .ok (some route)

/-- A value that can be sent. -/
def sendable (v : Json) : Except Fault Json :=
  if !v.isFinite then .error .notNumber
  else if !v.isEncodable then .error .unencodable
  else .ok v

/-- The action that a request asks for, or the answer to one that asks for none.  Its body has to be
one that can be sent. -/
def Request.action (r : Request) : Except Fault (Reply ⊕ Action) := do
  let address ← requestedAddress r.path
  let _ ← r.body.mapM sendable
  let path ← pathAt address
  let route ← routeAt? address path
  let method := Logging.upper r.method
  if method = "HEAD" then .error .notJson
  else
    match route with
    | none => .ok (.inl (detail 404 "Not Found"))
    | some route =>
      if !route.methods.contains method then .ok (.inl (detail 405 "Method Not Allowed"))
      else .ok (.inr route.action)

/-- Answers a request.  What it asks for is done even if the answer cannot be sent. -/
def handle (describe : Fault → String) (c : Console) (clock wall : Float) (r : Request) :
    Except Fault Reply × Console :=
  match r.action with
  | .error fault => (.error fault, c)
  | .ok (.inl reply) => (.ok reply, c)
  | .ok (.inr action) =>
    match perform describe c clock wall r.body action with
    | .error fault => (.error fault, c)
    | .ok (reply, c) => ((sendable reply.body).map fun _ => reply, c)

end MetricRelay.Control
