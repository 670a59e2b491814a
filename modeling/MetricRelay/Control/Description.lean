/-
The description of the control interface for programs: its operations with their bodies and answers,
and the shapes of these.
-/
import MetricRelay.Json.Basic

namespace MetricRelay.Control

/-- Something that the interface does. -/
structure Operation where
  path : String
  method : String
  /-- A name of its own. -/
  identifier : String
  summary : String
  description : String
  /-- The name of the shape of the body, if there is one. -/
  body : Option String := none

/-- All operations. -/
def operations : List Operation :=
  [{ path := "/healthz", method := "get", identifier := "healthz_healthz_get"
     summary := "Healthz", description := "Health check endpoint." },
   { path := "/status", method := "get", identifier := "status_status_get"
     summary := "Status", description := "Get current exporter status." },
   { path := "/control/deltas/reset", method := "post"
     identifier := "reset_deltas_control_deltas_reset_post"
     summary := "Reset Deltas", description := "Forget every aggregated DELTA running total." },
   { path := "/control/descriptors/flush", method := "post"
     identifier := "flush_descriptors_control_descriptors_flush_post"
     summary := "Flush Descriptors", description := "Drop every cached metric descriptor list." },
   { path := "/control/loglevel", method := "post"
     identifier := "set_log_level_control_loglevel_post"
     summary := "Set Log Level", description := "Change log level at runtime."
     body := some "LogLevelRequest" }]

/-- A shape by its name. -/
def reference (name : String) : Json :=
  .object [("$ref", .text ("#/components/schemas/" ++ name))]

/-- A content in JSON of a shape. -/
def content (shape : Json) : Json :=
  .object [("application/json", .object [("schema", shape)])]

/-- A described content in JSON of a shape. -/
def response (description : String) (shape : Json) : Json :=
  .object [("description", .text description), ("content", content shape)]

/-- The description of an operation. -/
def Operation.toJson (o : Operation) : Json :=
  let success := ("200", response "Successful Response" (.object []))
  let opening := [("summary", .text o.summary), ("description", .text o.description),
    ("operationId", .text o.identifier)]
  match o.body with
  | none => .object (opening ++ [("responses", .object [success])])
  | some shape =>
    let refusal := ("422", response "Validation Error" (reference "HTTPValidationError"))
    .object (opening ++
      [("requestBody", .object [("content", content (reference shape)), ("required", .bool true)]),
       ("responses", .object [success, refusal])])

/-- The shape of a text with a title. -/
def textShape (title : String) : Json :=
  .object [("type", .text "string"), ("title", .text title)]

/-- The shape of a list with a title. -/
def listShape (items : Json) (title : String) : Json :=
  .object [("items", items), ("type", .text "array"), ("title", .text title)]

/-- The shape of an object with its members, those that it needs, and a title. -/
def objectShape (members : List (String × Json)) (needed : List String) (title : String) :
    List (String × Json) :=
  [("properties", .object members), ("type", .text "object")]
    ++ (if needed.isEmpty then [] else [("required", .list (needed.map .text))])
    ++ [("title", .text title)]

/-- The shapes that operations refer to. -/
def shapes : List (String × Json) :=
  let step : Json := .object [("anyOf", .list
    [.object [("type", .text "string")], .object [("type", .text "integer")]])]
  [("HTTPValidationError", .object (objectShape
      [("detail", listShape (reference "ValidationError") "Detail")] [] "HTTPValidationError")),
   ("LogLevelRequest",
     .object (objectShape [("level", textShape "Level")] ["level"] "LogLevelRequest"
      ++ [("description", .text "Request to change log level.")])),
   ("ValidationError", .object (objectShape
      [("loc", listShape step "Location"), ("msg", textShape "Message"),
       ("type", textShape "Error Type"), ("input", .object [("title", .text "Input")]),
       ("ctx", .object [("title", .text "Context"), ("type", .text "object")])]
      ["loc", "msg", "type"] "ValidationError"))]

/-- The description of the interface. -/
def description : List (String × Json) :=
  [("openapi", .text "3.1.0"),
   ("info", .object [("title", .text "Google Cloud Monitoring Exporter Control API"),
     ("version", .text "0.1.0")]),
   ("paths", .object (operations.map fun o => (o.path, .object [(o.method, o.toJson)]))),
   ("components", .object [("schemas", .object shapes)])]

end MetricRelay.Control
