/-
What the control interface offers, by path and method.

A path may end in slashes or in one line feed.
-/
namespace MetricRelay.Control

/-- What can be requested. -/
inductive Action where
  | health
  | status
  | resetDeltas
  | flushDescriptors
  | setLogLevel
  /-- The description of the interface for programs. -/
  | description
  /-- A page about the interface for people. -/
  | page
deriving DecidableEq, Repr

/-- A path with the methods that lead to an action. -/
structure Route where
  path : String
  methods : List String
  action : Action
deriving DecidableEq, Repr

/-- All routes. -/
def routes : List Route :=
  [⟨"/openapi.json", ["GET", "HEAD"], .description⟩,
   ⟨"/docs", ["GET", "HEAD"], .page⟩,
   ⟨"/docs/oauth2-redirect", ["GET", "HEAD"], .page⟩,
   ⟨"/redoc", ["GET", "HEAD"], .page⟩,
   ⟨"/healthz", ["GET"], .health⟩,
   ⟨"/status", ["GET"], .status⟩,
   ⟨"/control/deltas/reset", ["POST"], .resetDeltas⟩,
   ⟨"/control/descriptors/flush", ["POST"], .flushDescriptors⟩,
   ⟨"/control/loglevel", ["POST"], .setLogLevel⟩]

/-- A path without slashes at its end. -/
def withoutSlashes (path : List Char) : List Char :=
  (path.reverse.dropWhile (· = '/')).reverse

/-- Whether a path leads to a route. -/
def Route.meets (route : Route) (path : List Char) : Bool :=
  let path := withoutSlashes path
  path == route.path.toList || path == route.path.toList ++ ['\n']

/-- The route to which a path leads. -/
def route? (path : List Char) : Option Route :=
  routes.find? fun route => route.meets path

end MetricRelay.Control
