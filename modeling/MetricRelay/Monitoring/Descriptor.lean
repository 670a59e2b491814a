/-
Metric descriptors: what the monitoring service says about a metric type.

The members of a descriptor are kept as they come; texts are expected.
-/
import MetricRelay.Json.Lenient

namespace MetricRelay.Monitoring

/-- What the service says about a metric type. -/
structure Descriptor where
  type : Json
  kind : Json := .text "METRIC_KIND_UNSPECIFIED"
  valueType : Json := .text "VALUE_TYPE_UNSPECIFIED"
  unit : Json := .text ""
  description : Json := .text ""
  name : Json := .text ""
  /-- How long after its end a point may still arrive, as a duration text. -/
  ingestDelay : Option Json := none
deriving Inhabited

namespace Descriptor

/-- The descriptor of the service's JSON; a vacant ingest delay counts as absent. -/
def ofJson (v : Json) : Except Fault Descriptor := do
  let ms ← v.members
  let metadata ← Json.optionalMembers (Json.member? ms "metadata")
  .ok
    { type := Json.orText ms "type" ""
      kind := Json.orText ms "metricKind" "METRIC_KIND_UNSPECIFIED"
      valueType := Json.orText ms "valueType" "VALUE_TYPE_UNSPECIFIED"
      unit := Json.orText ms "unit" ""
      description := Json.orText ms "description" ""
      name := Json.orText ms "name" ""
      ingestDelay := (Json.member? metadata "ingestDelay").bind Json.occupied }

/-- The help of the descriptor's metric families. -/
def help (d : Descriptor) : Json :=
  d.description.occupied.getD (.text ("Google Cloud Monitoring metric " ++ d.type.formatted))

end Descriptor

end MetricRelay.Monitoring
