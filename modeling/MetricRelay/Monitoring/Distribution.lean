/-
Distributions: a count, a mean, and a count for every bucket of a layout.
-/
import MetricRelay.Json.Lenient

namespace MetricRelay.Monitoring

/-- Finite buckets of one width from an offset on. -/
structure LinearLayout where
  finiteBuckets : Int
  width : Float
  offset : Float

/-- Finite buckets whose bounds grow by a factor from a scale on. -/
structure ExponentialLayout where
  finiteBuckets : Int
  growth : Float
  scale : Float

/-- The layouts that a distribution declares; one is expected. -/
structure BucketOptions where
  explicit : Option (List Float) := none
  linear : Option LinearLayout := none
  exponential : Option ExponentialLayout := none

/-- A distribution; its bucket counts are independent of each other. -/
structure Distribution where
  count : Int
  mean : Float
  options : BucketOptions
  bucketCounts : List Int

namespace BucketOptions

/-- Explicit bounds. -/
def explicitOfJson (v : Json) : Except Fault (List Float) := do
  let ms ← Json.optionalMembers (some v)
  let bounds ← Json.itemsOf ms "bounds"
  bounds.mapM Json.asFloat

/-- A linear layout; what is absent is zero. -/
def linearOfJson (v : Json) : Except Fault LinearLayout := do
  let ms ← Json.optionalMembers (some v)
  let finiteBuckets ← Json.intOrZero ms "numFiniteBuckets"
  let width ← Json.floatOrZero ms "width"
  let offset ← Json.floatOrZero ms "offset"
  .ok { finiteBuckets, width, offset }

/-- An exponential layout; what is absent is zero. -/
def exponentialOfJson (v : Json) : Except Fault ExponentialLayout := do
  let ms ← Json.optionalMembers (some v)
  let finiteBuckets ← Json.intOrZero ms "numFiniteBuckets"
  let growth ← Json.floatOrZero ms "growthFactor"
  let scale ← Json.floatOrZero ms "scale"
  .ok { finiteBuckets, growth, scale }

/-- The bucket options of the service's JSON. -/
def ofJson (v : Json) : Except Fault BucketOptions := do
  let explicit ← (← v.under "explicitBuckets").mapM explicitOfJson
  let linear ← (← v.under "linearBuckets").mapM linearOfJson
  let exponential ← (← v.under "exponentialBuckets").mapM exponentialOfJson
  .ok { explicit, linear, exponential }

end BucketOptions

/-- The distribution of the service's JSON; what is absent is zero or empty. -/
def Distribution.ofJson (v : Json) : Except Fault Distribution := do
  let ms ← v.members
  let count ← Json.intOrZero ms "count"
  let mean ← Json.floatOrZero ms "mean"
  let options ← BucketOptions.ofJson (Json.orEmpty (Json.member? ms "bucketOptions"))
  let counts ← Json.itemsOf ms "bucketCounts"
  let bucketCounts ← counts.mapM Json.asInt
  .ok { count, mean, options, bucketCounts }

end MetricRelay.Monitoring
