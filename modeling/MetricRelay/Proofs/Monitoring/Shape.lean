/-
The shapes of the service's answers.

For every part of an answer the shape that it has to have, and that decoding it succeeds exactly if
it has this shape:

* `Decodes.descriptorPage` — a listing of descriptors;
* `Decodes.seriesPage` — a listing of time series, down to the counts and bounds of distributions.
-/
import MetricRelay.Monitoring.Series
import MetricRelay.Proofs.Json.Shape

namespace MetricRelay

open Json Monitoring

namespace Json

/-- A value that can name a label. -/
def IsName : Json → Prop
  | list _ | object _ => False
  | _ => True

/-- A label as a list of its name and its value; a text of two characters and an object of two
members count as such lists. -/
def IsLabelPair : Json → Prop
  | list [name, _] => name.IsName
  | text s => (Text.codes s.toList).length = 2
  | object [_, _] => True
  | _ => False

/-- Labels: an object, or a list of pairs. -/
def IsLabels : Json → Prop
  | object _ => True
  | list vs => ∀ v ∈ vs, v.IsLabelPair
  | _ => False

/-- Explicit bounds. -/
def IsExplicit (v : Json) : Prop :=
  v.IsVacantOr (IsObjectWith fun ms => Permits ms "bounds" (IsSequence IsReal))

/-- A layout of a number of finite buckets, with two doubles under given names. -/
def IsLayout (first second : String) (v : Json) : Prop :=
  v.IsVacantOr (IsObjectWith fun ms =>
    Permits ms "numFiniteBuckets" IsWhole ∧ Permits ms first IsReal ∧ Permits ms second IsReal)

/-- Bucket options. -/
def IsBucketOptions (v : Json) : Prop :=
  v.PermitsUnder "explicitBuckets" IsExplicit ∧
    v.PermitsUnder "linearBuckets" (IsLayout "width" "offset") ∧
    v.PermitsUnder "exponentialBuckets" (IsLayout "growthFactor" "scale")

/-- A distribution. -/
def IsDistribution : Json → Prop :=
  IsObjectWith fun ms =>
    Permits ms "count" IsWhole ∧ Permits ms "mean" IsReal ∧
      Permits ms "bucketOptions" (IsVacantOr IsBucketOptions) ∧
      Permits ms "bucketCounts" (IsSequence IsWhole)

/-- The value of a point. -/
def IsTypedValue (v : Json) : Prop :=
  v.PermitsUnder "boolValue" (fun _ => True) ∧ v.PermitsUnder "int64Value" IsWhole ∧
    v.PermitsUnder "doubleValue" IsReal ∧ v.PermitsUnder "distributionValue" IsDistribution

/-- A point. -/
def IsPoint : Json → Prop :=
  IsObjectWith fun ms =>
    Permits ms "interval" (IsVacantOr IsObject) ∧
      Permits ms "value" (IsVacantOr IsTypedValue)

/-- A metric or a resource with its labels. -/
def IsLabelled : Json → Prop :=
  IsVacantOr (IsObjectWith fun ms => Permits ms "labels" (IsVacantOr IsLabels))

/-- A time series. -/
def IsSeries : Json → Prop :=
  IsObjectWith fun ms =>
    Permits ms "metadata" (IsVacantOr IsObject) ∧ Permits ms "metric" IsLabelled ∧
      Permits ms "resource" IsLabelled ∧ Permits ms "points" (IsSequence IsPoint)

/-- A metric descriptor. -/
def IsDescriptor : Json → Prop :=
  IsObjectWith fun ms => Permits ms "metadata" (IsVacantOr IsObject)

/-- A listing of metric descriptors. -/
def IsDescriptorListing : Json → Prop :=
  IsObjectWith fun ms => Permits ms "metricDescriptors" (IsSequence IsDescriptor)

/-- A listing of time series. -/
def IsSeriesListing : Json → Prop :=
  IsObjectWith fun ms => Permits ms "timeSeries" (IsSequence IsSeries)

theorem permits_nil (key : String) (S : Json → Prop) : Permits [] key S :=
  nofun

end Json

namespace Decodes

/-! ### Labels -/

theorem labelName (v : Json) : Decodes (LabelName.ofJson v) v.IsName := by
  cases v with
  | list _ | object _ => exact error trivial not_false
  | _ => exact ok _ trivial

theorem labelPair (v : Json) :
    Decodes (do
      match ← v.items with
      | [name, value] => .ok (← LabelName.ofJson name, value)
      | _ => .error .notNumber) v.IsLabelPair := by
  cases v with
  | list vs =>
    obtain _ | ⟨name, _ | ⟨value, _ | _⟩⟩ := vs
    case cons.cons.nil => exact (labelName name).bind_ok
    all_goals exact error trivial not_false
  | text s =>
    rw [IsLabelPair, Json.items]
    obtain _ | ⟨name, _ | ⟨value, _ | _⟩⟩ := Text.codes s.toList
    case cons.cons.nil => exact ok _ rfl
    all_goals exact error trivial (by simp)
  | object ms =>
    obtain _ | ⟨name, _ | ⟨value, _ | _⟩⟩ := ms
    case cons.cons.nil => exact ok _ trivial
    all_goals exact error trivial not_false
  | _ => exact error trivial not_false

theorem labels (o : Option Json) :
    Decodes (Labels.ofJson o) (∀ v, o = some v → v.IsVacantOr IsLabels) := by
  refine Decodes.congr ?_ (orEmpty_iff trivial o)
  rw [Labels.ofJson]
  cases Json.orEmpty o with
  | object ms => exact ok _ trivial
  | list vs => exact (mapM labelPair vs).bind_ok
  | _ => exact error trivial not_false

/-! ### Distributions -/

theorem explicit (v : Json) : Decodes (BucketOptions.explicitOfJson v) v.IsExplicit :=
  (optionalMembers (fun ms => itemsOf asFloat ms "bounds") (permits_nil _ _) (some v)).congr
    (by simp [IsExplicit])

theorem layout {γ : Type} (make : Int → Float → Float → γ) (first second : String) (v : Json) :
    Decodes (do
      let ms ← Json.optionalMembers (some v)
      let finiteBuckets ← Json.intOrZero ms "numFiniteBuckets"
      let x ← Json.floatOrZero ms first
      let y ← Json.floatOrZero ms second
      .ok (make finiteBuckets x y)) (v.IsLayout first second) := by
  refine (optionalMembers (T := fun ms => Permits ms "numFiniteBuckets" IsWhole ∧
    Permits ms first IsReal ∧ Permits ms second IsReal) (fun ms => ?_) ?_ (some v)).congr
    (by simp [IsLayout])
  · exact (intOrZero ms _).bind fun _ => (floatOrZero ms _).bind fun _ => (floatOrZero ms _).bind_ok
  · exact ⟨permits_nil _ _, permits_nil _ _, permits_nil _ _⟩

theorem linear (v : Json) : Decodes (BucketOptions.linearOfJson v) (v.IsLayout "width" "offset") :=
  layout LinearLayout.mk _ _ v

theorem exponential (v : Json) :
    Decodes (BucketOptions.exponentialOfJson v) (v.IsLayout "growthFactor" "scale") :=
  layout ExponentialLayout.mk _ _ v

theorem bucketOptions (v : Json) : Decodes (BucketOptions.ofJson v) v.IsBucketOptions :=
  (under explicit _ v).bind_bind fun _ _ => (under linear _ v).bind_bind fun _ _ =>
    (under exponential _ v).bind_bind_ok

theorem isBucketOptions_empty : (object []).IsBucketOptions :=
  ⟨permits_nil _ _, permits_nil _ _, permits_nil _ _⟩

theorem distribution (v : Json) : Decodes (Distribution.ofJson v) v.IsDistribution := by
  refine members (fun ms => ?_) v
  refine (intOrZero ms _).bind fun _ => (floatOrZero ms _).bind fun _ => ?_
  refine (orEmpty bucketOptions isBucketOptions_empty _).bind fun _ => ?_
  exact (itemsOf asInt ms _).bind_bind_ok

/-! ### Time series and descriptors -/

theorem typedValue (v : Json) : Decodes (TypedValue.ofJson v) v.IsTypedValue := by
  refine (under_of_forall (fun _ => trivial) _ v).bind fun _ => ?_
  exact (under asInt _ v).bind_bind fun _ _ => (under asFloat _ v).bind_bind fun _ _ =>
    (under distribution _ v).bind_bind_ok

theorem isTypedValue_empty : (object []).IsTypedValue :=
  ⟨permits_nil _ _, permits_nil _ _, permits_nil _ _, permits_nil _ _⟩

theorem point (v : Json) : Decodes (Point.ofJson v) v.IsPoint := by
  refine members (fun ms => ?_) v
  exact (isObject _).bind fun _ => (orEmpty typedValue isTypedValue_empty _).bind_ok

theorem labelled (o : Option Json) :
    Decodes (Json.optionalMembers o >>= fun ms => Labels.ofJson (member? ms "labels"))
      (∀ v, o = some v → v.IsLabelled) :=
  optionalMembers (fun _ => labels _) (permits_nil _ _) o

theorem series (v : Json) : Decodes (Series.ofJson v) v.IsSeries := by
  refine members (fun ms => ?_) v
  refine (isObject _).bind fun _ => ?_
  refine (labelled _).bind_bind fun _ _ => (labelled _).bind_bind fun _ _ => ?_
  exact (itemsOf point ms _).bind_bind_ok

theorem descriptor (v : Json) : Decodes (Descriptor.ofJson v) v.IsDescriptor := by
  refine members (fun ms => ?_) v
  exact optionalMembers (fun _ => ok _ trivial) trivial _

theorem descriptorPage (v : Json) : Decodes (DescriptorPage.ofJson v) v.IsDescriptorListing := by
  refine members (fun ms => ?_) v
  exact (itemsOf descriptor ms _).bind_bind_ok

theorem seriesPage (v : Json) : Decodes (SeriesPage.ofJson v) v.IsSeriesListing := by
  refine members (fun ms => ?_) v
  exact (itemsOf series ms _).bind_bind_ok

end Decodes

end MetricRelay
