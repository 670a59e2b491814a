/-
The sink: families that grow while readings are added.

A reading goes to the family of its name, which is created with the reading's type and help text if
there is none.  A counter's name loses one trailing `_total`, which its samples carry instead.  A
family keeps the type of its first reading; readings of other types are dropped.
-/
import MetricRelay.Exposition.Family
import MetricRelay.Intake.Batch

namespace MetricRelay.Exposition

/-- Families in the order in which they were created. -/
abbrev Sink := Assoc String Family

/-- A name without one trailing `_total`. -/
def withoutTotal (name : String) : String :=
  let cs := name.toList
  if "_total".toList.isSuffixOf cs then String.ofList (cs.take (cs.length - 6)) else name

/-- The name of the family for a name and a type word. -/
def familyName (name word : String) : String :=
  if word = "counter" then withoutTotal name else name

namespace Sink

/-- A family without samples; it needs a name that bytes can write and a known type. -/
def newFamily (name : String) (help : Json) (word : String) : Except Fault Family :=
  if name.isEmpty then .error .badFamily
  else if !Text.isEncodable name.toList then .error .unencodable
  else
    match FamilyType.ofWord? word with
    | none => .error .badFamily
    | some type => .ok { name, help, type }

/-- Adds samples to the family of a name, which is created if there is none; a family of another
type drops them. -/
def addTo (sink : Sink) (name : String) (help : Json) (word : String)
    (samples : Family → List Sample) : Except Fault Sink :=
  let key := familyName name word
  match Assoc.get? sink key with
  | some family =>
    if family.type.word = word then
      .ok (Assoc.put sink key { family with samples := family.samples ++ samples family })
    else .ok sink
  | none => do
    let family ← newFamily key help word
    .ok (Assoc.put sink key { family with samples := samples family })

/-- The sample of a scalar reading. -/
def scalarSamples (r : Scalar) (family : Family) : List Sample :=
  let name := if family.type = .counter then family.name ++ "_total" else family.name
  [{ name, labels := r.labels, value := .real r.value, time := some r.time.seconds }]

/-- The samples of a histogram reading: one for each bucket, the count and the sum. -/
def histogramSamples (r : HistogramReading) (family : Family) : List Sample :=
  let time := some r.time.seconds
  r.buckets.map (fun b =>
    { name := family.name ++ "_bucket"
      labels := Assoc.put r.labels (LabelName.ofText "le") (.text (Decimal.exposed.render b.1))
      value := .count b.2, time })
  ++ [{ name := family.name ++ "_count", labels := r.labels, value := .count r.count, time },
      { name := family.name ++ "_sum", labels := r.labels, value := .real r.sum, time }]

/-- Adds a scalar reading. -/
def addScalar (sink : Sink) (r : Scalar) : Except Fault Sink :=
  addTo sink r.name r.help r.kind.word (scalarSamples r)

/-- Adds a histogram reading. -/
def addHistogram (sink : Sink) (r : HistogramReading) : Except Fault Sink :=
  addTo sink r.name r.help "histogram" (histogramSamples r)

/-- Adds a reading. -/
def add (sink : Sink) : Intake.Reading → Except Fault Sink
  | .scalar r => sink.addScalar r
  | .histogram r => sink.addHistogram r

/-- Adds readings in order up to the first fault. -/
def addAll (sink : Sink) : List Intake.Reading → Sink × Option Fault
  | [] => (sink, none)
  | r :: rs =>
    match sink.add r with
    | .error fault => (sink, some fault)
    | .ok sink => addAll sink rs

/-- The families in order. -/
def families (sink : Sink) : List Family :=
  sink.map Prod.snd

/-- The count of samples. -/
def size (sink : Sink) : Nat :=
  sink.foldr (fun f n => f.2.samples.length + n) 0

end Sink

end MetricRelay.Exposition
