/-
Batches: the readings that the time series of one metric type give.

A series gives at most one reading, that of its newest point.  Differences are added to the running
totals if they are aggregated; every other reading is collected under its family's name.  When the
last page has been taken in, `Batch.complete` adds the running totals of the type and hands out all
readings, family by family, scalars before histograms.
-/
import MetricRelay.Delta.Store
import MetricRelay.Intake.Labels
import MetricRelay.Intake.Name

namespace MetricRelay.Intake

open Monitoring

/-- How series become readings. -/
structure Options where
  projectId : String
  metricNamespace : String
  /-- Give all readings of a family the same label names. -/
  fillMissingLabels : Bool
  /-- Ignore series of other projects. -/
  dropDelegated : Bool
  /-- Add differences up to running totals. -/
  aggregateDeltas : Bool
  /-- The most bounds of a histogram for which there is room. -/
  room : Nat := Histogram.defaultRoom
deriving DecidableEq, Repr

/-- The running totals of scalars and of histograms. -/
structure Totals where
  counters : Delta.Store Scalar
  histograms : Delta.Store HistogramReading

/-- A reading of either form. -/
inductive Reading where
  | scalar (r : Scalar)
  | histogram (r : HistogramReading)

/-- Where a reading goes. -/
inductive Route where
  /-- It is collected for this scrape. -/
  | collected
  /-- It is added to a running total. -/
  | accumulated
deriving DecidableEq, Repr

/-- The readings of one metric type that have been collected, by family name. -/
structure Batch where
  descriptor : Descriptor
  options : Options
  scalars : Assoc String (List Scalar) := []
  histograms : Assoc String (List HistogramReading) := []

/-- The kind of a series' readings and where they go, for the kinds that are known. -/
def routing? (options : Options) : Json → Option (ValueKind × Route)
  | .text "GAUGE" => some (.gauge, .collected)
  | .text "CUMULATIVE" => some (.counter, .collected)
  | .text "DELTA" =>
    if options.aggregateDeltas then some (.counter, .accumulated) else some (.gauge, .collected)
  | _ => none

/-- Whether the value of a label names another project than the configured one. -/
def isForeign (projectId : String) : Json → Bool
  | .null => false
  | .text s => s != projectId
  | _ => true

/-- Whether a label names a project other than the configured one. -/
def isDelegated (options : Options) (labels : Labels) : Bool :=
  options.dropDelegated &&
    (Assoc.get? labels (LabelName.ofText "project_id")).any (isForeign options.projectId)

/-- The double that a whole number becomes. -/
def floatOfInt (n : Int) : Except Fault Float :=
  match Decimal.ofInt? n with
  | some x => .ok x
  | none => .error .tooLarge

/-- A double without the sign of zero. -/
def unsignedZero (x : Float) : Float :=
  if x == 0.0 then 0.0 else x

/-- The value of a scalar reading, for the value types that have one; a missing value is zero. -/
def scalarValue? (v : TypedValue) : Json → Except Fault (Option Float)
  | .text "BOOL" => .ok (some (if v.bool.getD false then 1.0 else 0.0))
  | .text "INT64" => (floatOfInt (v.int64.getD 0)).map some
  | .text "DOUBLE" => .ok (some (unsignedZero (v.double.getD 0.0)))
  | _ => .ok none

/-- The histogram reading of a distribution, unless its layout is unknown. -/
def histogramReading? (room : Nat) (heading : Heading) (d : Distribution) :
    Except Fault (Option HistogramReading) :=
  match Histogram.ofDistribution room d with
  | .error .unknownBuckets => .ok none
  | .error fault => .error fault
  | .ok buckets => do
    let count ← floatOfInt d.count
    .ok (some { heading with count := d.count, sum := d.mean * count, buckets })

/-- The reading of a point under its heading. -/
def reading? (room : Nat) (heading : Heading) (v : TypedValue) :
    Json → Except Fault (Option Reading)
  | .text "DISTRIBUTION" =>
    match v.distribution with
    | none => .ok none
    | some d => do .ok ((← histogramReading? room heading d).map .histogram)
  | valueType => do
    .ok ((← scalarValue? v valueType).map fun value => .scalar { heading with value })

/-- The name of the family of a series' readings. -/
def familyNameOf (options : Options) (s : Series) : Except Fault String := do
  let resourceType ← s.resourceType.letters
  let metricType ← s.metricType.letters
  .ok (fullName options.metricNamespace resourceType metricType)

/-- The reading of a series and where it goes, if it gives one. -/
def readingOf? (options : Options) (d : Descriptor) (s : Series) :
    Except Fault (Option (Reading × Route)) := do
  match ← newest s.points with
  | (none, _) => .ok none
  | (some (_, point), stop) =>
    let labels ← merged d s
    if isDelegated options labels then .ok none
    else
      match routing? options s.kind with
      | none => .ok none
      | some (kind, route) =>
        let name ← familyNameOf options s
        let r ← reading? options.room ⟨name, d.help, kind, labels, stop⟩ point.value s.valueType
        .ok (r.map fun r => (r, route))

/-- A map of lists with one more element at the end of a key's list. -/
def append {α : Type} (m : Assoc String (List α)) (key : String) (a : α) : Assoc String (List α) :=
  Assoc.put m key ((Assoc.get? m key).getD [] ++ [a])

/-- A map of lists with further elements, each at the end of its key's list. -/
def appendAll {α : Type} (key : α → String) (m : Assoc String (List α)) (as : List α) :
    Assoc String (List α) :=
  as.foldl (fun m a => append m (key a) a) m

/-- The label names of readings, in the order in which they first occur. -/
def labelNames (headings : List Heading) : List LabelName :=
  headings.foldl (fun names h => (Assoc.keys h.labels).foldl
    (fun names name => if names.contains name then names else names ++ [name]) names) []

/-- Labels under the given names; what is missing is empty. -/
def filled (names : List LabelName) (labels : Labels) : Labels :=
  names.map fun name => (name, (Assoc.get? labels name).getD (.text ""))

/-- The scalars of a family with the same label names for all. -/
def fillScalars (rs : List Scalar) : List Scalar :=
  let names := labelNames (rs.map fun r => r.toHeading)
  rs.map fun r => { r with labels := filled names r.labels }

/-- The histograms of a family with the same label names for all. -/
def fillHistograms (rs : List HistogramReading) : List HistogramReading :=
  let names := labelNames (rs.map fun r => r.toHeading)
  rs.map fun r => { r with labels := filled names r.labels }

namespace Batch

/-- A batch without readings. -/
def start (options : Options) (d : Descriptor) : Batch :=
  { descriptor := d, options }

/-- The batch and the totals after a reading has gone its way. -/
def place (b : Batch) (totals : Totals) (now : Float) :
    Reading × Route → Except Fault (Batch × Totals)
  | (.scalar r, .collected) => .ok ({ b with scalars := append b.scalars r.name r }, totals)
  | (.histogram r, .collected) =>
    .ok ({ b with histograms := append b.histograms r.name r }, totals)
  | (.scalar r, .accumulated) => do
    let _ ← r.sortable
    let type ← b.descriptor.type.asKey
    .ok (b, { totals with counters := totals.counters.increment now type r })
  | (.histogram r, .accumulated) => do
    let _ ← r.sortable
    let type ← b.descriptor.type.asKey
    .ok (b, { totals with histograms := totals.histograms.increment now type r })

/-- Takes in one series. -/
def addSeries (b : Batch) (totals : Totals) (now : Float) (s : Series) :
    Except Fault (Batch × Totals) := do
  match ← readingOf? b.options b.descriptor s with
  | none => .ok (b, totals)
  | some r => b.place totals now r

/-- Takes in series in order up to the first fault; what comes before it keeps its effect. -/
def addPage (b : Batch) (totals : Totals) (now : Float) :
    List Series → (Batch × Totals) × Option Fault
  | [] => ((b, totals), none)
  | s :: ss =>
    match b.addSeries totals now s with
    | .error fault => ((b, totals), some fault)
    | .ok (b, totals) => b.addPage totals now ss

/-- The families of scalars as they are handed out. -/
def scalarFamilies (b : Batch) : List (List Scalar) :=
  b.scalars.map fun f => if b.options.fillMissingLabels then fillScalars f.2 else f.2

/-- The families of histograms as they are handed out. -/
def histogramFamilies (b : Batch) : List (List HistogramReading) :=
  b.histograms.map fun f => if b.options.fillMissingLabels then fillHistograms f.2 else f.2

/-- The readings that have been collected, in the order in which they are handed out. -/
def readings (b : Batch) : List Reading :=
  b.scalarFamilies.flatten.map .scalar ++ b.histogramFamilies.flatten.map .histogram

/-- The batch with the running totals of its type, and the totals without stale entries. -/
def withTotals (b : Batch) (totals : Totals) (now : Float) : Except Fault (Batch × Totals) :=
  if b.options.aggregateDeltas then do
    let type ← b.descriptor.type.asKey
    let (scalars, counters) := totals.counters.list now type
    let (hists, histograms) := totals.histograms.list now type
    .ok ({ b with
        scalars := appendAll (fun r => r.name) b.scalars scalars
        histograms := appendAll (fun r => r.name) b.histograms hists },
      { counters, histograms })
  else .ok (b, totals)

/-- Hands out all readings and the running totals of the type. -/
def complete (b : Batch) (totals : Totals) (now : Float) :
    Except Fault (List Reading × Batch × Totals) := do
  let (b, totals) ← b.withTotals totals now
  .ok (b.readings, start b.options b.descriptor, totals)

end Batch

end MetricRelay.Intake
