/-
The unit of a descriptor: the time series of one metric type.

Pages are taken in as they come, up to the last one or the first fault.  Whatever has been collected
by then is handed to the sink.
-/
import MetricRelay.Scrape.Source

namespace MetricRelay.Scrape

open Monitoring Intake

/-- Takes in page after page, starting with the one that a query asks for; `limit`
bounds the pages. -/
def addPages (src : Source) : Nat → Query → Batch → Work → Option Fault × Batch × Work
  | 0, _, b, w => (some .endless, b, w)
  | limit + 1, q, b, w =>
    let page := src.series w.asked q
    let w := w.ask q
    match page with
    | .error fault => (some fault, b, w)
    | .ok page =>
      let ((b, totals), fault) := b.addPage w.totals (src.clock w.asked) page.series
      let w := { w with totals }
      match fault, following? page.nextToken with
      | some fault, _ => (some fault, b, w)
      | none, none => (none, b, w)
      | none, some token => addPages src limit (q.forPage token) b w

/-- Hands everything that was collected to the sink. -/
def finish (src : Source) (b : Batch) (w : Work) : Option Fault × Work :=
  match b.complete w.totals (src.clock w.asked) with
  | .error fault => (some fault, w)
  | .ok (readings, _, totals) =>
    let (sink, fault) := w.sink.addAll readings
    (fault, { w with totals, sink })

/-- The query for the first page of a unit: its window is moved back by the delay that counts. -/
def unitQuery (p : Plan) (within : Window) (d : Descriptor) : Except Fault Query := do
  seriesQuery p.collection d.type (← delayedWindow p.collection d within)

/-- The unit of a descriptor.  A fault of the sink hides one of the pages. -/
def runUnit (src : Source) (p : Plan) (within : Window) (d : Descriptor) (w : Work) :
    Option Fault × Work :=
  match unitQuery p within d with
  | .error fault => (some fault, w)
  | .ok query =>
    let (fault, b, w) := addPages src src.limit query (.start p.options d) w
    let (sinkFault, w) := finish src b w
    (sinkFault.orElse fun _ => fault, w)

/-- Descriptors under the names of their types. -/
def keyed (ds : List Descriptor) : Except Fault (List (Json.Key × Descriptor)) :=
  ds.mapM fun d => d.type.asKey.map fun type => (type, d)

/-- Descriptors of which each type occurs once: at its first place, with its last descriptor. -/
def unique (ds : List Descriptor) : Except Fault (List Descriptor) :=
  (keyed ds).map fun entries => (Assoc.ofEntries entries).map Prod.snd

/-- Runs the units of descriptors one after the other; the first fault stands for all. -/
def runUnits (src : Source) (p : Plan) (within : Window) :
    List Descriptor → Work → Option Fault × Work
  | [], w => (none, w)
  | d :: ds, w =>
    let (fault, w) := runUnit src p within d w
    let (later, w) := runUnits src p within ds w
    (fault.orElse fun _ => later, w)

/-- Runs the unit of every type among descriptors, all within one window. -/
def report (src : Source) (p : Plan) (ds : List Descriptor) (w : Work) :
    Except Fault (Option Fault) × Work :=
  match unique ds, (src.now w.asked).bind (window p.collection) with
  | .error fault, _ => (.error fault, w)
  | .ok _, .error fault => (.error fault, w)
  | .ok ds, .ok within =>
    let (fault, w) := runUnits src p within ds w
    (.ok fault, w)

end MetricRelay.Scrape
