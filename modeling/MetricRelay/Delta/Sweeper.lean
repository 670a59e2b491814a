/-
The sweeper: periodic eviction of stale running totals from several stores.

A pass evicts from one store after the other; a store that fails is passed over and the pass still
counts.
-/
import MetricRelay.Delta.Store

namespace MetricRelay.Delta

/-- A store among those that a sweeper looks after. -/
inductive Shelf where
  | counters (s : Store Scalar)
  | histograms (s : Store HistogramReading)
  /-- A store whose eviction fails. -/
  | broken

/-- The count of entries evicted from a store and the store, or nothing if eviction fails. -/
def Shelf.evict? (now : Float) : Shelf → Option (Nat × Shelf)
  | .counters s => let r := s.evict now; some (r.1, .counters r.2)
  | .histograms s => let r := s.evict now; some (r.1, .histograms r.2)
  | .broken => none

/-- Stores that are swept again and again. -/
structure Sweeper where
  shelves : List Shelf
  /-- The seconds between two passes, if they are a number for which a clock can be set. -/
  interval : Option Float := none
  /-- The count of passes so far. -/
  passes : Nat := 0
  stopped : Bool := false

/-- The most seconds for which a clock can be set. -/
def longestWait : Float := 9223372036.0

/-- Whether a clock can be set for a number of seconds. -/
def isWaitable (seconds : Float) : Bool :=
  !(longestWait < seconds)

namespace Sweeper

/-- The count of entries evicted from stores, and the stores.  Each store reads a clock of its
own. -/
def evictEach (clock : Nat → Float) : List Shelf → Nat × List Shelf
  | [] => (0, [])
  | s :: ss =>
    let (rest, ss) := evictEach (fun i => clock (i + 1)) ss
    match s.evict? (clock 0) with
    | none => (rest, s :: ss)
    | some (n, s) => (n + rest, s :: ss)

/-- One pass over all stores: the count of evicted entries, and the sweeper. -/
def sweepAt (w : Sweeper) (clock : Nat → Float) : Nat × Sweeper :=
  let (removed, shelves) := evictEach clock w.shelves
  (removed, { w with shelves, passes := w.passes + 1 })

/-- One pass while the clocks of all stores show the same. -/
def sweep (w : Sweeper) (now : Float) : Nat × Sweeper :=
  w.sweepAt fun _ => now

/-- The sweeper after a run that is stopped during the last of some passes.  One that is stopped
already makes no pass, one whose interval no clock can be set for ends at once, and any other one
makes a pass at least. -/
def run (w : Sweeper) (now : Float) (passes : Nat) : Sweeper :=
  if w.stopped || !w.interval.any isWaitable then { w with stopped := true }
  else { (List.range (max 1 passes)).foldl (fun w _ => (w.sweep now).2) w with stopped := true }

end Sweeper

end MetricRelay.Delta
