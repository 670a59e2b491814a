/-
Adding two histograms.

Cumulative buckets stand for a step function: at a bound that is not listed it has the value of the
nearest listed bound below, and zero below all of them.  `merge` adds two step functions over the
bounds of both, in ascending order.  NaN is no place of a step function: a bucket with that bound is
kept as it is.
-/
import MetricRelay.Histogram.Buckets

namespace MetricRelay.Histogram

/-- The greater of two bounds, the first of equal ones. -/
def greater (a b : Float) : Float :=
  if a < b then b else a

/-- The greatest of the bounds below a given one. -/
def nearestBelow? (b : Float) (bs : List Float) : Option Float :=
  match bs.filter (· < b) with
  | [] => none
  | c :: cs => some (cs.foldl greater c)

/-- The count of all observations up to a bound, listed or not. -/
def countAt (buckets : Buckets) (b : Float) : Int :=
  match Assoc.get? buckets b with
  | some n => n
  | none =>
    match nearestBelow? b (Assoc.keys buckets) with
    | some lower => (Assoc.get? buckets lower).getD 0
    | none => 0

/-- Ascending bounds with one more, after those that it does not come before. -/
def insertBound (b : Float) : List Float → List Float
  | [] => [b]
  | c :: cs => if b < c then b :: c :: cs else c :: insertBound b cs

/-- Bounds in ascending order. -/
def sortBounds (bs : List Float) : List Float :=
  bs.foldl (fun sorted b => insertBound b sorted) []

/-- The bounds of two lists, each once; of equal ones that of the first list. -/
def unionBounds (bs cs : List Float) : List Float :=
  bs ++ cs.filter fun c => !bs.contains c

/-- The bounds of buckets that are numbers. -/
def places (buckets : Buckets) : List Float :=
  (Assoc.keys buckets).filter fun b => !b.isNaN

/-- The buckets whose bound is NaN. -/
def strays (buckets : Buckets) : Buckets :=
  buckets.filter fun b => b.1.isNaN

/-- The sum of two histograms' buckets. -/
def merge (older newer : Buckets) : Buckets :=
  (sortBounds (unionBounds (places older) (places newer))).map
      (fun b => (b, countAt older b + countAt newer b))
    ++ strays older ++ strays newer

end MetricRelay.Histogram
