/-
Cumulative buckets of a distribution.

A distribution's layout gives finite bounds, and positive infinity closes them.  The counts of the
single buckets are added up from the first on in 64-bit words; bounds without a count carry the
total.  Bounds that compare equal are one bucket, at the place of the first and with the count of
the last.
-/
import MetricRelay.Monitoring.Distribution

namespace MetricRelay.Histogram

open Monitoring

/-- Upper bounds with the counts of all observations up to them. -/
abbrev Buckets := Assoc Float Int

/-- The count of 64-bit words; the signed ones lie between minus half of it and half of it. -/
def wordCount : Nat := 18446744073709551616

/-- The most bounds for which there is room where nothing else is said. -/
def defaultRoom : Nat := 100000000

/-- The bytes of a bound. -/
def boundSize : Nat := 8

/-- How many bounds a layout asks for: one more than it has finite buckets, rounded to a double.  A
size beyond signed words is refused, except for the one just beyond, which wraps around to no
bounds; so is a size in bytes beyond them, and one of more bounds than there is room for. -/
def boundCount (room : Nat) (finiteBuckets : Int) : Except Fault Nat := do
  let wanted := (Decimal.ofInt? (finiteBuckets + 1)).bind Decimal.truncate?
  match wanted with
  | none => .error .tooLarge
  | some n =>
    let half : Int := wordCount / 2
    if n < -half ∨ half < n then .error .tooManyBuckets
    else if n = half then .ok 0
    else if half ≤ n * boundSize then .error .tooManyBuckets
    else if room < n then .error .noRoom
    else .ok n.toNat

/-- The finite bounds of the layout that a distribution declares: of several the explicit one, then
the linear one.  A layout of `n` finite buckets has `n + 1` of them. -/
def finiteBounds (room : Nat) (options : BucketOptions) : Except Fault (List Float) :=
  match options.explicit, options.linear, options.exponential with
  | some bounds, _, _ => .ok bounds
  | none, some l, _ =>
    (boundCount room l.finiteBuckets).map fun n =>
      (List.range n).map fun i => l.offset + Float.ofNat i * l.width
  | none, none, some e =>
    (boundCount room e.finiteBuckets).map fun n =>
      (List.range n).map fun i => e.scale * e.growth.pow (Float.ofNat i)
  | none, none, none => .error .unknownBuckets

/-- All bounds of a layout. -/
def bounds (room : Nat) (options : BucketOptions) : Except Fault (List Float) :=
  (finiteBounds room options).map (· ++ [Decimal.infinity])

/-- Whether a number fits a signed 64-bit word. -/
def fitsWord (n : Int) : Bool :=
  -(wordCount / 2 : Nat) ≤ n && n < (wordCount / 2 : Nat)

/-- The signed 64-bit word with the same low bits. -/
def toWord (n : Int) : Int :=
  Int.bmod n wordCount

/-- The first `n` counts, with zeros for those that are missing. -/
def aligned (n : Nat) (counts : List Int) : List Int :=
  counts.take n ++ List.replicate (n - counts.length) 0

/-- The totals of counts from the first one on, in words. -/
def totalsFrom (total : Int) : List Int → List Int
  | [] => []
  | c :: cs => toWord (total + c) :: totalsFrom (toWord (total + c)) cs

/-- The cumulative buckets of a distribution.  Counts that do not fit a word are refused, unless
they lie beyond the bounds. -/
def ofDistribution (room : Nat) (d : Distribution) : Except Fault Buckets := do
  let bs ← bounds room d.options
  if (d.bucketCounts.take bs.length).all fitsWord then
    .ok (Assoc.ofEntries (bs.zip (totalsFrom 0 (aligned bs.length d.bucketCounts))))
  else .error .tooLarge

end MetricRelay.Histogram
