/-
What running totals add up.

Both kinds of stores hold the left fold of the readings that count (`Holds`).  For scalar readings
that is the sum of their values, each new one added to the total before it; for histograms it is the
sum of the counts, of the sums and, as step functions, of the buckets:

* `lookup?_run` — what a store of either kind holds after any history.
-/
import MetricRelay.Proofs.Delta.History
import MetricRelay.Proofs.Histogram.Strays

namespace MetricRelay

open Histogram Delta

/-- A scalar reading that adds up a first one and further ones: the values from the left, each new
one plus the total before it, under the heading of the last. -/
structure Scalar.IsSum (first : Scalar) (rest : List Scalar) (t : Scalar) : Prop where
  value : t.value = (rest.map Scalar.value).foldl (fun total v => v + total) first.value
  heading : t.toHeading = ((first :: rest).getLast (List.cons_ne_nil _ _)).toHeading

/-- A histogram that adds up a first one and further ones: the counts, the sums from the left and
the buckets, as long as no two bounds of one reading are equal, under the heading of the last. -/
structure HistogramReading.IsSum (first : HistogramReading) (rest : List HistogramReading)
    (t : HistogramReading) : Prop where
  count : t.count = first.count + (rest.map HistogramReading.count).sum
  sum : t.sum = (rest.map HistogramReading.sum).foldl (fun total v => total + v) first.sum
  buckets : (∀ r ∈ first :: rest, AreBounds (places r.buckets)) →
    AddsUp ((first :: rest).map HistogramReading.buckets) t.buckets
  heading : t.toHeading = ((first :: rest).getLast (List.cons_ne_nil _ _)).toHeading

theorem Scalar.isSum_foldl (first : Scalar) (rest : List Scalar) :
    Scalar.IsSum first rest (rest.foldl Accumulates.merge first) := by
  induction rest using List.reverseRecOn with
  | nil => exact ⟨rfl, rfl⟩
  | append_singleton rest r ih =>
    rw [List.foldl_concat]
    constructor
    · rw [List.map_append, List.map_singleton, List.foldl_concat, ← ih.value]
      rfl
    · simp only [← List.cons_append, List.getLast_concat]
      rfl

theorem HistogramReading.isSum_foldl (first : HistogramReading) (rest : List HistogramReading) :
    HistogramReading.IsSum first rest (rest.foldl Accumulates.merge first) := by
  induction rest using List.reverseRecOn with
  | nil =>
    refine ⟨(Int.add_zero _).symm, rfl, fun h => ?_, rfl⟩
    exact addsUp_single (h first List.mem_cons_self)
  | append_singleton rest r ih =>
    rw [List.foldl_concat]
    constructor
    · rw [List.map_append, List.sum_append, ← Int.add_assoc, ← ih.count]
      simp only [List.map_singleton, List.sum_singleton]
      rfl
    · rw [List.map_append, List.map_singleton, List.foldl_concat, ← ih.sum]
      rfl
    · intro h
      rw [← List.cons_append] at h ⊢
      rw [List.map_append]
      exact (ih.buckets fun q hq => h q (List.mem_append_left _ hq)).concat
        (h r (List.mem_append_right _ (List.mem_singleton_self r)))
    · simp only [← List.cons_append, List.getLast_concat]
      rfl

namespace Delta

/-- **A store is a function of its history.**  After any history, whatever the clock has shown, a
store of scalar readings and one of histograms hold of every pair of a type and a label key what the
history says: an entry exactly if a reading of the pair came after the last step that forgot it,
with the sum of those readings since then that were newer than all before them, each counted once,
under the heading of the last of these. -/
theorem lookup?_run (ttl : Float) (type : Json.Key) (key : String) :
    (∀ h : History Scalar, Holds Scalar.toHeading Scalar.IsSum ttl type key h) ∧
    ∀ h : History HistogramReading,
      Holds HistogramReading.toHeading HistogramReading.IsSum ttl type key h :=
  ⟨holds_run Scalar.isSum_foldl ttl type key, holds_run HistogramReading.isSum_foldl ttl type key⟩

/-- A counter of jobs at a time. -/
def jobsAt (time : Int) (value : Float) : Scalar :=
  { name := "jobs", help := .null, kind := .counter, labels := [], time := ⟨time⟩, value }

/-- A histogram of jobs at a time with one finite bound. -/
def jobTimesAt (time : Int) (bound : Float) (below count : Int) (sum : Float) : HistogramReading :=
  { name := "jobs", help := .null, kind := .counter, labels := [], time := ⟨time⟩
    count, sum, buckets := [(bound, below), (Decimal.infinity, count)] }

/-- Two counters that are added up, and an older one that only keeps the pair alive. -/
def jobsHistory : History Scalar :=
  [⟨20, .increment (.text "t") (jobsAt 1 9)⟩, ⟨10, .increment (.text "t") (jobsAt 2 2)⟩,
    ⟨0, .increment (.text "t") (jobsAt 1 5)⟩]

/-- Two histograms of different layouts. -/
def jobTimesHistory : History HistogramReading :=
  [⟨10, .increment (.text "t") (jobTimesAt 2 4 1 6 2.5)⟩,
    ⟨0, .increment (.text "t") (jobTimesAt 1 2 3 5 1.5)⟩]

/-- Values 5 and 2 make 7; counts 5 and 6 make 11, and the buckets add up at the bounds of both. -/
theorem lookup?_run_jobs :
    (((Store.empty 30).run jobsHistory).lookup? (.text "t") "jobs|").map
        (fun x => (x.total.value, x.total.time.micros)) = some (7, 2) ∧
    (((Store.empty 30).run jobTimesHistory).lookup? (.text "t") "jobs|").map
        (fun x => (x.total.count, x.total.sum, x.total.buckets))
      = some (11, 4, [(2, 3), (4, 4), (Decimal.infinity, 11)]) := by
  obtain ⟨hscalar, hhistogram⟩ := lookup?_run 30 (.text "t") "jobs|"
  constructor
  · have htotal := congrArg (Option.map fun t : Scalar => (t.value, t.time.micros))
      (hscalar jobsHistory).total_eq
    rw [Option.map_map] at htotal
    exact htotal.trans (by decide +kernel)
  · have htotal := congrArg (Option.map fun t : HistogramReading => (t.count, t.sum, t.buckets))
      (hhistogram jobTimesHistory).total_eq
    rw [Option.map_map] at htotal
    exact htotal.trans (by decide +kernel)

end Delta

end MetricRelay
