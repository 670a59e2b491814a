/-
Sums of histograms in which bounds may be NaN.

NaN is no place of a step function.  A sum keeps the buckets with that bound as they are, behind
those whose bound is a number, and adds up the latter as if the others were not there:

* `numbered_merge`, `strays_merge` — the two parts of a sum are the sums of the two parts;
* `AddsUp.concat` — what buckets add up, one histogram at a time.
-/
import MetricRelay.Proofs.Histogram.Merge

namespace MetricRelay.Histogram

open Decimal

/-- The buckets whose bound is a number. -/
def numbered (buckets : Buckets) : Buckets :=
  buckets.filter fun b => !b.1.isNaN

theorem keys_numbered (buckets : Buckets) : Assoc.keys (numbered buckets) = places buckets := by
  rw [places, Assoc.keys, Assoc.keys, List.filter_map]
  rfl

/-- NaN is found under no key, and no number is found under NaN. -/
theorem get?_numbered (buckets : Buckets) (x : Float) :
    Assoc.get? (numbered buckets) x = Assoc.get? buckets x := by
  induction buckets with
  | nil => rfl
  | cons e es ih =>
    rw [numbered, List.filter_cons, Assoc.get?_cons]
    cases he : e.1.isNaN with
    | true =>
      have hne : (e.1 == x) = false :=
        Bool.eq_false_iff.mpr fun h => by
          rw [((beq_iff_rank e.1 x).mp h).1] at he
          cases he
      rw [hne]
      exact ih
    | false =>
      show Assoc.get? (e :: numbered es) x = _
      rw [Assoc.get?_cons, ih]

theorem has_numbered (buckets : Buckets) (x : Float) :
    Assoc.has (numbered buckets) x = Assoc.has buckets x := by
  rw [Assoc.has, get?_numbered, Assoc.has]

theorem nearestBelow?_places (buckets : Buckets) (x : Float) :
    nearestBelow? x (places buckets) = nearestBelow? x (Assoc.keys buckets) := by
  have hfilter : (places buckets).filter (fun b => decide (b < x))
      = (Assoc.keys buckets).filter fun b => decide (b < x) := by
    rw [places, List.filter_filter]
    refine List.filter_congr fun b _ => ?_
    by_cases hb : b < x
    · rw [((lt_iff_rank b x).mp hb).1]
      exact Bool.and_true _
    · simp [hb]
  rw [nearestBelow?, hfilter, nearestBelow?]

theorem countAt_numbered (buckets : Buckets) (x : Float) :
    countAt (numbered buckets) x = countAt buckets x := by
  simp only [countAt, get?_numbered, keys_numbered, nearestBelow?_places]

theorem strays_of_isNaN_eq_false {buckets : Buckets}
    (h : ∀ b ∈ Assoc.keys buckets, b.isNaN = false) : strays buckets = [] :=
  List.filter_eq_nil_iff.mpr fun e he => by
    rw [h e.1 (List.mem_map_of_mem he)]
    exact Bool.false_ne_true

theorem numbered_of_isNaN_eq_false {buckets : Buckets}
    (h : ∀ b ∈ Assoc.keys buckets, b.isNaN = false) : numbered buckets = buckets :=
  List.filter_eq_self.mpr fun e he => by
    rw [h e.1 (List.mem_map_of_mem he)]
    rfl

theorem isNaN_of_mem_places {buckets : Buckets} {b : Float} (h : b ∈ places buckets) :
    b.isNaN = false := by
  simpa using (List.mem_filter.mp h).2

theorem places_numbered (buckets : Buckets) : places (numbered buckets) = places buckets := by
  rw [places, keys_numbered, places, List.filter_filter]
  exact List.filter_congr fun x _ => Bool.and_self _

theorem strays_numbered (buckets : Buckets) : strays (numbered buckets) = [] :=
  strays_of_isNaN_eq_false fun _ hx => isNaN_of_mem_places (keys_numbered buckets ▸ hx)

/-- A sum is that of the numbered buckets with the strays of both behind. -/
theorem merge_eq_append (older newer : Buckets) :
    merge older newer
      = merge (numbered older) (numbered newer) ++ (strays older ++ strays newer) := by
  simp only [merge, places_numbered, strays_numbered, countAt_numbered, List.append_nil,
    List.append_assoc]

theorem keys_merge_numbered (older newer : Buckets) :
    Assoc.keys (merge (numbered older) (numbered newer))
      = sortBounds (unionBounds (places older) (places newer)) := by
  rw [merge, places_numbered, places_numbered, strays_numbered, strays_numbered, List.append_nil,
    List.append_nil, Assoc.keys, List.map_map]
  exact List.map_id _

theorem isNaN_of_mem_keys_merge_numbered {older newer : Buckets} {b : Float}
    (h : b ∈ Assoc.keys (merge (numbered older) (numbered newer))) : b.isNaN = false := by
  rw [keys_merge_numbered, mem_sortBounds, unionBounds, List.mem_append, List.mem_filter] at h
  rcases h with h | ⟨h, -⟩
  · exact isNaN_of_mem_places h
  · exact isNaN_of_mem_places h

/-- The numbered buckets of a sum are the sum of the numbered buckets. -/
theorem numbered_merge (older newer : Buckets) :
    numbered (merge older newer) = merge (numbered older) (numbered newer) := by
  have hnone : numbered (strays older ++ strays newer) = [] :=
    List.filter_eq_nil_iff.mpr fun e he => by
      have hnan : e.1.isNaN = true := by
        rcases List.mem_append.mp he with he | he
        · exact (List.mem_filter.mp he).2
        · exact (List.mem_filter.mp he).2
      rw [hnan]
      exact Bool.false_ne_true
  calc numbered (merge older newer)
      = numbered (merge (numbered older) (numbered newer))
        ++ numbered (strays older ++ strays newer) := by
          rw [merge_eq_append]
          exact List.filter_append _ _
    _ = merge (numbered older) (numbered newer) := by
          rw [hnone, List.append_nil,
            numbered_of_isNaN_eq_false fun _ => isNaN_of_mem_keys_merge_numbered]

/-- A sum keeps all strays. -/
theorem strays_merge (older newer : Buckets) :
    strays (merge older newer) = strays older ++ strays newer := by
  have hself : ∀ b : Buckets, strays (strays b) = strays b := fun b => by
    rw [strays, strays, List.filter_filter]
    exact List.filter_congr fun e _ => Bool.and_self _
  calc strays (merge older newer)
      = strays (merge (numbered older) (numbered newer))
        ++ (strays (strays older) ++ strays (strays newer)) := by
          rw [merge_eq_append]
          exact (List.filter_append _ _).trans (congrArg _ (List.filter_append _ _))
    _ = strays older ++ strays newer := by
          rw [strays_of_isNaN_eq_false fun _ => isNaN_of_mem_keys_merge_numbered, hself, hself,
            List.nil_append]

/-! ### What buckets add up -/

/-- Buckets that add up those of some histograms: their value at every place is the sum of all
values there, they have the bounds of all, and the strays of all.  Those of a single histogram are
its own; otherwise the places ascend and the strays come last. -/
structure AddsUp (parts : List Buckets) (buckets : Buckets) : Prop where
  areBounds : AreBounds (places buckets)
  values : ∀ x, countAt buckets x = (parts.map fun p => countAt p x).sum
  has : ∀ x, Assoc.has buckets x = parts.any fun p => Assoc.has p x
  strays : strays buckets = parts.flatMap strays
  ordered : parts = [buckets] ∨
    (places buckets).Pairwise (· < ·) ∧ buckets = numbered buckets ++ Histogram.strays buckets

theorem addsUp_single {buckets : Buckets} (h : AreBounds (places buckets)) :
    AddsUp [buckets] buckets where
  areBounds := h
  values _ := by simp
  has _ := by simp
  strays := by simp
  ordered := Or.inl rfl

/-- The sum with a further histogram adds up that one too. -/
theorem AddsUp.concat {parts : List Buckets} {buckets : Buckets} (h : AddsUp parts buckets)
    {p : Buckets} (hp : AreBounds (places p)) : AddsUp (parts ++ [p]) (merge buckets p) := by
  have hb : AreBounds (Assoc.keys (numbered buckets)) := by
    rw [keys_numbered]
    exact h.areBounds
  have hn : AreBounds (Assoc.keys (numbered p)) := by
    rw [keys_numbered]
    exact hp
  have hplaces : places (merge buckets p) = mergedBounds (numbered buckets) (numbered p) := by
    rw [← keys_numbered, numbered_merge, keys_merge hb hn]
  constructor
  · rw [hplaces]
    exact areBounds_mergedBounds hb hn
  · intro x
    rw [← countAt_numbered, numbered_merge, countAt_merge hb hn, countAt_numbered, countAt_numbered,
      h.values, List.map_append, List.sum_append, List.map_singleton, List.sum_singleton]
  · intro x
    rw [← has_numbered, numbered_merge, has_merge hb hn, has_numbered, has_numbered, h.has,
      List.any_append, List.any_cons, List.any_nil, Bool.or_false]
  · rw [strays_merge, h.strays, List.flatMap_append, List.flatMap_singleton]
  · refine Or.inr ⟨?_, ?_⟩
    · rw [hplaces]
      exact pairwise_sortBounds (hb.union hn)
    · rw [numbered_merge, strays_merge]
      exact merge_eq_append buckets p

end MetricRelay.Histogram
