/-
Sums of any number of histograms.

A summation says in which order and in which groups readings are merged.  Its total is, as a step
function, the sum of its readings, and its bounds are theirs in ascending order (`isTotal_total`),
so that two summations of the same readings have the same buckets:

* `sameBuckets_of_countAt` — ascending buckets are determined by their places and values;
* `sameBuckets_of_perm` — the order and the groups do not matter.

Of bounds that compare equal a sum keeps the one that it meets first.  For the two zeros that
depends on the order, so that buckets are compared with the equality of bounds.
-/
import MetricRelay.Proofs.Histogram.Merge
import MetricRelay.Reading

namespace MetricRelay.Histogram

open Decimal

/-! ### Buckets that are the same -/

/-- The same counts under equal bounds, in one order. -/
def SameBuckets (b c : Buckets) : Prop :=
  List.Forall₂ (fun d e => (d.1 == e.1) = true ∧ d.2 = e.2) b c

/-- Ascending bounds are determined by their ranks. -/
theorem map_rank_eq {bs cs : List Float} (hb : bs.Pairwise (· < ·)) (hc : cs.Pairwise (· < ·))
    (h : ∀ r, (∃ b ∈ bs, rank b = r) ↔ ∃ c ∈ cs, rank c = r) : bs.map rank = cs.map rank := by
  have hasc : ∀ {ds : List Float}, ds.Pairwise (· < ·) → (ds.map rank).Pairwise (· < ·) := fun hd =>
    List.pairwise_map.mpr (hd.imp fun hlt => ((lt_iff_rank _ _).mp hlt).2.2)
  refine (hasc hb).eq_of_mem_iff (hasc hc) fun r => ?_
  simpa only [List.mem_map] using h r

/-- Buckets are their bounds with the values there. -/
theorem map_countAt_keys {buckets : Buckets} (h : AreBounds (Assoc.keys buckets)) :
    (Assoc.keys buckets).map (fun b => (b, countAt buckets b)) = buckets := by
  rw [Assoc.keys, List.map_map]
  refine (List.map_congr_left fun e he => ?_).trans (List.map_id _)
  have hvalue : countAt buckets e.1 = e.2 :=
    countAt_of_greatest h he (h.numbers e.1 (List.mem_map_of_mem he)) (le_refl _) fun _ _ hb => hb
  exact Prod.ext rfl hvalue

/-- Ascending buckets with the same places and values are the same. -/
theorem sameBuckets_of_countAt {b c : Buckets} (hb : AreBounds (Assoc.keys b))
    (hc : AreBounds (Assoc.keys c)) (hranks : (Assoc.keys b).map rank = (Assoc.keys c).map rank)
    (hvalues : ∀ x, countAt b x = countAt c x) : SameBuckets b c := by
  rw [SameBuckets, ← map_countAt_keys hb, ← map_countAt_keys hc, List.forall₂_map_left_iff,
    List.forall₂_map_right_iff]
  rw [← List.forall₂_eq_eq_eq, List.forall₂_map_left_iff, List.forall₂_map_right_iff,
    List.forall₂_iff_zip] at hranks
  refine List.forall₂_iff_zip.mpr ⟨hranks.1, fun {x y} hxy => ?_⟩
  have hx := hb.numbers x (List.of_mem_zip hxy).1
  have hy := hc.numbers y (List.of_mem_zip hxy).2
  have hrank : rank x = rank y := hranks.2 hxy
  refine ⟨(beq_iff_rank x y).mpr ⟨hx, hy, hrank⟩, ?_⟩
  rw [hvalues]
  exact countAt_congr hc hx hy fun _ _ => by rw [hrank]

theorem SameBuckets.refl {buckets : Buckets} (h : AreBounds (Assoc.keys buckets)) :
    SameBuckets buckets buckets :=
  sameBuckets_of_countAt h h rfl fun _ => rfl

/-! ### Summations -/

/-- An order and groups in which readings are merged. -/
inductive Summation where
  | reading (r : HistogramReading)
  | merged (older newer : Summation)

namespace Summation

/-- The readings that are merged. -/
def readings : Summation → List HistogramReading
  | reading r => [r]
  | merged older newer => older.readings ++ newer.readings

/-- The outcome of all merges. -/
def total : Summation → HistogramReading
  | reading r => r
  | merged older newer => older.total.merge newer.total

/-- The values of readings at a place, added up. -/
def valueAt (rs : List HistogramReading) (x : Float) : Int :=
  (rs.map fun r => countAt r.buckets x).sum

/-- Buckets that are the sum of readings: a single reading's own, or ascending ones with the places
and the values of all of them. -/
structure IsTotal (rs : List HistogramReading) (buckets : Buckets) : Prop where
  areBounds : AreBounds (Assoc.keys buckets)
  ranks : ∀ r, (∃ b ∈ Assoc.keys buckets, rank b = r) ↔
    ∃ h ∈ rs, ∃ b ∈ Assoc.keys h.buckets, rank b = r
  values : ∀ x, countAt buckets x = valueAt rs x
  ordered : (∃ r, rs = [r] ∧ buckets = r.buckets) ∨
    1 < rs.length ∧ (Assoc.keys buckets).Pairwise (· < ·)

theorem isTotal_reading {r : HistogramReading} (h : AreBounds (Assoc.keys r.buckets)) :
    IsTotal [r] r.buckets where
  areBounds := h
  ranks _ := by simp
  values _ := by simp [valueAt]
  ordered := Or.inl ⟨r, rfl, rfl⟩

namespace IsTotal

variable {rs qs : List HistogramReading} {b c : Buckets}

theorem length_pos (h : IsTotal rs b) : 0 < rs.length := by
  rcases h.ordered with ⟨r, rfl, -⟩ | ⟨hlength, -⟩
  · exact Nat.one_pos
  · omega

theorem merge (hb : IsTotal rs b) (hc : IsTotal qs c) :
    IsTotal (rs ++ qs) (Histogram.merge b c) where
  areBounds := by
    rw [keys_merge hb.areBounds hc.areBounds]
    exact areBounds_mergedBounds hb.areBounds hc.areBounds
  ranks r := by
    rw [keys_merge hb.areBounds hc.areBounds, exists_mergedBounds_iff, hb.ranks, hc.ranks]
    simp only [List.mem_append, or_and_right, exists_or]
  values x := by
    rw [countAt_merge hb.areBounds hc.areBounds, hb.values, hc.values, valueAt, valueAt, valueAt,
      List.map_append, List.sum_append]
  ordered := by
    refine Or.inr ⟨?_, ?_⟩
    · have := hb.length_pos
      have := hc.length_pos
      rw [List.length_append]
      omega
    · rw [keys_merge hb.areBounds hc.areBounds]
      exact pairwise_sortBounds (hb.areBounds.union hc.areBounds)

/-- Sums of the same readings are the same. -/
theorem sameBuckets (hb : IsTotal rs b) (hc : IsTotal qs c) (hp : rs.Perm qs) :
    SameBuckets b c := by
  have hranks : ∀ r, (∃ x ∈ Assoc.keys b, rank x = r) ↔ ∃ x ∈ Assoc.keys c, rank x = r := by
    intro r
    rw [hb.ranks, hc.ranks]
    simp only [hp.mem_iff]
  have hvalues : ∀ x, countAt b x = countAt c x := by
    intro x
    rw [hb.values, hc.values]
    exact (hp.map _).sum_eq
  have hlength := hp.length_eq
  rcases hb.ordered with ⟨r, rfl, rfl⟩ | ⟨hrs, hbasc⟩
  · -- a single reading is its own sum
    rcases hc.ordered with ⟨q, rfl, rfl⟩ | ⟨hqs, -⟩
    · obtain rfl : r = q := by simpa using hp
      exact SameBuckets.refl hb.areBounds
    · simp only [List.length_singleton] at hlength
      omega
  · rcases hc.ordered with ⟨q, rfl, rfl⟩ | ⟨-, hcasc⟩
    · simp only [List.length_singleton] at hlength
      omega
    · exact sameBuckets_of_countAt hb.areBounds hc.areBounds
        (map_rank_eq hbasc hcasc hranks) hvalues

end IsTotal

/-- The total of a summation is the sum of its readings. -/
theorem isTotal_total (s : Summation) (h : ∀ r ∈ s.readings, AreBounds (Assoc.keys r.buckets)) :
    IsTotal s.readings s.total.buckets := by
  induction s with
  | reading r => exact isTotal_reading (h r (List.mem_singleton_self r))
  | merged older newer hold hnew =>
    exact (hold fun r hr => h r (List.mem_append_left _ hr)).merge
      (hnew fun r hr => h r (List.mem_append_right _ hr))

/-- The order and the groups of a summation do not matter. -/
theorem sameBuckets_of_perm {s t : Summation} (hp : s.readings.Perm t.readings)
    (h : ∀ r ∈ s.readings, AreBounds (Assoc.keys r.buckets)) :
    SameBuckets s.total.buckets t.total.buckets :=
  (isTotal_total s h).sameBuckets (isTotal_total t fun r hr => h r (hp.mem_iff.mpr hr)) hp

end Summation

/-- **Merging histograms adds step functions.**  Whatever the layouts of two readings are, as long
as their bounds are numbers, the merged one has the sum of both values at every place, listed or
not, and its bounds are those of both in ascending order.  So any number of readings has one sum, in
whatever order and groups they are merged. -/
theorem merge_adds :
    (∀ older newer : HistogramReading,
      AreBounds (Assoc.keys older.buckets) → AreBounds (Assoc.keys newer.buckets) →
      (∀ x, countAt (older.merge newer).buckets x
        = countAt older.buckets x + countAt newer.buckets x) ∧
      (Assoc.keys (older.merge newer).buckets).Pairwise (· < ·) ∧
      ∀ x, Assoc.has (older.merge newer).buckets x
        = (Assoc.has older.buckets x || Assoc.has newer.buckets x)) ∧
    ∀ s t : Summation, s.readings.Perm t.readings →
      (∀ r ∈ s.readings, AreBounds (Assoc.keys r.buckets)) →
      SameBuckets s.total.buckets t.total.buckets := by
  refine ⟨fun older newer ho hn => ⟨countAt_merge ho hn, ?_, has_merge ho hn⟩,
    fun s t hp h => Summation.sameBuckets_of_perm hp h⟩
  have hkeys : Assoc.keys (older.merge newer).buckets = mergedBounds older.buckets newer.buckets :=
    keys_merge ho hn
  rw [hkeys]
  exact pairwise_sortBounds (ho.union hn)

/-- A reading with given buckets. -/
def readingOf (buckets : Buckets) : HistogramReading :=
  { name := "latency", help := .null, kind := .counter, labels := [], time := ⟨0⟩
    count := 0, sum := 0, buckets }

/-- Three layouts: one with a bound below zero, one with the other zero, one without positive
infinity. -/
theorem merge_adds_threeLayouts :
    let p := readingOf [(-1, 2), (0, 3), (infinity, 5)]
    let q := readingOf [(-0, 1), (infinity, 4)]
    let r := readingOf [(2, 7), (4, 8)]
    AreBounds (Assoc.keys p.buckets) ∧ AreBounds (Assoc.keys q.buckets) ∧
    countAt (p.merge q).buckets 1 = 4 ∧
    SameBuckets ((p.merge q).merge r).buckets (r.merge (q.merge p)).buckets := by
  intro p q r
  have hp : AreBounds (Assoc.keys p.buckets) := ⟨by decide, by decide⟩
  have hq : AreBounds (Assoc.keys q.buckets) := ⟨by decide, by decide⟩
  have hr : AreBounds (Assoc.keys r.buckets) := ⟨by decide, by decide⟩
  have hall : ∀ h ∈ [p, q, r], AreBounds (Assoc.keys h.buckets) := by
    simp only [List.mem_cons, List.not_mem_nil, or_false, forall_eq_or_imp, forall_eq]
    exact ⟨hp, hq, hr⟩
  refine ⟨hp, hq, (merge_adds.1 p q hp hq).1 1, ?_⟩
  exact merge_adds.2 (.merged (.merged (.reading p) (.reading q)) (.reading r))
    (.merged (.reading r) (.merged (.reading q) (.reading p))) (List.reverse_perm _).symm hall

end MetricRelay.Histogram
