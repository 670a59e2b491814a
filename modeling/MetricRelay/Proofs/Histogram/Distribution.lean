/-
The cumulative buckets of a distribution.

The count at a bound is the total of the counts of all buckets up to the last place where the bound
stands; counts that are missing are zero, and those beyond the bounds do not matter.

* `totalsFrom_eq` — a total in words is the word of the sum;
* `ofDistribution_eq_ok` — the buckets of a distribution whose bounds can be laid out;
* `exists_ofDistribution_eq_ok` — its keys and values, and that they are cumulative if the bounds
  ascend.
-/
import MetricRelay.Proofs.Except
import MetricRelay.Proofs.Histogram.Layout
import MetricRelay.Proofs.Histogram.Merge

namespace MetricRelay.Histogram

open Decimal Monitoring

/-! ### Totals -/

theorem toWord_of_fitsWord {n : Int} (h : fitsWord n = true) : toWord n = n := by
  simp only [fitsWord, Bool.and_eq_true, decide_eq_true_eq] at h
  have hhalf : ((wordCount / 2 : Nat) : Int) = 9223372036854775808 := rfl
  have hcount : (wordCount : Int) = 18446744073709551616 := rfl
  exact Int.bmod_eq_of_le (by omega) (by omega)

/-- The totals of the first counts, up to each of `n` places. -/
def runningTotals (n : Nat) (counts : List Int) : List Int :=
  (List.range n).map fun j => (counts.take (j + 1)).sum

/-- A total in words is the word of the sum. -/
theorem totalsFrom_eq (total : Int) (counts : List Int) :
    totalsFrom total counts
      = (List.range counts.length).map fun j => toWord (total + (counts.take (j + 1)).sum) := by
  -- on the counts, for every total that stands before them
  induction counts generalizing total with
  | nil => rfl
  | cons c counts ih =>
    have hlater : ∀ n, toWord (toWord (total + c) + n) = toWord (total + (c + n)) := fun n => by
      rw [← add_assoc]
      exact Int.bmod_add_bmod
    rw [totalsFrom, ih]
    simp [List.range_succ_eq_map, Function.comp_def, hlater]

theorem length_aligned (n : Nat) (counts : List Int) : (aligned n counts).length = n := by
  rw [aligned, List.length_append, List.length_take, List.length_replicate]
  omega

theorem sum_take_aligned {n k : Nat} (hk : k ≤ n) (counts : List Int) :
    ((aligned n counts).take k).sum = (counts.take k).sum := by
  rw [aligned, List.take_append, List.take_take, min_eq_left hk, List.sum_append,
    List.take_replicate, List.sum_replicate, smul_zero, add_zero]

theorem totalsFrom_aligned (n : Nat) (counts : List Int) :
    totalsFrom 0 (aligned n counts) = (runningTotals n counts).map toWord := by
  rw [totalsFrom_eq, length_aligned, runningTotals, List.map_map]
  refine List.map_congr_left fun j hj => ?_
  rw [zero_add, sum_take_aligned (List.mem_range.mp hj)]
  rfl

theorem map_toWord_runningTotals {n : Nat} {counts : List Int}
    (h : ∀ k ≤ n, fitsWord (counts.take k).sum = true) :
    (runningTotals n counts).map toWord = runningTotals n counts := by
  rw [runningTotals, List.map_map]
  exact List.map_congr_left fun j hj => toWord_of_fitsWord (h (j + 1) (List.mem_range.mp hj))

theorem sum_take_mono {counts : List Int} {n : Nat} (h : ∀ c ∈ counts.take n, 0 ≤ c) {i j : Nat}
    (hij : i ≤ j) (hj : j ≤ n) : (counts.take i).sum ≤ (counts.take j).sum := by
  have hsplit := List.take_append_drop i (counts.take j)
  rw [List.take_take, min_eq_left hij] at hsplit
  rw [← hsplit, List.sum_append]
  refine le_add_of_nonneg_right (List.sum_nonneg fun c hc => h c ?_)
  exact List.take_subset_take_left counts hj (List.mem_of_mem_drop hc)

theorem pairwise_runningTotals {counts : List Int} {n : Nat} (h : ∀ c ∈ counts.take n, 0 ≤ c) :
    (runningTotals n counts).Pairwise (· ≤ ·) := by
  rw [runningTotals, List.pairwise_map]
  refine List.Pairwise.imp_of_mem ?_ List.pairwise_lt_range
  intro i j _ hj hij
  exact sum_take_mono h (by omega) (List.mem_range.mp hj)

/-! ### Buckets -/

/-- The bounds of a layout, closed by positive infinity. -/
def closed (finite : List Float) : List Float :=
  finite ++ [infinity]

section

variable {room : Nat} {d : Distribution} {finite : List Float}

/-- The buckets of a distribution are its bounds with the running totals in words, written one after
the other. -/
theorem ofDistribution_eq_ok_iff {buckets : Buckets} :
    ofDistribution room d = .ok buckets ↔ ∃ finite, finiteBounds room d.options = .ok finite ∧
      (∀ c ∈ d.bucketCounts.take (closed finite).length, fitsWord c = true) ∧
      buckets = Assoc.ofEntries ((closed finite).zip
        ((runningTotals (closed finite).length d.bucketCounts).map toWord)) := by
  have hclosed : ∀ finite, finiteBounds room d.options = .ok finite →
      ofDistribution room d = if (d.bucketCounts.take (closed finite).length).all fitsWord then
        .ok (Assoc.ofEntries ((closed finite).zip
          ((runningTotals (closed finite).length d.bucketCounts).map toWord)))
        else .error .tooLarge := by
    intro finite hfinite
    rw [ofDistribution, bounds, hfinite, ← totalsFrom_aligned]
    rfl
  constructor
  · intro h
    cases hfinite : finiteBounds room d.options with
    | error fault =>
      rw [ofDistribution, bounds, hfinite] at h
      cases h
    | ok finite =>
      rw [hclosed finite hfinite] at h
      split at h
      · next hfits => exact ⟨finite, rfl, List.all_eq_true.mp hfits, (Except.ok.inj h).symm⟩
      · cases h
  · rintro ⟨finite, hfinite, hfits, rfl⟩
    rw [hclosed finite hfinite, if_pos (List.all_eq_true.mpr hfits)]

/-- Where all totals fit, they are the sums themselves. -/
theorem ofDistribution_eq_ok (hbounds : finiteBounds room d.options = .ok finite)
    (hcounts : ∀ c ∈ d.bucketCounts.take (closed finite).length, fitsWord c = true)
    (htotals : ∀ k ≤ (closed finite).length, fitsWord (d.bucketCounts.take k).sum = true) :
    ofDistribution room d = .ok (Assoc.ofEntries
      ((closed finite).zip (runningTotals (closed finite).length d.bucketCounts))) := by
  rw [ofDistribution_eq_ok_iff.mpr ⟨finite, hbounds, hcounts, rfl⟩,
    map_toWord_runningTotals htotals]

theorem ofDistribution_eq_error {fault : Fault}
    (hbounds : finiteBounds room d.options = .error fault) :
    ofDistribution room d = .error fault := by
  rw [ofDistribution, bounds, hbounds]
  rfl

/-- Only a distribution without a layout is refused for that. -/
theorem ofDistribution_eq_unknownBuckets_iff :
    ofDistribution room d = .error .unknownBuckets ↔ IsUndeclared d.options := by
  rw [← finiteBounds_eq_unknownBuckets_iff]
  refine ⟨fun h => ?_, ofDistribution_eq_error⟩
  cases hfinite : finiteBounds room d.options with
  | error fault => rw [Except.error.inj ((ofDistribution_eq_error hfinite).symm.trans h)]
  | ok finite =>
    rw [ofDistribution, bounds, hfinite] at h
    obtain herror | ⟨bs, -, herror⟩ := Except.bind_eq_error_iff.mp h
    · cases herror
    · split at herror
      · cases herror
      · cases herror

theorem length_runningTotals (n : Nat) (counts : List Int) :
    (runningTotals n counts).length = n := by
  rw [runningTotals, List.length_map, List.length_range]

theorem keys_zip {bs : List Float} {totals : List Int} (h : totals.length = bs.length) :
    Assoc.keys (bs.zip totals) = bs :=
  List.map_fst_zip h.ge

theorem keys_zip_runningTotals (bs : List Float) (counts : List Int) :
    Assoc.keys (bs.zip (runningTotals bs.length counts)) = bs :=
  keys_zip (length_runningTotals bs.length counts)

/-- The last place at which a bound equal to `b` stands. -/
structure IsLastPlace (bs : List Float) (b : Float) (j : Nat) : Prop where
  holds : ∃ c, bs[j]? = some c ∧ (c == b) = true
  last : ∀ c ∈ bs.drop (j + 1), (c == b) = false

theorem exists_isLastPlace {bs : List Float} {b : Float} (h : ∃ c ∈ bs, (c == b) = true) :
    ∃ j, IsLastPlace bs b j := by
  induction bs with
  | nil => simp at h
  | cons a bs ih =>
    by_cases hlater : ∃ c ∈ bs, (c == b) = true
    · obtain ⟨j, hj⟩ := ih hlater
      exact ⟨j + 1, hj.holds, hj.last⟩
    · obtain ⟨c, hc, hcb⟩ := h
      have hnone : ∀ x ∈ bs, (x == b) = false := fun x hx =>
        Bool.eq_false_iff.mpr fun hxb => hlater ⟨x, hx, hxb⟩
      rcases List.mem_cons.mp hc with rfl | hc
      · exact ⟨0, ⟨c, rfl, hcb⟩, hnone⟩
      · exact absurd ⟨c, hc, hcb⟩ hlater

/-- Of the values that are written for a bound, that of its last place stays. -/
theorem get?_ofEntries_zip {bs : List Float} {b : Float} {j : Nat} (h : IsLastPlace bs b j)
    {totals : List Int} {total : Int} (htotal : totals[j]? = some total) :
    Assoc.get? (Assoc.ofEntries (bs.zip totals)) b = some total := by
  obtain ⟨⟨c, hc, hcb⟩, hlast⟩ := h
  obtain ⟨hj, rfl⟩ := List.getElem?_eq_some_iff.mp hc
  obtain ⟨hjt, rfl⟩ := List.getElem?_eq_some_iff.mp htotal
  have hlength : j < (bs.zip totals).length := by
    rw [List.length_zip]
    omega
  rw [← List.take_append_drop j (bs.zip totals), List.drop_eq_getElem_cons hlength,
    List.getElem_zip, Assoc.get?_ofEntries_of_last hcb]
  -- no bound behind the last place is equal to this one
  intro e he
  rw [List.zip, List.drop_zipWith] at he
  exact hlast e.1 (List.of_mem_zip he).1

theorem getElem?_runningTotals {n j : Nat} (hj : j < n) (counts : List Int) :
    (runningTotals n counts)[j]? = some (counts.take (j + 1)).sum := by
  rw [runningTotals, List.getElem?_map, List.getElem?_range hj]
  rfl

/-- The value at a bound is the total up to its last place. -/
theorem get?_ofEntries_runningTotals {bs : List Float} {b : Float} {j : Nat}
    (h : IsLastPlace bs b j) (counts : List Int) :
    Assoc.get? (Assoc.ofEntries (bs.zip (runningTotals bs.length counts))) b
      = some (counts.take (j + 1)).sum := by
  obtain ⟨c, hc, -⟩ := h.holds
  obtain ⟨hj, -⟩ := List.getElem?_eq_some_iff.mp hc
  exact get?_ofEntries_zip h (getElem?_runningTotals hj counts)

/-- Bounds that ascend have buckets that are cumulative. -/
theorem cumulative_zip_runningTotals {counts : List Int}
    (hascending : (closed finite).Pairwise (· < ·))
    (hcounts : ∀ c ∈ counts.take (closed finite).length, 0 ≤ c) :
    Cumulative ((closed finite).zip (runningTotals (closed finite).length counts))
      (counts.take (closed finite).length).sum where
  ascending := by rwa [keys_zip_runningTotals]
  nonneg e he := by
    obtain ⟨j, hj, hsum⟩ := List.mem_map.mp (List.of_mem_zip he).2
    rw [← hsum]
    exact sum_take_mono hcounts (Nat.zero_le _) (List.mem_range.mp hj)
  rising := by
    rw [List.map_snd_zip (length_runningTotals _ _).le]
    exact pairwise_runningTotals hcounts
  closed := by
    -- the last total is the one at infinity
    have hlength : (closed finite).length = finite.length + 1 := List.length_append
    have htotals : runningTotals (closed finite).length counts
        = runningTotals finite.length counts ++ [(counts.take (closed finite).length).sum] := by
      simp [runningTotals, hlength, List.range_succ]
    rw [htotals, closed, List.zip_append (length_runningTotals _ _).symm, List.getLast?_append]
    rfl

end

/-- **The buckets of a distribution.**  If there is room for the bounds that it declares, they are
numbers, and its counts and their totals fit words, then a distribution has buckets.  Their bounds
are the declared ones and positive infinity, each at its first place, and the value at a bound is
the total of the counts up to the last place of the bound.  If the bounds ascend and no count is
negative, there is a bucket for every bound, and the buckets are cumulative. -/
theorem exists_ofDistribution_eq_ok {room : Nat} {d : Distribution} {finite : List Float}
    (hdeclared : declaredBounds? d.options = some finite)
    (hroom : ∀ n, declaredCount? d.options = some n → HasRoom room n)
    (hnumbers : ∀ b ∈ finite, b.isNaN = false)
    (hcounts : ∀ c ∈ d.bucketCounts.take (closed finite).length, fitsWord c = true)
    (htotals : ∀ k ≤ (closed finite).length, fitsWord (d.bucketCounts.take k).sum = true) :
    ∃ buckets, ofDistribution room d = .ok buckets ∧
      Assoc.keys buckets = (closed finite).eraseDups ∧
      (∀ b ∈ closed finite, ∃ j, IsLastPlace (closed finite) b j ∧
        Assoc.get? buckets b = some (d.bucketCounts.take (j + 1)).sum) ∧
      ((closed finite).Pairwise (· < ·) →
        (∀ c ∈ d.bucketCounts.take (closed finite).length, 0 ≤ c) →
        Assoc.keys buckets = closed finite ∧
          Cumulative buckets (d.bucketCounts.take (closed finite).length).sum) := by
  have hbounds := finiteBounds_of_declared hdeclared hroom
  refine ⟨_, ofDistribution_eq_ok hbounds hcounts htotals, ?_, ?_, ?_⟩
  · rw [Assoc.keys_ofEntries, keys_zip_runningTotals]
  · intro b hb
    have hnumber : b.isNaN = false := by
      rcases List.mem_append.mp hb with hb | hb
      · exact hnumbers b hb
      · rw [List.mem_singleton.mp hb]
        exact isNaN_infinity
    have hself : (b == b) = true := (beq_iff_rank b b).mpr ⟨hnumber, hnumber, rfl⟩
    obtain ⟨j, hj⟩ := exists_isLastPlace ⟨b, hb, hself⟩
    exact ⟨j, hj, get?_ofEntries_runningTotals hj d.bucketCounts⟩
  · intro hascending hnonneg
    have hcumulative := cumulative_zip_runningTotals hascending hnonneg
    -- ascending bounds differ from each other, so that none is written twice
    have hsame := Assoc.ofEntries_eq_self hcumulative.areBounds.beq_eq_false
    rw [hsame]
    exact ⟨keys_zip_runningTotals _ _, hcumulative⟩

/-- One finite bucket of no width, so that two bounds are equal. -/
def flatDistribution : Distribution where
  count := 6
  mean := 1
  options := { linear := some ⟨1, 0, 1⟩ }
  bucketCounts := [1, 2, 3, 4]

theorem exists_ofDistribution_eq_ok_flat :
    let finite := spread 1 fun i => 1 + Float.ofNat i * 0
    declaredBounds? flatDistribution.options = some finite ∧
    (∀ n, declaredCount? flatDistribution.options = some n → HasRoom 2 n) ∧
    (∀ b ∈ finite, b.isNaN = false) ∧
    (∀ c ∈ flatDistribution.bucketCounts.take (closed finite).length, fitsWord c = true) ∧
    (∀ k ≤ (closed finite).length, fitsWord (flatDistribution.bucketCounts.take k).sum = true) ∧
    ∃ buckets, ofDistribution 2 flatDistribution = .ok buckets ∧
      Assoc.keys buckets = [1, infinity] ∧
      ∀ b ∈ closed finite, ∃ j, IsLastPlace (closed finite) b j ∧
        Assoc.get? buckets b = some (flatDistribution.bucketCounts.take (j + 1)).sum := by
  intro finite
  have hroom : ∀ n, declaredCount? flatDistribution.options = some n → HasRoom 2 n := by
    rintro n ⟨⟩
    exact ⟨by decide, by decide, 2, truncate?_ofInt?_of_pos (by decide) (by decide), by decide⟩
  have hnumbers : ∀ b ∈ finite, b.isNaN = false := by decide
  have hcounts : ∀ c ∈ flatDistribution.bucketCounts.take (closed finite).length,
      fitsWord c = true := by
    decide
  have htotals : ∀ k ≤ (closed finite).length,
      fitsWord (flatDistribution.bucketCounts.take k).sum = true := by
    decide
  obtain ⟨buckets, hbuckets, hkeys, hvalues, -⟩ :=
    exists_ofDistribution_eq_ok rfl hroom hnumbers hcounts htotals
  exact ⟨rfl, hroom, hnumbers, hcounts, htotals, buckets, hbuckets, hkeys.trans rfl, hvalues⟩

/-- A distribution whose layout has far less than no buckets. -/
def emptyDistribution : Distribution where
  count := 7
  mean := 0
  options := { linear := some ⟨-1000000000000000000000000000000, 1, 2⟩ }
  bucketCounts := [3, 4]

/-- A layout of far less than no buckets declares no finite bounds, and yet it is refused, however
much room there is. -/
theorem not_exists_ofDistribution_eq_ok :
    ¬∃ room : Nat, ∀ (d : Distribution) (finite : List Float),
      declaredBounds? d.options = some finite →
      (∀ b ∈ finite, b.isNaN = false) →
      (∀ c ∈ d.bucketCounts.take (closed finite).length, fitsWord c = true) →
      (∀ k ≤ (closed finite).length, fitsWord (d.bucketCounts.take k).sum = true) →
      ∃ buckets, ofDistribution room d = .ok buckets := by
  rintro ⟨room, h⟩
  have hwanted : (ofInt? (-1000000000000000000000000000000 + 1)).bind truncate?
      = some (-1000000000000000019884624838656) := by
    decide +kernel
  have hrefused : ofDistribution room emptyDistribution = .error .tooManyBuckets := by
    refine ofDistribution_eq_error ?_
    rw [emptyDistribution, finiteBounds_linear, boundCount_eq_error room hwanted (by decide)]
    rfl
  obtain ⟨buckets, hbuckets⟩ := h emptyDistribution [] rfl (by decide) (by decide) (by decide)
  rw [hrefused] at hbuckets
  cases hbuckets

end MetricRelay.Histogram
