/-
The bucket that closes a histogram.

Positive infinity closes the bounds of a layout.  It may stand among the finite ones as well, and
then it keeps the place where it stands first; whichever place that is, its count is the total of
all counts that have a bucket.

* `beq_infinity_iff` — positive infinity is equal to no other bound;
* `getLast?_eraseDups_closed_iff` — where it stands last;
* `closing_ofDistribution` — the closing bucket of a distribution.
-/
import MetricRelay.Proofs.Histogram.Distribution

namespace MetricRelay.Histogram

open Decimal Monitoring

/-! ### Positive infinity -/

theorem beq_infinity_iff (x : Float) : (x == infinity) = true ↔ x = infinity := by
  constructor
  · intro h
    have hrank := ((beq_iff_rank x infinity).mp h).2.2
    have htop : partsRank x.toModel.unpack = toLex (2, toLex (0, 0)) := hrank
    refine eq_infinity_of_unpack ?_
    match hu : x.toModel.unpack with
    | .infinity .positive => rfl
    | .notANumber | .infinity .negative | .finite .negative _ _ _ | .zero _
    | .finite .positive _ _ _ =>
      rw [hu] at htop
      simp [partsRank] at htop
  · rintro rfl
    exact (beq_iff_rank infinity infinity).mpr ⟨isNaN_infinity, isNaN_infinity, rfl⟩

/-- Behind the first positive infinity among the finite bounds there is no bound for the first
time. -/
def EndsAtInfinity (finite : List Float) : Prop :=
  ∀ b ∈ finite.dropWhile (· != infinity),
    ((finite.takeWhile (· != infinity) ++ [infinity]).any fun c => c == b) = true

instance (finite : List Float) : Decidable (EndsAtInfinity finite) :=
  inferInstanceAs (Decidable (∀ b ∈ finite.dropWhile (· != infinity),
    ((finite.takeWhile (· != infinity) ++ [infinity]).any fun c => c == b) = true))

/-- Positive infinity is the last of the distinct bounds if no other one comes behind it. -/
theorem getLast?_eraseDups_closed_iff (finite : List Float) :
    (closed finite).eraseDups.getLast? = some infinity ↔ EndsAtInfinity finite := by
  have hself : (infinity == infinity) = true := (beq_infinity_iff infinity).mpr rfl
  have hfront : ((finite.takeWhile (· != infinity)).any fun b => b == infinity) = false := by
    rw [List.any_eq_false]
    intro b hb
    simpa only [bne, Bool.not_eq_true', Bool.not_eq_true] using List.mem_takeWhile_imp hb
  have hsplit := List.takeWhile_append_dropWhile (p := (· != infinity)) (l := finite)
  have hhead := List.head?_dropWhile_not (· != infinity) finite
  rw [EndsAtInfinity, closed]
  cases hback : finite.dropWhile (· != infinity) with
  | nil =>
    rw [hback, List.append_nil] at hsplit
    rw [hsplit] at hfront
    rw [Assoc.getLast?_eraseDups_eq_iff hself hfront]
    simp
  | cons b back =>
    rw [hback] at hsplit hhead
    obtain rfl : b = infinity := by
      rw [← beq_infinity_iff]
      simpa only [List.head?_cons, bne, Bool.not_eq_false'] using hhead
    -- positive infinity itself and the one that closes the bounds are not new
    rw [← hsplit, List.append_assoc, List.cons_append, Assoc.getLast?_eraseDups_eq_iff hself hfront,
      hsplit]
    have hknown : ((finite.takeWhile (· != infinity) ++ [infinity]).any fun c => c == infinity)
        = true := by
      rw [List.any_append, List.any_cons, hself, Bool.true_or, Bool.or_true]
    rw [List.forall_mem_append, List.forall_mem_singleton, List.forall_mem_cons,
      and_iff_left hknown, and_iff_right hknown]

/-! ### The closing bucket -/

/-- No count is greater than the total of counts that are not negative. -/
theorem fitsWord_of_total {counts : List Int} {n : Nat} (hcounts : ∀ c ∈ counts, 0 ≤ c)
    (htotal : fitsWord (counts.take n).sum = true) :
    (∀ c ∈ counts.take n, fitsWord c = true) ∧ ∀ k ≤ n, fitsWord (counts.take k).sum = true := by
  have hused : ∀ c ∈ counts.take n, 0 ≤ c := fun c hc => hcounts c (List.mem_of_mem_take hc)
  have hbetween : ∀ m, 0 ≤ m → m ≤ (counts.take n).sum → fitsWord m = true := by
    intro m hm hle
    simp only [fitsWord, Bool.and_eq_true, decide_eq_true_eq] at htotal ⊢
    omega
  constructor
  · exact fun c hc => hbetween c (hused c hc) (List.single_le_sum hused c hc)
  · intro k hk
    exact hbetween _ (List.sum_nonneg fun c hc => hcounts c (List.mem_of_mem_take hc))
      (sum_take_mono hused hk le_rfl)

theorem sum_take_eq_sum_iff {counts : List Int} (hcounts : ∀ c ∈ counts, 0 ≤ c) (n : Nat) :
    (counts.take n).sum = counts.sum ↔ ∀ c ∈ counts.drop n, c = 0 := by
  rw [← List.sum_take_add_sum_drop counts n, left_eq_add]
  constructor
  · intro h c hc
    exact List.all_zero_of_le_zero_le_of_sum_eq_zero
      (fun c hc => hcounts c (List.mem_of_mem_drop hc)) h hc
  · exact List.sum_eq_zero

/-- **The closing bucket of a distribution.**  If there is room for its bounds, its counts are not
negative and the total of those that have a bucket fits a word, then a distribution has buckets, and
the one of positive infinity has that total.  It is the last one exactly if no other bound stands
behind a positive infinity for the first time, and its count is that of all counts exactly if the
counts beyond the bounds are zero. -/
theorem closing_ofDistribution {room : Nat} {d : Distribution} {finite : List Float}
    (hdeclared : declaredBounds? d.options = some finite)
    (hroom : ∀ n, declaredCount? d.options = some n → HasRoom room n)
    (hcounts : ∀ c ∈ d.bucketCounts, 0 ≤ c)
    (htotal : fitsWord (d.bucketCounts.take (closed finite).length).sum = true) :
    ∃ buckets, ofDistribution room d = .ok buckets ∧
      Assoc.get? buckets infinity = some (d.bucketCounts.take (closed finite).length).sum ∧
      ((Assoc.keys buckets).getLast? = some infinity ↔ EndsAtInfinity finite) ∧
      ((d.bucketCounts.take (closed finite).length).sum = d.bucketCounts.sum ↔
        ∀ c ∈ d.bucketCounts.drop (closed finite).length, c = 0) := by
  obtain ⟨hwords, htotals⟩ := fitsWord_of_total hcounts htotal
  have hlast : IsLastPlace (closed finite) infinity finite.length :=
    ⟨⟨infinity, by simp [closed], (beq_infinity_iff infinity).mpr rfl⟩, by simp [closed]⟩
  have hlength : (closed finite).length = finite.length + 1 := List.length_append
  refine ⟨_, ofDistribution_eq_ok (finiteBounds_of_declared hdeclared hroom) hwords htotals, ?_, ?_,
    sum_take_eq_sum_iff hcounts _⟩
  · rw [get?_ofEntries_runningTotals hlast, hlength]
  · rw [Assoc.keys_ofEntries, keys_zip_runningTotals, getLast?_eraseDups_closed_iff]

/-- A layout in which positive infinity stands before a bound that is there already. -/
def tailedDistribution : Distribution where
  count := 18
  mean := 1
  options := { explicit := some [1, infinity, 1] }
  bucketCounts := [3, 4, 5, 6, 0]

theorem closing_ofDistribution_tailed :
    declaredBounds? tailedDistribution.options = some [1, infinity, 1] ∧
    (∀ c ∈ tailedDistribution.bucketCounts, 0 ≤ c) ∧
    ∃ buckets, ofDistribution 0 tailedDistribution = .ok buckets ∧
      Assoc.get? buckets infinity = some 18 ∧ (Assoc.keys buckets).getLast? = some infinity := by
  have hdeclared : declaredBounds? tailedDistribution.options = some [1, infinity, 1] := rfl
  have hcounts : ∀ c ∈ tailedDistribution.bucketCounts, 0 ≤ c := by decide
  obtain ⟨buckets, hbuckets, hvalue, hlast, -⟩ :=
    closing_ofDistribution hdeclared (by rintro n ⟨⟩) hcounts (by decide)
  exact ⟨hdeclared, hcounts, buckets, hbuckets, hvalue, hlast.mpr (by decide)⟩

/-- A distribution with one more count than it has buckets. -/
def surplusDistribution : Distribution where
  count := 12
  mean := 1
  options := { explicit := some [1] }
  bucketCounts := [3, 4, 5]

/-- Counts beyond the bounds are not in the total that closes a histogram. -/
theorem not_getLast?_ofDistribution :
    ¬∃ room : Nat, ∀ (d : Distribution) (finite : List Float),
      declaredBounds? d.options = some finite →
      (∀ c ∈ d.bucketCounts, 0 ≤ c) →
      ∃ buckets, ofDistribution room d = .ok buckets ∧
        buckets.getLast? = some (infinity, d.bucketCounts.sum) := by
  rintro ⟨room, h⟩
  obtain ⟨buckets, hbuckets, hlast⟩ := h surplusDistribution [1] rfl (by decide)
  have hcut : ofDistribution room surplusDistribution = .ok [(1, 3), (infinity, 7)] := by
    rfl
  rw [hcut] at hbuckets
  obtain rfl := Except.ok.inj hbuckets
  have htotal : (7 : Int) = 12 := congrArg Prod.snd (Option.some.inj hlast)
  omega

end MetricRelay.Histogram
