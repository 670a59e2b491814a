/-
The buckets that a distribution stands for.

What a distribution is decoded to is said without the order in which bounds and totals are computed.
The bounds are those of its layout (`IsLaidOut`), where only the number of very many bounds is
rounded (`IsCount`).  The buckets have each bound once, and at a bound the word of the total up to
the last place of the bound; a NaN is equal to no bound, and each one keeps its own total
(`IsBucketsOf`).

* `isLaidOut_of_finiteBounds` — the bounds that are computed are those of the layout;
* `isBucketsOf_of_ofDistribution` — and so are the buckets;
* `IsBucketsOf.unique`, `IsLaidOut.unique` — there are no others.
-/
import MetricRelay.Proofs.Histogram.Distribution

namespace MetricRelay.Histogram

open Decimal Monitoring

/-! ### Layouts -/

/-- How many bounds `n` finite buckets have: one more, and none if that is negative.  From 2^53 on
it is the whole number of the nearest double, and the first one beyond the signed words stands for
none. -/
inductive IsCount (n : Int) : Nat → Prop where
  | exact (h : n + 1 < 9007199254740992) : IsCount n (n + 1).toNat
  | rounded {wanted : Int} (h : 9007199254740992 ≤ n + 1)
      (hwanted : (ofInt? (n + 1)).bind truncate? = some wanted)
      (hword : wanted ≠ (wordCount / 2 : Nat)) : IsCount n wanted.toNat
  | wrapped (h : 9007199254740992 ≤ n + 1)
      (hwanted : (ofInt? (n + 1)).bind truncate? = some ((wordCount / 2 : Nat) : Int)) : IsCount n 0

/-- The finite bounds of a layout: of several the explicit one counts, then the linear one. -/
inductive IsLaidOut (options : BucketOptions) : List Float → Prop where
  | explicit {finite : List Float} (h : options.explicit = some finite) : IsLaidOut options finite
  | linear {l : LinearLayout} {k : Nat} (hexplicit : options.explicit = none)
      (h : options.linear = some l) (hk : IsCount l.finiteBuckets k) :
      IsLaidOut options ((List.range k).map fun i => l.offset + Float.ofNat i * l.width)
  | exponential {e : ExponentialLayout} {k : Nat} (hexplicit : options.explicit = none)
      (hlinear : options.linear = none) (h : options.exponential = some e)
      (hk : IsCount e.finiteBuckets k) :
      IsLaidOut options ((List.range k).map fun i => e.scale * e.growth.pow (Float.ofNat i))

theorem IsCount.unique {n : Int} {k k' : Nat} (h : IsCount n k) (h' : IsCount n k') : k = k' := by
  cases h with
  | exact hsmall =>
    cases h' with
    | exact => rfl
    | rounded hlarge => omega
    | wrapped hlarge => omega
  | rounded hlarge hwanted hword =>
    cases h' with
    | exact hsmall => omega
    | rounded _ hwanted' _ => rw [Option.some.inj (hwanted.symm.trans hwanted')]
    | wrapped _ hwanted' => exact absurd (Option.some.inj (hwanted.symm.trans hwanted')) hword
  | wrapped hlarge hwanted =>
    cases h' with
    | exact hsmall => omega
    | rounded _ hwanted' hword => exact absurd (Option.some.inj (hwanted'.symm.trans hwanted)) hword
    | wrapped => rfl

/-- A count that is not refused is the whole number of a double, or it has wrapped around. -/
theorem exists_of_boundCount_eq_ok {room : Nat} {n : Int} {k : Nat}
    (h : boundCount room n = .ok k) :
    ∃ wanted, (ofInt? (n + 1)).bind truncate? = some wanted ∧
      (wanted = (wordCount / 2 : Nat) ∧ k = 0 ∨
        wanted ≠ (wordCount / 2 : Nat) ∧ k = wanted.toNat) := by
  simp only [boundCount] at h
  split at h
  · cases h
  · next wanted hwanted =>
    refine ⟨wanted, hwanted, ?_⟩
    split at h
    · cases h
    · split at h
      · next hhalf => exact Or.inl ⟨hhalf, (Except.ok.inj h).symm⟩
      · next hne =>
        split at h
        · cases h
        · split at h
          · cases h
          · exact Or.inr ⟨hne, (Except.ok.inj h).symm⟩

theorem isCount_of_boundCount {room : Nat} {n : Int} {k : Nat} (h : boundCount room n = .ok k) :
    IsCount n k := by
  obtain ⟨wanted, hwanted, hk⟩ := exists_of_boundCount_eq_ok h
  by_cases hsmall : n + 1 < 9007199254740992
  · have hsame := eq_or_nonpos_of_wanted hsmall hwanted
    have hhalf : ((wordCount / 2 : Nat) : Int) = 9223372036854775808 := rfl
    obtain rfl : k = (n + 1).toNat := by omega
    exact .exact hsmall
  · rcases hk with ⟨rfl, rfl⟩ | ⟨hne, rfl⟩
    · exact .wrapped (not_lt.mp hsmall) hwanted
    · exact .rounded (not_lt.mp hsmall) hwanted hne

/-- The bounds that are computed are those of the layout. -/
theorem isLaidOut_of_finiteBounds {room : Nat} {options : BucketOptions} {finite : List Float}
    (h : finiteBounds room options = .ok finite) : IsLaidOut options finite := by
  have hcount : ∀ {n : Int} {f : Nat → List Float}, (boundCount room n).map f = .ok finite →
      ∃ k, IsCount n k ∧ f k = finite := by
    intro n f h
    cases hk : boundCount room n with
    | error fault =>
      rw [hk] at h
      cases h
    | ok k =>
      rw [hk] at h
      exact ⟨k, isCount_of_boundCount hk, Except.ok.inj h⟩
  obtain ⟨explicit, linear, exponential⟩ := options
  cases explicit with
  | some bounds => exact .explicit (congrArg some (Except.ok.inj h))
  | none =>
    cases linear with
    | some l =>
      obtain ⟨k, hk, rfl⟩ := hcount h
      exact .linear rfl rfl hk
    | none =>
      cases exponential with
      | some e =>
        obtain ⟨k, hk, rfl⟩ := hcount h
        exact .exponential rfl rfl rfl hk
      | none => cases h

theorem IsLaidOut.unique {options : BucketOptions} {finite finite' : List Float}
    (h : IsLaidOut options finite) (h' : IsLaidOut options finite') : finite = finite' := by
  cases h with
  | explicit hbounds =>
    cases h' with
    | explicit hbounds' => exact Option.some.inj (hbounds.symm.trans hbounds')
    | linear hnone => cases hbounds.symm.trans hnone
    | exponential hnone => cases hbounds.symm.trans hnone
  | linear hnone hl hk =>
    cases h' with
    | explicit hbounds => cases hbounds.symm.trans hnone
    | linear _ hl' hk' =>
      obtain rfl := Option.some.inj (hl.symm.trans hl')
      rw [hk.unique hk']
    | exponential _ hlinear => cases hl.symm.trans hlinear
  | exponential hnone hlinear he hk =>
    cases h' with
    | explicit hbounds => cases hbounds.symm.trans hnone
    | linear _ hl => cases hl.symm.trans hlinear
    | exponential _ _ he' hk' =>
      obtain rfl := Option.some.inj (he.symm.trans he')
      rw [hk.unique hk']

/-- A layout that is laid out is declared. -/
theorem IsLaidOut.not_isUndeclared {options : BucketOptions} {finite : List Float}
    (h : IsLaidOut options finite) : ¬IsUndeclared options := by
  rintro ⟨hexplicit, hlinear, hexponential⟩
  cases h with
  | explicit h => cases h.symm.trans hexplicit
  | linear _ h => cases h.symm.trans hlinear
  | exponential _ _ h => cases h.symm.trans hexponential

/-! ### Buckets -/

/-- The buckets of counts over some bounds. -/
structure IsBucketsOf (bs : List Float) (counts : List Int) (buckets : Buckets) : Prop where
  keys_eq : Assoc.keys buckets = bs.eraseDups
  values : ∀ b j, IsLastPlace bs b j →
    Assoc.get? buckets b = some (toWord (counts.take (j + 1)).sum)
  strays_eq : strays buckets
    = strays (bs.zip ((runningTotals bs.length counts).map toWord))

/-- What is not equal to itself is NaN. -/
theorem isNaN_eq (x : Float) : x.isNaN = !(x == x) := by
  cases h : x == x with
  | true => exact ((beq_iff_rank x x).mp h).1
  | false =>
    rw [Bool.eq_false_iff] at h
    exact Bool.not_eq_false _ ▸ fun hn => h ((beq_iff_rank x x).mpr ⟨hn, hn, rfl⟩)

theorem strays_eq_filter (buckets : Buckets) :
    strays buckets = buckets.filter fun e => !(e.1 == e.1) :=
  List.filter_congr fun e _ => isNaN_eq e.1

theorem isBucketsOf_ofEntries (bs : List Float) (counts : List Int) :
    IsBucketsOf bs counts
      (Assoc.ofEntries (bs.zip ((runningTotals bs.length counts).map toWord))) where
  keys_eq := by
    rw [Assoc.keys_ofEntries, keys_zip (by rw [List.length_map, length_runningTotals])]
  values b j h := by
    obtain ⟨c, hc, -⟩ := h.holds
    obtain ⟨hj, -⟩ := List.getElem?_eq_some_iff.mp hc
    refine get?_ofEntries_zip h ?_
    rw [List.getElem?_map, getElem?_runningTotals hj]
    rfl
  strays_eq := by
    rw [strays_eq_filter, strays_eq_filter]
    exact Assoc.filter_ofEntries _

/-- The buckets that are computed are those of the counts over the bounds of the layout. -/
theorem isBucketsOf_of_ofDistribution {room : Nat} {d : Distribution} {buckets : Buckets}
    (h : ofDistribution room d = .ok buckets) :
    ∃ finite, IsLaidOut d.options finite ∧ IsBucketsOf (closed finite) d.bucketCounts buckets := by
  obtain ⟨finite, hfinite, -, rfl⟩ := ofDistribution_eq_ok_iff.mp h
  exact ⟨finite, isLaidOut_of_finiteBounds hfinite, isBucketsOf_ofEntries _ _⟩

theorem IsBucketsOf.unique {bs : List Float} {counts : List Int} {buckets buckets' : Buckets}
    (h : IsBucketsOf bs counts buckets) (h' : IsBucketsOf bs counts buckets') :
    buckets = buckets' := by
  refine Assoc.eq_of_get?_of_filter ?_ (h.keys_eq.trans h'.keys_eq.symm) (fun b hb hself => ?_) ?_
  · rw [h.keys_eq]
    exact Assoc.pairwise_eraseDups bs
  · rw [h.keys_eq] at hb
    obtain ⟨j, hj⟩ := exists_isLastPlace ⟨b, (Assoc.eraseDups_sublist bs).subset hb, hself⟩
    rw [h.values b j hj, h'.values b j hj]
  · rw [← strays_eq_filter, ← strays_eq_filter, h.strays_eq, h'.strays_eq]

end MetricRelay.Histogram
