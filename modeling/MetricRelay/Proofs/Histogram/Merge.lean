/-
Adding histograms adds step functions.

Buckets whose bounds are numbers that differ from each other stand for a step function: its value at
any place is the count at the greatest bound that is not above it (`countAt_of_greatest`), and zero
where there is none (`countAt_of_forall_lt`).  Whatever the two layouts are,

* `countAt_merge` — the sum of two histograms has the sum of both values everywhere;
* `keys_merge`, `has_merge` — its bounds are those of both in ascending order.

Cumulative buckets ascend to positive infinity and their counts never fall; `Cumulative.merge` says
that the sum of two such histograms is one again, and `Cumulative.countAt_le_merge` that no value
falls.
-/
import MetricRelay.Proofs.Assoc
import MetricRelay.Proofs.Histogram.Bounds

namespace MetricRelay.Histogram

open Decimal

/-! ### The value of a step function -/

theorem greater_mem_or (a b : Float) : greater a b = a ∨ greater a b = b := by
  rw [greater]
  split
  · exact Or.inr rfl
  · exact Or.inl rfl

theorem rank_le_greater {a b : Float} (ha : a.isNaN = false) (hb : b.isNaN = false) :
    rank a ≤ rank (greater a b) ∧ rank b ≤ rank (greater a b) := by
  rw [greater]
  split
  · next h => exact ⟨((lt_iff_rank a b).mp h).2.2.le, le_refl _⟩
  · next h => exact ⟨le_refl _, not_lt.mp fun hlt => h ((lt_iff_rank a b).mpr ⟨ha, hb, hlt⟩)⟩

theorem foldl_greater_spec {b : Float} {bs : List Float} (h : ∀ c ∈ b :: bs, c.isNaN = false) :
    bs.foldl greater b ∈ b :: bs ∧ ∀ c ∈ b :: bs, rank c ≤ rank (bs.foldl greater b) := by
  induction bs generalizing b with
  | nil => simp
  | cons d bs ih =>
    have hb := h b (by simp)
    have hd := h d (by simp)
    have hg : (greater b d).isNaN = false := by
      rcases greater_mem_or b d with hg | hg <;> rw [hg] <;> assumption
    have hall : ∀ c ∈ greater b d :: bs, c.isNaN = false := by
      intro c hc
      rcases List.mem_cons.mp hc with rfl | hc
      · exact hg
      · exact h c (by simp [hc])
    obtain ⟨hmem, hmax⟩ := ih hall
    rw [List.foldl_cons]
    constructor
    · rcases List.mem_cons.mp hmem with hmem | hmem
      · rw [hmem]
        rcases greater_mem_or b d with hg | hg <;> simp [hg]
      · simp [hmem]
    · have hbd := rank_le_greater hb hd
      have htop := hmax (greater b d) List.mem_cons_self
      intro c hc
      rcases List.mem_cons.mp hc with rfl | hc
      · exact hbd.1.trans htop
      · rcases List.mem_cons.mp hc with rfl | hc
        · exact hbd.2.trans htop
        · exact hmax c (List.mem_cons_of_mem _ hc)

/-- The nearest bound below a place is one of those below it, and none of them is above it. -/
theorem nearestBelow?_eq_some {x l : Float} {bs : List Float} (hbs : ∀ b ∈ bs, b.isNaN = false)
    (h : nearestBelow? x bs = some l) :
    l ∈ bs ∧ l < x ∧ ∀ b ∈ bs, b < x → rank b ≤ rank l := by
  rw [nearestBelow?] at h
  split at h
  · cases h
  · next c cs hf =>
    cases h
    have hall : ∀ b ∈ c :: cs, b.isNaN = false := fun b hb =>
      hbs b (List.mem_filter.mp (hf ▸ hb)).1
    obtain ⟨hmem, hmax⟩ := foldl_greater_spec hall
    rw [← hf] at hmem hmax
    obtain ⟨hin, hlt⟩ := List.mem_filter.mp hmem
    refine ⟨hin, by simpa using hlt, fun b hb hbx => hmax b (List.mem_filter.mpr ⟨hb, ?_⟩)⟩
    simpa using hbx

theorem nearestBelow?_eq_none {x : Float} {bs : List Float} (h : nearestBelow? x bs = none) :
    ∀ b ∈ bs, ¬ b < x := by
  rw [nearestBelow?] at h
  split at h
  · next hf =>
    intro b hb hbx
    have hmem : b ∈ bs.filter (· < x) := List.mem_filter.mpr ⟨hb, by simpa using hbx⟩
    rw [hf] at hmem
    cases hmem
  · cases h

section CountAt

variable {buckets : Buckets} (hb : AreBounds (Assoc.keys buckets))
include hb

/-- The value at a place is the count at the greatest bound that is not above it. -/
theorem countAt_of_greatest {e : Float × Int} (he : e ∈ buckets) {x : Float} (hx : x.isNaN = false)
    (hex : rank e.1 ≤ rank x)
    (hmax : ∀ b ∈ Assoc.keys buckets, rank b ≤ rank x → rank b ≤ rank e.1) :
    countAt buckets x = e.2 := by
  have hmem : e.1 ∈ Assoc.keys buckets := List.mem_map_of_mem (f := Prod.fst) he
  have hnum := hb.numbers e.1 hmem
  rw [countAt]
  by_cases heq : rank e.1 = rank x
  · -- the place is the bound itself
    rw [Assoc.get?_of_mem hb.beq_eq_false he ((beq_iff_rank e.1 x).mpr ⟨hnum, hx, heq⟩)]
  · -- the place lies above the bound and is none itself, so the count is carried
    have hlt : e.1 < x := (lt_iff_rank e.1 x).mpr ⟨hnum, hx, lt_of_le_of_ne hex heq⟩
    have hnone : Assoc.get? buckets x = none := by
      refine Assoc.get?_eq_none fun b hbm => Bool.eq_false_iff.mpr fun hbeq => ?_
      have hbx := ((beq_iff_rank b x).mp hbeq).2.2
      exact heq (le_antisymm hex (hbx ▸ hmax b hbm hbx.le))
    rw [hnone]
    cases hl : nearestBelow? x (Assoc.keys buckets) with
    | none => exact absurd hlt (nearestBelow?_eq_none hl e.1 hmem)
    | some l =>
      obtain ⟨hlm, hlx, hlmax⟩ := nearestBelow?_eq_some hb.numbers hl
      have hle : rank e.1 = rank l :=
        le_antisymm (hlmax e.1 hmem hlt) (hmax l hlm ((lt_iff_rank l x).mp hlx).2.2.le)
      have hbeq : (e.1 == l) = true := (beq_iff_rank e.1 l).mpr ⟨hnum, hb.numbers l hlm, hle⟩
      show (Assoc.get? buckets l).getD 0 = e.2
      rw [Assoc.get?_of_mem hb.beq_eq_false he hbeq]
      rfl

/-- The value below all bounds is zero. -/
theorem countAt_of_forall_lt {x : Float} (h : ∀ b ∈ Assoc.keys buckets, rank x < rank b) :
    countAt buckets x = 0 := by
  have hnone : Assoc.get? buckets x = none := by
    refine Assoc.get?_eq_none fun b hbm => Bool.eq_false_iff.mpr fun hbeq => ?_
    exact (h b hbm).ne' ((beq_iff_rank b x).mp hbeq).2.2
  rw [countAt, hnone]
  cases hl : nearestBelow? x (Assoc.keys buckets) with
  | none => rfl
  | some l =>
    obtain ⟨hlm, hlx, -⟩ := nearestBelow?_eq_some hb.numbers hl
    exact absurd ((lt_iff_rank l x).mp hlx).2.2 (h l hlm).le.not_gt

/-- The value is the same at two places between which there is no bound. -/
theorem countAt_congr {x y : Float} (hx : x.isNaN = false) (hy : y.isNaN = false)
    (hxy : ∀ b ∈ Assoc.keys buckets, rank b ≤ rank x ↔ rank b ≤ rank y) :
    countAt buckets x = countAt buckets y := by
  rcases exists_greatest (Assoc.keys buckets) (rank x) with hnone | ⟨b, hbm, hbx, hmax⟩
  · rw [countAt_of_forall_lt hb hnone, countAt_of_forall_lt hb fun b hbm =>
      not_le.mp fun h => not_le.mpr (hnone b hbm) ((hxy b hbm).mpr h)]
  · obtain ⟨e, he, rfl⟩ := List.mem_map.mp hbm
    rw [countAt_of_greatest hb he hx hbx hmax, countAt_of_greatest hb he hy ((hxy _ hbm).mp hbx)
      fun c hc hcy => hmax c hc ((hxy c hc).mpr hcy)]

/-- NaN is no place. -/
theorem countAt_of_isNaN {x : Float} (hx : x.isNaN = true) : countAt buckets x = 0 := by
  have hnone : Assoc.get? buckets x = none := by
    refine Assoc.get?_eq_none fun b hbm => Bool.eq_false_iff.mpr fun hbeq => ?_
    rw [((beq_iff_rank b x).mp hbeq).2.1] at hx
    cases hx
  rw [countAt, hnone]
  cases hl : nearestBelow? x (Assoc.keys buckets) with
  | none => rfl
  | some l =>
    obtain ⟨-, hlx, -⟩ := nearestBelow?_eq_some hb.numbers hl
    rw [((lt_iff_rank l x).mp hlx).2.1] at hx
    cases hx

end CountAt

/-! ### The sum of two histograms -/

/-- The bounds of a sum: those of both histograms in ascending order, equal ones once. -/
def mergedBounds (older newer : Buckets) : List Float :=
  sortBounds (unionBounds (Assoc.keys older) (Assoc.keys newer))

section Merge

variable {older newer : Buckets} (ho : AreBounds (Assoc.keys older))
  (hn : AreBounds (Assoc.keys newer))

theorem places_eq_keys {buckets : Buckets} (h : AreBounds (Assoc.keys buckets)) :
    places buckets = Assoc.keys buckets :=
  List.filter_eq_self.mpr fun b hb => by rw [h.numbers b hb]; rfl

theorem strays_eq_nil {buckets : Buckets} (h : AreBounds (Assoc.keys buckets)) :
    strays buckets = [] :=
  List.filter_eq_nil_iff.mpr fun e he => by
    rw [h.numbers e.1 (List.mem_map_of_mem he)]
    exact Bool.false_ne_true

include ho hn

theorem merge_eq :
    merge older newer
      = (mergedBounds older newer).map fun b => (b, countAt older b + countAt newer b) := by
  rw [merge, places_eq_keys ho, places_eq_keys hn, strays_eq_nil ho, strays_eq_nil hn,
    List.append_nil, List.append_nil, mergedBounds]

theorem keys_merge : Assoc.keys (merge older newer) = mergedBounds older newer := by
  rw [merge_eq ho hn, Assoc.keys, List.map_map]
  exact List.map_id _

theorem areBounds_mergedBounds : AreBounds (mergedBounds older newer) :=
  (ho.union hn).perm (sortBounds_perm _).symm

omit ho hn in
/-- The bounds of a sum have the ranks of both histograms' bounds. -/
theorem exists_mergedBounds_iff (r : Rank) :
    (∃ b ∈ mergedBounds older newer, rank b = r) ↔
      (∃ b ∈ Assoc.keys older, rank b = r) ∨ ∃ b ∈ Assoc.keys newer, rank b = r := by
  rw [← exists_unionBounds_iff]
  simp only [mergedBounds, mem_sortBounds]

omit ho hn in
/-- A place has a bucket if a bound has its rank. -/
theorem has_iff_exists_rank {buckets : Buckets} (h : AreBounds (Assoc.keys buckets)) (x : Float) :
    Assoc.has buckets x = true ↔ x.isNaN = false ∧ ∃ b ∈ Assoc.keys buckets, rank b = rank x := by
  rw [Assoc.has_eq_any, List.any_eq_true]
  constructor
  · rintro ⟨b, hb, hbeq⟩
    obtain ⟨-, hx, hrank⟩ := (beq_iff_rank b x).mp hbeq
    exact ⟨hx, b, hb, hrank⟩
  · rintro ⟨hx, b, hb, hrank⟩
    exact ⟨b, hb, (beq_iff_rank b x).mpr ⟨h.numbers b hb, hx, hrank⟩⟩

/-- The sum has a bucket where one of both histograms has one. -/
theorem has_merge (x : Float) :
    Assoc.has (merge older newer) x = (Assoc.has older x || Assoc.has newer x) := by
  have hm : AreBounds (Assoc.keys (merge older newer)) := by
    rw [keys_merge ho hn]
    exact areBounds_mergedBounds ho hn
  rw [Bool.eq_iff_iff, Bool.or_eq_true, has_iff_exists_rank hm, has_iff_exists_rank ho,
    has_iff_exists_rank hn, keys_merge ho hn, exists_mergedBounds_iff, and_or_left]

/-- **The sum of two histograms has the sum of both values at every place.** -/
theorem countAt_merge (x : Float) :
    countAt (merge older newer) x = countAt older x + countAt newer x := by
  have hm : AreBounds (Assoc.keys (merge older newer)) := by
    rw [keys_merge ho hn]
    exact areBounds_mergedBounds ho hn
  cases hx : x.isNaN with
  | true =>
    rw [countAt_of_isNaN hm hx, countAt_of_isNaN ho hx, countAt_of_isNaN hn hx, Int.add_zero]
  | false =>
    rcases exists_greatest (mergedBounds older newer) (rank x) with hnone | ⟨b, hbm, hbx, hmax⟩
    · -- all bounds are above the place
      have habove : ∀ c, ((∃ b ∈ Assoc.keys older, rank b = rank c)
          ∨ ∃ b ∈ Assoc.keys newer, rank b = rank c) → rank x < rank c := by
        intro c hc
        obtain ⟨b, hbm, hbc⟩ := (exists_mergedBounds_iff (rank c)).mpr hc
        exact hbc ▸ hnone b hbm
      rw [countAt_of_forall_lt hm (by rwa [keys_merge ho hn]),
        countAt_of_forall_lt ho fun c hc => habove c (Or.inl ⟨c, hc, rfl⟩),
        countAt_of_forall_lt hn fun c hc => habove c (Or.inr ⟨c, hc, rfl⟩), Int.add_zero]
    · -- no bound of either lies between the greatest one and the place
      have hbn := (areBounds_mergedBounds ho hn).numbers b hbm
      have hsame : ∀ c, ((∃ b ∈ Assoc.keys older, rank b = rank c)
          ∨ ∃ b ∈ Assoc.keys newer, rank b = rank c) → (rank c ≤ rank x ↔ rank c ≤ rank b) := by
        intro c hc
        obtain ⟨d, hdm, hdc⟩ := (exists_mergedBounds_iff (rank c)).mpr hc
        rw [← hdc]
        exact ⟨hmax d hdm, fun h => h.trans hbx⟩
      have hmem : (b, countAt older b + countAt newer b) ∈ merge older newer := by
        rw [merge_eq ho hn]
        exact List.mem_map_of_mem hbm
      rw [countAt_of_greatest hm hmem hx hbx (by rwa [keys_merge ho hn]),
        countAt_congr ho hx hbn fun c hc => hsame c (Or.inl ⟨c, hc, rfl⟩),
        countAt_congr hn hx hbn fun c hc => hsame c (Or.inr ⟨c, hc, rfl⟩)]

end Merge

/-! ### Cumulative histograms -/

/-- Buckets whose bounds ascend to positive infinity, so that it occurs once, with counts that are
not negative, never fall and end with a given one. -/
structure Cumulative (buckets : Buckets) (count : Int) : Prop where
  ascending : (Assoc.keys buckets).Pairwise (· < ·)
  nonneg : ∀ e ∈ buckets, 0 ≤ e.2
  rising : (buckets.map Prod.snd).Pairwise (· ≤ ·)
  closed : buckets.getLast? = some (infinity, count)

namespace Cumulative

variable {buckets : Buckets} {count : Int} (h : Cumulative buckets count)
include h

theorem getLast?_keys : (Assoc.keys buckets).getLast? = some infinity := by
  rw [Assoc.keys, List.getLast?_map, h.closed]
  rfl

theorem areBounds : AreBounds (Assoc.keys buckets) :=
  AreBounds.of_ascending h.ascending h.getLast?_keys isNaN_infinity

theorem closing_mem : (infinity, count) ∈ buckets :=
  List.mem_of_getLast? h.closed

/-- Of two buckets the one with the lower bound has the lower count. -/
theorem snd_le {d e : Float × Int} (hd : d ∈ buckets) (he : e ∈ buckets)
    (hde : rank d.1 ≤ rank e.1) : d.2 ≤ e.2 := by
  obtain ⟨i, hi, rfl⟩ := List.mem_iff_getElem.mp hd
  obtain ⟨j, hj, rfl⟩ := List.mem_iff_getElem.mp he
  rcases lt_trichotomy i j with hij | rfl | hji
  · have hrise :=
      List.pairwise_iff_getElem.mp h.rising i j (by simpa using hi) (by simpa using hj) hij
    simpa using hrise
  · exact le_refl _
  · -- the bounds ascend, so the other order is impossible
    have hasc := List.pairwise_iff_getElem.mp h.ascending j i
      (by simpa [Assoc.keys] using hj) (by simpa [Assoc.keys] using hi) hji
    have hlt := ((lt_iff_rank _ _).mp hasc).2.2
    simp only [Assoc.keys, List.getElem_map] at hlt
    exact absurd hlt hde.not_gt

theorem countAt_nonneg (x : Float) : 0 ≤ countAt buckets x := by
  cases hx : x.isNaN with
  | true => rw [countAt_of_isNaN h.areBounds hx]
  | false =>
    rcases exists_greatest (Assoc.keys buckets) (rank x) with hnone | ⟨b, hbm, hbx, hmax⟩
    · rw [countAt_of_forall_lt h.areBounds hnone]
    · obtain ⟨e, he, rfl⟩ := List.mem_map.mp hbm
      rw [countAt_of_greatest h.areBounds he hx hbx hmax]
      exact h.nonneg e he

/-- The value never falls from one place to a higher one. -/
theorem countAt_mono {x y : Float} (hx : x.isNaN = false) (hy : y.isNaN = false)
    (hxy : rank x ≤ rank y) : countAt buckets x ≤ countAt buckets y := by
  rcases exists_greatest (Assoc.keys buckets) (rank x) with hnone | ⟨b, hbm, hbx, hmax⟩
  · rw [countAt_of_forall_lt h.areBounds hnone]
    exact h.countAt_nonneg y
  · obtain ⟨e, he, rfl⟩ := List.mem_map.mp hbm
    rw [countAt_of_greatest h.areBounds he hx hbx hmax]
    rcases exists_greatest (Assoc.keys buckets) (rank y) with hnone | ⟨c, hcm, hcy, hmaxy⟩
    · exact absurd (hnone e.1 hbm) (hbx.trans hxy).not_gt
    · obtain ⟨f, hf, rfl⟩ := List.mem_map.mp hcm
      rw [countAt_of_greatest h.areBounds hf hy hcy hmaxy]
      exact h.snd_le he hf (hmaxy e.1 hbm (hbx.trans hxy))

theorem countAt_infinity : countAt buckets infinity = count :=
  countAt_of_greatest h.areBounds h.closing_mem isNaN_infinity (le_refl _)
    fun b hb _ => rank_le_infinity (h.areBounds.numbers b hb)

end Cumulative

section CumulativeMerge

variable {older newer : Buckets} {m n : Int} (ho : Cumulative older m) (hn : Cumulative newer n)
include ho hn

/-- The greatest bound of the sum is positive infinity. -/
theorem getLast?_mergedBounds : (mergedBounds older newer).getLast? = some infinity := by
  have hbounds := areBounds_mergedBounds ho.areBounds hn.areBounds
  have hmem : infinity ∈ mergedBounds older newer := by
    rw [mergedBounds, mem_sortBounds]
    exact mem_unionBounds_left (List.mem_of_getLast? ho.getLast?_keys) _
  cases hlast : (mergedBounds older newer).getLast? with
  | none =>
    rw [List.getLast?_eq_none_iff.mp hlast] at hmem
    cases hmem
  | some z =>
    obtain ⟨front, hfront⟩ := List.getLast?_eq_some_iff.mp hlast
    rw [hfront] at hmem
    rcases List.mem_append.mp hmem with hmem | hmem
    · -- a bound after positive infinity would be above it
      have hasc := pairwise_sortBounds (ho.areBounds.union hn.areBounds)
      rw [← mergedBounds, hfront] at hasc
      have hlt := (List.pairwise_append.mp hasc).2.2 infinity hmem z (List.mem_singleton_self z)
      obtain ⟨-, hz, hrank⟩ := (lt_iff_rank infinity z).mp hlt
      exact absurd (rank_le_infinity hz) hrank.not_ge
    · rw [List.mem_singleton.mp hmem]

theorem Cumulative.merge : Cumulative (merge older newer) (m + n) := by
  have hbounds := areBounds_mergedBounds ho.areBounds hn.areBounds
  have hasc : (mergedBounds older newer).Pairwise (· < ·) :=
    pairwise_sortBounds (ho.areBounds.union hn.areBounds)
  constructor
  · rw [keys_merge ho.areBounds hn.areBounds]
    exact hasc
  · intro e he
    rw [merge_eq ho.areBounds hn.areBounds] at he
    obtain ⟨b, -, rfl⟩ := List.mem_map.mp he
    exact Int.add_nonneg (ho.countAt_nonneg b) (hn.countAt_nonneg b)
  · rw [merge_eq ho.areBounds hn.areBounds, List.map_map, List.pairwise_map]
    refine hasc.imp fun {b c} hbc => ?_
    obtain ⟨hb, hc, hrank⟩ := (lt_iff_rank b c).mp hbc
    exact Int.add_le_add (ho.countAt_mono hb hc hrank.le) (hn.countAt_mono hb hc hrank.le)
  · rw [merge_eq ho.areBounds hn.areBounds, List.getLast?_map, getLast?_mergedBounds ho hn,
      Option.map_some, ho.countAt_infinity, hn.countAt_infinity]

/-- No value falls when a histogram is added. -/
theorem Cumulative.countAt_le_merge (x : Float) :
    countAt older x ≤ countAt (Histogram.merge older newer) x := by
  rw [countAt_merge ho.areBounds hn.areBounds]
  have := hn.countAt_nonneg x
  omega

/-- No bound is lost when a histogram is added. -/
theorem Cumulative.keys_subset_merge :
    Assoc.keys older ⊆ Assoc.keys (Histogram.merge older newer) := by
  rw [keys_merge ho.areBounds hn.areBounds]
  intro b hb
  rw [mergedBounds, mem_sortBounds]
  exact mem_unionBounds_left hb _

end CumulativeMerge

end MetricRelay.Histogram
