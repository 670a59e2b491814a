/-
Bounds in ascending order.

Bounds are doubles that are numbers, told apart by their rank.  Sorting them by insertion keeps
every bound, and if no two are equal the result ascends strictly:

* `mem_sortBounds` — sorting loses and adds nothing;
* `pairwise_sortBounds` — sorted bounds ascend;
* `exists_unionBounds_iff` — the union of two lists has the ranks of both.
-/
import Mathlib.Data.List.Pairwise
import MetricRelay.Histogram.Merge
import MetricRelay.Proofs.Decimal.Order

namespace MetricRelay.Histogram

open Decimal

/-- Bounds that are numbers, of which no two are equal. -/
structure AreBounds (bs : List Float) : Prop where
  numbers : ∀ b ∈ bs, b.isNaN = false
  distinct : bs.Pairwise fun a b => rank a ≠ rank b

theorem AreBounds.beq_eq_false {bs : List Float} (h : AreBounds bs) :
    bs.Pairwise fun a b => (a == b) = false := by
  refine h.distinct.imp fun {a b} hab => ?_
  rw [Bool.eq_false_iff]
  exact fun hbeq => hab ((beq_iff_rank a b).mp hbeq).2.2

theorem insertBound_perm (b : Float) (bs : List Float) : (insertBound b bs).Perm (b :: bs) := by
  induction bs with
  | nil => exact List.Perm.refl _
  | cons c cs ih =>
    rw [insertBound]
    split
    · exact List.Perm.refl _
    · exact (ih.cons c).trans (List.Perm.swap b c cs)

theorem foldl_insertBound_perm (bs sorted : List Float) :
    (bs.foldl (fun sorted b => insertBound b sorted) sorted).Perm (bs ++ sorted) := by
  induction bs generalizing sorted with
  | nil => exact List.Perm.refl _
  | cons b bs ih =>
    rw [List.foldl_cons]
    refine (ih _).trans ?_
    refine ((insertBound_perm b sorted).append_left bs).trans ?_
    exact List.perm_middle

theorem sortBounds_perm (bs : List Float) : (sortBounds bs).Perm bs := by
  have h := foldl_insertBound_perm bs []
  rwa [List.append_nil] at h

theorem mem_sortBounds {b : Float} {bs : List Float} : b ∈ sortBounds bs ↔ b ∈ bs :=
  (sortBounds_perm bs).mem_iff

/-- A bound that differs from all of the ascending ones is inserted at its place. -/
theorem pairwise_insertBound {b : Float} {bs : List Float} (hb : AreBounds (b :: bs))
    (hbs : bs.Pairwise (· < ·)) : (insertBound b bs).Pairwise (· < ·) := by
  induction bs with
  | nil => exact List.pairwise_singleton _ _
  | cons c cs ih =>
    have hbn := hb.numbers b List.mem_cons_self
    have hcn := hb.numbers c (List.mem_cons_of_mem _ List.mem_cons_self)
    obtain ⟨hne, hdistinct⟩ := List.pairwise_cons.mp hb.distinct
    obtain ⟨hc, hcs⟩ := List.pairwise_cons.mp hbs
    rw [insertBound]
    split
    · next hlt =>
      -- what is above the second bound is above the first
      refine List.pairwise_cons.mpr ⟨fun d hd => ?_, hbs⟩
      rcases List.mem_cons.mp hd with rfl | hd
      · exact hlt
      · obtain ⟨_, hdn, hcd⟩ := (lt_iff_rank c d).mp (hc d hd)
        exact (lt_iff_rank b d).mpr ⟨hbn, hdn, ((lt_iff_rank b c).mp hlt).2.2.trans hcd⟩
    · next hlt =>
      have hcb : c < b := by
        refine (lt_iff_rank c b).mpr ⟨hcn, hbn, lt_of_le_of_ne ?_ (hne c List.mem_cons_self).symm⟩
        exact not_lt.mp fun h => hlt ((lt_iff_rank b c).mpr ⟨hbn, hcn, h⟩)
      have hrest : AreBounds (b :: cs) :=
        { numbers := fun d hd => hb.numbers d
            (List.mem_cons.mpr ((List.mem_cons.mp hd).imp_right (List.mem_cons_of_mem c)))
          distinct := List.pairwise_cons.mpr
            ⟨fun d hd => hne d (List.mem_cons_of_mem c hd), (List.pairwise_cons.mp hdistinct).2⟩ }
      refine List.pairwise_cons.mpr ⟨fun d hd => ?_, ih hrest hcs⟩
      rcases List.mem_cons.mp ((insertBound_perm b cs).mem_iff.mp hd) with rfl | hd
      · exact hcb
      · exact hc d hd

theorem AreBounds.perm {bs cs : List Float} (h : AreBounds bs) (hp : bs.Perm cs) :
    AreBounds cs where
  numbers b hb := h.numbers b (hp.mem_iff.mpr hb)
  distinct := (hp.pairwise_iff fun hab => Ne.symm hab).mp h.distinct

theorem pairwise_foldl_insertBound {bs sorted : List Float} (h : AreBounds (bs ++ sorted))
    (hsorted : sorted.Pairwise (· < ·)) :
    (bs.foldl (fun sorted b => insertBound b sorted) sorted).Pairwise (· < ·) := by
  induction bs generalizing sorted with
  | nil => exact hsorted
  | cons b bs ih =>
    rw [List.foldl_cons]
    have hmiddle : AreBounds (b :: (bs ++ sorted)) := h
    refine ih (hmiddle.perm ?_) (pairwise_insertBound ⟨?_, ?_⟩ hsorted)
    · exact List.perm_middle.symm.trans ((insertBound_perm b sorted).symm.append_left bs)
    · intro c hc
      refine hmiddle.numbers c (List.mem_cons.mpr ((List.mem_cons.mp hc).imp_right fun hc => ?_))
      exact List.mem_append_right bs hc
    · exact hmiddle.distinct.sublist ((List.sublist_append_right bs sorted).cons_cons b)

theorem pairwise_sortBounds {bs : List Float} (h : AreBounds bs) :
    (sortBounds bs).Pairwise (· < ·) := by
  refine pairwise_foldl_insertBound ?_ List.Pairwise.nil
  rwa [List.append_nil]

theorem mem_unionBounds_left {b : Float} {bs : List Float} (h : b ∈ bs) (cs : List Float) :
    b ∈ unionBounds bs cs :=
  List.mem_append_left _ h

/-- A bound of the second list is in the union or equal to one of the first. -/
theorem exists_unionBounds_iff (bs cs : List Float) (r : Rank) :
    (∃ u ∈ unionBounds bs cs, rank u = r) ↔ (∃ b ∈ bs, rank b = r) ∨ ∃ c ∈ cs, rank c = r := by
  constructor
  · rintro ⟨u, hu, hr⟩
    rcases List.mem_append.mp hu with hu | hu
    · exact Or.inl ⟨u, hu, hr⟩
    · exact Or.inr ⟨u, (List.mem_filter.mp hu).1, hr⟩
  · rintro (⟨b, hb, hr⟩ | ⟨c, hcs, hr⟩)
    · exact ⟨b, mem_unionBounds_left hb cs, hr⟩
    · cases h : bs.contains c with
      | true =>
        obtain ⟨b, hb, hcb⟩ := List.contains_iff_exists_mem_beq.mp h
        exact ⟨b, mem_unionBounds_left hb cs, ((beq_iff_rank c b).mp hcb).2.2 ▸ hr⟩
      | false => exact ⟨c, List.mem_append_right bs (List.mem_filter.mpr ⟨hcs, by simp [h]⟩), hr⟩

theorem AreBounds.union {bs cs : List Float} (hb : AreBounds bs) (hc : AreBounds cs) :
    AreBounds (unionBounds bs cs) := by
  constructor
  · intro u hu
    rcases List.mem_append.mp hu with hu | hu
    · exact hb.numbers u hu
    · exact hc.numbers u (List.mem_filter.mp hu).1
  · refine List.pairwise_append.mpr ⟨hb.distinct, hc.distinct.sublist List.filter_sublist, ?_⟩
    intro b hbs c hcs heq
    obtain ⟨hmem, hnot⟩ := List.mem_filter.mp hcs
    -- an equal bound of the first list would have kept this one out
    have hbeq : (c == b) = true :=
      (beq_iff_rank c b).mpr ⟨hc.numbers c hmem, hb.numbers b hbs, heq.symm⟩
    rw [List.contains_iff_exists_mem_beq.mpr ⟨b, hbs, hbeq⟩] at hnot
    cases hnot

/-- Ascending bounds of which the last is a number are numbers that differ from each other. -/
theorem AreBounds.of_ascending {bs : List Float} (h : bs.Pairwise (· < ·)) {z : Float}
    (hz : bs.getLast? = some z) (hn : z.isNaN = false) : AreBounds bs := by
  refine ⟨fun b hb => ?_, h.imp fun hab => ((lt_iff_rank _ _).mp hab).2.2.ne⟩
  obtain ⟨front, rfl⟩ := List.getLast?_eq_some_iff.mp hz
  rcases List.mem_append.mp hb with hb | hb
  · obtain ⟨_, _, hlt⟩ := List.pairwise_append.mp h
    exact ((lt_iff_rank b z).mp (hlt b hb z (List.mem_singleton_self z))).1
  · rw [List.mem_singleton.mp hb]
    exact hn

/-- The bounds at or below a given place have a greatest one, if there are any. -/
theorem exists_greatest (bs : List Float) (r : Rank) :
    (∀ b ∈ bs, r < rank b) ∨
      ∃ b ∈ bs, rank b ≤ r ∧ ∀ c ∈ bs, rank c ≤ r → rank c ≤ rank b := by
  induction bs with
  | nil => exact Or.inl fun b hb => absurd hb (by simp)
  | cons d bs ih =>
    rcases ih with hall | ⟨b, hb, hbr, hmax⟩
    · -- only the first bound can be at or below the place
      by_cases hd : rank d ≤ r
      · refine Or.inr ⟨d, List.mem_cons_self, hd, fun c hc hcr => ?_⟩
        rcases List.mem_cons.mp hc with rfl | hc
        · exact le_refl _
        · exact absurd (hall c hc) (not_lt.mpr hcr)
      · refine Or.inl fun b hb => ?_
        rcases List.mem_cons.mp hb with rfl | hb
        · exact not_le.mp hd
        · exact hall b hb
    · -- the first bound takes the place of the greatest of the others if it is greater still
      by_cases hd : rank d ≤ r ∧ rank b < rank d
      · refine Or.inr ⟨d, List.mem_cons_self, hd.1, fun c hc hcr => ?_⟩
        rcases List.mem_cons.mp hc with rfl | hc
        · exact le_refl _
        · exact (hmax c hc hcr).trans hd.2.le
      · refine Or.inr ⟨b, List.mem_cons_of_mem d hb, hbr, fun c hc hcr => ?_⟩
        rcases List.mem_cons.mp hc with rfl | hc
        · exact not_lt.mp fun h => hd ⟨hcr, h⟩
        · exact hmax c hc hcr

end MetricRelay.Histogram
