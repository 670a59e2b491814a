/-
Running histograms stay histograms and only grow.

If every reading given to a store of histograms is cumulative, whatever its layout, then so is every
total after every history, stored or listed, and as long as an entry is not forgotten it loses no
bound and its count falls at none:

* `cumulative_run` — both, for histories of any length;
* `Grows.fold` — what a single reading does to an entry.
-/
import MetricRelay.Proofs.Delta.History
import MetricRelay.Proofs.Histogram.Merge

namespace MetricRelay.Delta

open Histogram

/-- A histogram with ascending bounds, the last of which is positive infinity, and counts that are
not negative, never fall and end with the count of all. -/
def IsCumulative (r : HistogramReading) : Prop :=
  Cumulative r.buckets r.count

/-- A histogram has all bounds of an earlier one and nowhere a lower count. -/
structure Grows (older newer : HistogramReading) : Prop where
  bounds : Assoc.keys older.buckets ⊆ Assoc.keys newer.buckets
  counts : ∀ b, countAt older.buckets b ≤ countAt newer.buckets b

theorem Grows.refl (r : HistogramReading) : Grows r r :=
  ⟨List.Subset.refl _, fun _ => le_refl _⟩

theorem Grows.trans {a b c : HistogramReading} (hab : Grows a b) (hbc : Grows b c) : Grows a c :=
  ⟨fun _ h => hbc.bounds (hab.bounds h), fun x => (hab.counts x).trans (hbc.counts x)⟩

theorem IsCumulative.merge (older newer : HistogramReading) (ho : IsCumulative older)
    (hn : IsCumulative newer) : IsCumulative (Accumulates.merge older newer) :=
  Cumulative.merge ho hn

theorem Grows.fold {x : Entry HistogramReading} (hx : IsCumulative x.total) {r : HistogramReading}
    (hr : IsCumulative r) (now : Float) : Grows x.total (x.fold now r).total := by
  rw [Entry.fold_total]
  split
  · exact ⟨Cumulative.keys_subset_merge hx hr, Cumulative.countAt_le_merge hx hr⟩
  · exact Grows.refl _

/-- An entry that is there before and after a step has grown or stayed. -/
theorem Grows.step {s : Store HistogramReading} (hs : s.Tidy) (hall : s.All IsCumulative)
    {e : Step HistogramReading} (he : ∀ type r, e.action = .increment type r → IsCumulative r)
    {type : Json.Key} {key : String} {x y : Entry HistogramReading}
    (hx : s.lookup? type key = some x) (hy : (s.step e).lookup? type key = some y) :
    Grows x.total y.total := by
  rw [Store.lookup?_step hs, hx] at hy
  cases hr : e.reading? type key with
  | none =>
    rw [hr] at hy
    obtain rfl := Option.some.inj (Option.filter_eq_some_iff.mp hy).1
    exact Grows.refl _
  | some r =>
    rw [hr] at hy
    obtain rfl := Option.some.inj hy
    exact Grows.fold (hall.lookup? hx) (he type r (Step.action_of_reading? hr).1) e.now

/-- A pair has had an entry after an earlier history and after every step since then. -/
def HeldSince (s : Store HistogramReading) (type : Json.Key) (key : String)
    (past h : History HistogramReading) : Prop :=
  ∀ m, past <:+ m → m <:+ h → ((s.run m).lookup? type key).isSome = true

/-- An entry that has not been forgotten since an earlier history has grown since then. -/
theorem Grows.run {s : Store HistogramReading} (hs : s.Tidy) (hall : s.All IsCumulative)
    {past : History HistogramReading} {type : Json.Key} {key : String}
    (more : History HistogramReading) (hh : AllReadings IsCumulative (more ++ past))
    (hheld : HeldSince s type key past (more ++ past)) :
    ∃ x y, (s.run past).lookup? type key = some x ∧
      (s.run (more ++ past)).lookup? type key = some y ∧ Grows x.total y.total := by
  -- on the steps since the earlier history, after each of which the entry is there
  induction more with
  | nil =>
    obtain ⟨x, hx⟩ := Option.isSome_iff_exists.mp
      (hheld past (List.suffix_refl past) (List.suffix_refl past))
    exact ⟨x, x, hx, hx, Grows.refl _⟩
  | cons e more ih =>
    have hrest : AllReadings IsCumulative (more ++ past) := fun d hd =>
      hh d (List.mem_cons_of_mem e hd)
    obtain ⟨x, y, hx, hy, hgrows⟩ := ih hrest fun m hp hm =>
      hheld m hp (hm.trans (List.suffix_cons e _))
    obtain ⟨z, hz⟩ := Option.isSome_iff_exists.mp
      (hheld (e :: (more ++ past)) (List.suffix_append (e :: more) past) (List.suffix_refl _))
    refine ⟨x, z, hx, hz, hgrows.trans (Grows.step (hs.run _) ?_ (hh e List.mem_cons_self) hy hz)⟩
    exact hall.run IsCumulative.merge hrest

/-- **Running histograms stay histograms and only grow.**  If every reading that a history brings is
cumulative, every total that is stored afterwards is, and so is every total that a listing at any
time gives; and an entry that has been held since an earlier history has all bounds that it had then
and nowhere a lower count. -/
theorem cumulative_run (ttl : Float) (h : History HistogramReading)
    (hh : AllReadings IsCumulative h) :
    ((Store.empty ttl).run h).All IsCumulative ∧
    (∀ now type, ∀ r ∈ (((Store.empty ttl).run h).list now type).1, IsCumulative r) ∧
    ∀ past type key, past <:+ h → HeldSince (Store.empty ttl) type key past h →
      ∃ x y, ((Store.empty ttl).run past).lookup? type key = some x ∧
        ((Store.empty ttl).run h).lookup? type key = some y ∧ Grows x.total y.total := by
  have hall : ((Store.empty ttl).run h).All IsCumulative :=
    (Store.all_empty ttl).run IsCumulative.merge hh
  refine ⟨hall, fun now type r hr => hall.mem_list hr, ?_⟩
  rintro past type key ⟨more, rfl⟩ hheld
  exact Grows.run (Store.tidy_empty ttl) (Store.all_empty ttl) more hh hheld

/-- A histogram with one bound and as many observations up to it as there are at all. -/
def stepAt (bound : Float) (n : Int) : HistogramReading :=
  { name := "latency", help := .null, kind := .counter, labels := [], time := ⟨n⟩
    count := n, sum := 0, buckets := [(bound, n), (Decimal.infinity, n)] }

theorem isCumulative_stepAt_one : IsCumulative (stepAt 1 5) :=
  ⟨by decide, by decide, by decide, rfl⟩

theorem isCumulative_stepAt_two : IsCumulative (stepAt 2 6) :=
  ⟨by decide, by decide, by decide, rfl⟩

/-- Two readings of one histogram with different layouts, then a listing. -/
def twoLayouts : History HistogramReading :=
  [⟨20, .list (.text "t")⟩, ⟨10, .increment (.text "t") (stepAt 2 6)⟩,
    ⟨0, .increment (.text "t") (stepAt 1 5)⟩]

theorem cumulative_run_twoLayouts :
    AllReadings IsCumulative twoLayouts ∧
    ((Store.empty 30).run twoLayouts).All IsCumulative ∧
    (∀ now type, ∀ r ∈ (((Store.empty 30).run twoLayouts).list now type).1, IsCumulative r) ∧
    ∀ past type key, past <:+ twoLayouts → HeldSince (Store.empty 30) type key past twoLayouts →
      ∃ x y, ((Store.empty 30).run past).lookup? type key = some x ∧
        ((Store.empty 30).run twoLayouts).lookup? type key = some y ∧ Grows x.total y.total := by
  have hgiven : AllReadings IsCumulative twoLayouts := by
    intro e he type r hr
    simp only [twoLayouts, List.mem_cons, List.not_mem_nil, or_false] at he
    rcases he with rfl | rfl | rfl
    · cases hr
    · cases hr
      exact isCumulative_stepAt_two
    · cases hr
      exact isCumulative_stepAt_one
  exact ⟨hgiven, cumulative_run 30 twoLayouts hgiven⟩

end MetricRelay.Delta
