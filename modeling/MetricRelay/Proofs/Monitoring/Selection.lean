/-
The selection of the newest point.

All points have to end at an instant, wherever they stand, and the first that does not tells the
fault.  If they do, only the instants decide and not the zones in which they are written: there is a
newest point exactly if some point ends after the start of 1970, and among points with different
ends the order does not matter.

* `newestAfter_append` — the points behind others are looked through with what those have left;
* `newest_eq_error_iff`, `newest_eq_none_iff`, `exists_newest_eq_some` — the three outcomes;
* `newest_perm` — points in another order.
-/
import Mathlib.Data.List.Nodup
import MetricRelay.Proofs.Monitoring.Newest
import MetricRelay.Proofs.Time.Spelling

namespace MetricRelay.Monitoring

open Time

/-- A point ends at an instant. -/
def Point.Ends (p : Point) : Prop :=
  ∃ t, p.stop.asInstant = .ok t

/-- The fault of the first point that ends at no instant. -/
def IsFirstFault (points : List Point) (fault : Fault) : Prop :=
  ∃ front p back, points = front ++ p :: back ∧ (∀ q ∈ front, q.Ends) ∧
    p.stop.asInstant = .error fault

/-- What is found among points, without its place. -/
def unplaced (found : Option (Nat × Point) × Instant) : Option Point × Instant :=
  (found.1.map Prod.snd, found.2)

variable {points points' : List Point} {place : Nat} {p : Point} {stop : Instant} {fault : Fault}

theorem Point.EndsBy.ends {t : Instant} (h : p.EndsBy t) : p.Ends := by
  obtain ⟨u, hu, -⟩ := h
  exact ⟨u, hu⟩

theorem IsLatest.endsBy {after : Instant} (h : IsLatest after points place p stop) :
    ∀ q ∈ points, q.EndsBy stop := by
  intro q hq
  obtain ⟨j, hj⟩ := List.mem_iff_getElem?.mp hq
  obtain ⟨u, hu, hfirst⟩ := h.first j q hj
  refine ⟨u, hu, ?_⟩
  rcases hfirst with hlt | ⟨rfl, -⟩
  · exact Int.le_of_lt hlt
  · exact Int.le_refl _

/-! ### Points that end at no instant -/

theorem exists_isFirstFault_of_not_ends (h : ¬∀ p ∈ points, p.Ends) :
    ∃ fault, IsFirstFault points fault := by
  induction points with
  | nil => exact absurd (fun _ hp => absurd hp List.not_mem_nil) h
  | cons q qs ih =>
    cases hq : q.stop.asInstant with
    | error fault => exact ⟨fault, [], q, qs, rfl, fun _ hp => absurd hp List.not_mem_nil, hq⟩
    | ok t =>
      have hqs : ¬∀ p ∈ qs, p.Ends := fun hqs => h (List.forall_mem_cons.mpr ⟨⟨t, hq⟩, hqs⟩)
      obtain ⟨fault, front, p, back, rfl, hfront, hp⟩ := ih hqs
      exact ⟨fault, q :: front, p, back, rfl, List.forall_mem_cons.mpr ⟨⟨t, hq⟩, hfront⟩, hp⟩

/-- A point that ends at an instant is the newest so far if it ends later than those before it. -/
theorem newestAfter_cons {best : Option (Nat × Point)} {latest t : Instant} {n : Nat}
    (ht : p.stop.asInstant = .ok t) : newestAfter best latest n (p :: points) =
      if latest.micros < t.micros then newestAfter (some (n, p)) t (n + 1) points
      else newestAfter best latest (n + 1) points := by
  rw [newestAfter, ht]
  rfl

/-- Points behind others are looked through with what those have left. -/
theorem newestAfter_append (best : Option (Nat × Point)) (latest : Instant) (n : Nat)
    (front back : List Point) :
    newestAfter best latest n (front ++ back) =
      newestAfter best latest n front >>= fun found =>
      newestAfter found.1 found.2 (n + front.length) back := by
  -- over the points in front, for every latest one that stands before them
  induction front generalizing best latest n with
  | nil => rfl
  | cons q qs ih =>
    have hlength : n + (q :: qs).length = n + 1 + qs.length := by
      rw [List.length_cons, Nat.add_comm qs.length, Nat.add_assoc]
    rw [List.cons_append, hlength]
    cases ht : q.stop.asInstant with
    | error fault =>
      rw [newestAfter, newestAfter, ht]
      rfl
    | ok t =>
      rw [newestAfter_cons ht, newestAfter_cons ht]
      split
      · exact ih _ _ _
      · exact ih _ _ _

/-- Points that end at instants are looked through to the last one. -/
theorem exists_newestAfter_eq_ok (h : ∀ p ∈ points, p.Ends) (best : Option (Nat × Point))
    (latest : Instant) (n : Nat) : ∃ found, newestAfter best latest n points = .ok found := by
  induction points generalizing best latest n with
  | nil => exact ⟨_, rfl⟩
  | cons q qs ih =>
    obtain ⟨⟨t, ht⟩, hqs⟩ := List.forall_mem_cons.mp h
    rw [newestAfter_cons ht]
    split
    · exact ih hqs _ _ _
    · exact ih hqs _ _ _

theorem newest_of_isFirstFault (h : IsFirstFault points fault) : newest points = .error fault := by
  obtain ⟨front, p, back, rfl, hfront, hp⟩ := h
  obtain ⟨found, hfound⟩ := exists_newestAfter_eq_ok hfront none .epoch 0
  rw [newest, newestAfter_append, hfound]
  show newestAfter found.1 found.2 _ (p :: back) = _
  rw [newestAfter, hp]
  rfl

theorem newest_eq_error_iff : newest points = .error fault ↔ IsFirstFault points fault := by
  refine ⟨fun h => ?_, newest_of_isFirstFault⟩
  -- some point ends at no instant, and the first of those tells a fault, which is the one that was
  -- told
  have hends : ¬∀ p ∈ points, p.Ends := by
    intro hends
    obtain ⟨found, hfound⟩ := exists_newestAfter_eq_ok hends none .epoch 0
    cases hfound.symm.trans h
  obtain ⟨fault', hfault⟩ := exists_isFirstFault_of_not_ends hends
  obtain rfl := Except.error.inj (h.symm.trans (newest_of_isFirstFault hfault))
  exact hfault

/-! ### Points that all end at instants -/

/-- Among points that end at instants there is no newest one, or the first of those with the latest
end is. -/
theorem newest_cases (h : ∀ p ∈ points, p.Ends) :
    (newest points = .ok (none, .epoch) ∧ HasNoNewest points) ∨
      ∃ place p stop, newest points = .ok (some (place, p), stop) ∧
      IsLatest .epoch points place p stop := by
  obtain ⟨⟨found, stop⟩, hfound⟩ := exists_newestAfter_eq_ok h none .epoch 0
  rcases newestAfter_eq_ok hfound with ⟨rfl, rfl, hall⟩ | ⟨place, p, rfl, -⟩
  · exact Or.inl ⟨hfound, hall⟩
  · exact Or.inr ⟨_, p, stop, hfound, newest_eq_some hfound⟩

theorem newest_eq_none_iff : newest points = .ok (none, .epoch) ↔ HasNoNewest points := by
  refine ⟨newest_eq_none, fun h => ?_⟩
  rcases newest_cases fun p hp => (h p hp).ends with ⟨hnone, -⟩ | ⟨place, p, stop, -, hlatest⟩
  · exact hnone
  · exact absurd h (IsNewest.not_hasNoNewest ⟨place, hlatest⟩)

theorem exists_newest_eq_some (h : ∀ p ∈ points, p.Ends) (hsome : ¬HasNoNewest points) :
    ∃ place p stop, newest points = .ok (some (place, p), stop) ∧
    IsLatest .epoch points place p stop := by
  rcases newest_cases h with ⟨-, hnone⟩ | hfound
  · exact absurd hnone hsome
  · exact hfound

theorem asInstant_text_eq_ok_iff {s : String} {t : Instant} :
    (Json.text s).asInstant = .ok t ↔ Timestamp.parse s = .ok t := by
  rw [Json.asInstant]
  cases Timestamp.parse s <;> simp [Except.mapError]

/-- A timestamp in any zone that is the end of a point is that of the instant that it names. -/
theorem eq_of_spells {s : String} {w : Timestamp.Spelling} {n : Int} (hs : w.Spells s.toList)
    (hn : w.Names n) {t : Instant} (h : (Json.text s).asInstant = .ok t) : t = ⟨n⟩ := by
  rw [asInstant_text_eq_ok_iff, Timestamp.parse_of_spells hs,
    Timestamp.Spelling.instant_form_of_names hn] at h
  cases hn' : Instant.ofMicros? n with
  | none =>
    rw [hn'] at h
    cases h
  | some u =>
    rw [hn'] at h
    obtain rfl := Except.ok.inj h
    obtain ⟨-, rfl⟩ := ofMicros?_eq_some_iff.mp hn'
    rfl

/-! ### The order of points -/

theorem HasNoNewest.perm (h : HasNoNewest points) (hperm : points'.Perm points) :
    HasNoNewest points' :=
  fun p hp => h p (hperm.subset hp)

/-- The latest end of some of the points is no later than that of all. -/
theorem IsLatest.stop_le_of_subset {place' : Nat} {p' : Point} {stop' : Instant}
    (h : IsLatest .epoch points place p stop) (h' : IsLatest .epoch points' place' p' stop')
    (hsub : points' ⊆ points) : stop'.micros ≤ stop.micros := by
  obtain ⟨u, hu, hle⟩ := h.endsBy p' (hsub (List.mem_of_getElem? h'.mem))
  obtain rfl := Except.ok.inj (h'.ends.symm.trans hu)
  exact hle

/-- The newest of points with different ends, and its end, do not depend on their order. -/
theorem newest_perm (hperm : points'.Perm points) (h : ∀ p ∈ points, p.Ends)
    (hends : (points.map fun p => p.stop.asInstant).Nodup) :
    (newest points').map unplaced = (newest points).map unplaced := by
  rcases newest_cases h with ⟨heq, hnone⟩ | ⟨place, p, stop, heq, hlatest⟩
  · rw [heq, newest_eq_none_iff.mpr (hnone.perm hperm)]
  · have hsome : ¬HasNoNewest points' := fun hnone =>
      IsNewest.not_hasNoNewest ⟨place, hlatest⟩ (hnone.perm hperm.symm)
    obtain ⟨place', p', stop', heq', hlatest'⟩ :=
      exists_newest_eq_some (fun p hp => h p (hperm.subset hp)) hsome
    have hle := hlatest.stop_le_of_subset hlatest' hperm.subset
    have hle' := hlatest'.stop_le_of_subset hlatest hperm.symm.subset
    obtain rfl : stop' = stop := by
      cases stop
      cases stop'
      exact congrArg _ (Int.le_antisymm hle hle')
    -- both points are among the given ones, of which no two end at one instant
    have hmem := List.mem_of_getElem? hlatest.mem
    have hmem' := hperm.subset (List.mem_of_getElem? hlatest'.mem)
    obtain rfl : p' = p :=
      List.inj_on_of_nodup_map hends hmem' hmem (hlatest'.ends.trans hlatest.ends.symm)
    rw [heq, heq']
    rfl

/-- Which point of a series is its newest.  If all points end at instants, those that their
timestamps name in whatever zones, there is none exactly if no point ends after the start of 1970,
and otherwise it is the first point with the latest end, which comes with it; if no two ends are one
instant, the order of the points does not matter.  The fault is that of the first point that ends at
no instant, and there is one if any point does so. -/
theorem newest_isLatest (points : List Point) :
    ((∀ p ∈ points, p.Ends) →
      (newest points = .ok (none, .epoch) ↔ HasNoNewest points) ∧
      (¬HasNoNewest points → ∃ place p stop,
        newest points = .ok (some (place, p), stop) ∧ IsLatest .epoch points place p stop) ∧
      (∀ p ∈ points, ∀ (s : String) (w : Timestamp.Spelling) (n : Int), p.stop = .text s →
        w.Spells s.toList → w.Names n → p.stop.asInstant = .ok ⟨n⟩) ∧
      ((points.map fun p => p.stop.asInstant).Nodup → ∀ points' : List Point, points'.Perm points →
        (newest points').map unplaced = (newest points).map unplaced)) ∧
    (∀ fault, newest points = .error fault ↔ IsFirstFault points fault) ∧
    ((∃ p ∈ points, ¬p.Ends) → ∃ fault, newest points = .error fault) := by
  refine ⟨fun h => ⟨newest_eq_none_iff, exists_newest_eq_some h, ?_, ?_⟩,
    fun fault => newest_eq_error_iff, ?_⟩
  · intro p hp s w n htext hs hn
    obtain ⟨t, ht⟩ := h p hp
    rw [htext] at ht ⊢
    rw [ht, eq_of_spells hs hn ht]
  · intro hends points' hperm
    exact newest_perm hperm h hends
  · rintro ⟨p, hp, hbroken⟩
    obtain ⟨fault, hfault⟩ := exists_isFirstFault_of_not_ends fun h => hbroken (h p hp)
    exact ⟨fault, newest_of_isFirstFault hfault⟩

/-- A point with a given end and no value. -/
def Point.endingAt (s : String) : Point :=
  ⟨.null, .text s, {}⟩

/-- A point that ends at eight o'clock in universal time. -/
def atEight : Point :=
  .endingAt "2024-01-01T08:00:00Z"

/-- A point that ends at half past eight, when it is noon three and a half hours ahead. -/
def atNoon : Point :=
  .endingAt "2024-01-01T12:00:00+03:30"

/-- A point that ends at half past eight, when it is half past three five hours behind. -/
def atNight : Point :=
  .endingAt "2024-01-01T03:30:00-05:00"

/-- Half past eight is written in two zones, and the first of the two points with that end is the
newest. -/
theorem newest_isLatest_zones :
    (∃ place, newest [atEight, atNoon, atNight] = .ok (some (place, atNoon), ⟨1704097800000000⟩)) ∧
    (newest [atNoon, atEight]).map unplaced = .ok (some atNoon, ⟨1704097800000000⟩) ∧
    newest [atEight, .endingAt "yesterday", .endingAt ""]
      = .error (.timestamp (.text "yesterday") .form) := by
  have height : atEight.stop.asInstant = .ok ⟨1704096000000000⟩ :=
    asInstant_text_eq_ok_iff.mpr (by decide +kernel)
  have hnoon : atNoon.stop.asInstant = .ok ⟨1704097800000000⟩ :=
    asInstant_text_eq_ok_iff.mpr (by decide +kernel)
  have hnight : atNight.stop.asInstant = .ok ⟨1704097800000000⟩ :=
    asInstant_text_eq_ok_iff.mpr (by decide +kernel)
  refine ⟨?_, ?_, ?_⟩
  · have hends : ∀ p ∈ [atEight, atNoon, atNight], p.Ends :=
      List.forall_mem_cons.mpr
        ⟨⟨_, height⟩,
          List.forall_mem_cons.mpr ⟨⟨_, hnoon⟩, List.forall_mem_singleton.mpr ⟨_, hnight⟩⟩⟩
    have hlatest : IsNewest [atEight, atNoon, atNight] atNoon ⟨1704097800000000⟩ := by
      refine ⟨1, rfl, hnoon, by decide, fun j q hq => ?_⟩
      rcases j with _ | _ | _ | j
      · obtain rfl := Option.some.inj hq
        exact ⟨_, height, Or.inl (by decide)⟩
      · obtain rfl := Option.some.inj hq
        exact ⟨_, hnoon, Or.inr ⟨rfl, by decide⟩⟩
      · obtain rfl := Option.some.inj hq
        exact ⟨_, hnight, Or.inr ⟨rfl, by decide⟩⟩
      · cases hq
    obtain ⟨place, p, stop, heq, hfound⟩ :=
      ((newest_isLatest _).1 hends).2.1 hlatest.not_hasNoNewest
    obtain ⟨rfl, rfl⟩ := hlatest.unique ⟨place, hfound⟩
    exact ⟨place, heq⟩
  · have hends : ∀ p ∈ [atEight, atNoon], p.Ends :=
      List.forall_mem_cons.mpr ⟨⟨_, height⟩, List.forall_mem_singleton.mpr ⟨_, hnoon⟩⟩
    have hdistinct : ([atEight, atNoon].map fun p => p.stop.asInstant).Nodup := by
      simp [height, hnoon]
    refine (((newest_isLatest _).1 hends).2.2.2 hdistinct _ (.swap _ _ _)).trans ?_
    rw [newest, newestAfter_cons height, if_pos (by decide), newestAfter_cons hnoon,
      if_pos (by decide)]
    rfl
  · have hbroken : Timestamp.parse "yesterday" = .error .form := by decide +kernel
    refine ((newest_isLatest _).2.1 _).mpr ⟨[atEight], .endingAt "yesterday", [.endingAt ""], rfl,
      List.forall_mem_singleton.mpr ⟨_, height⟩, ?_⟩
    show (Timestamp.parse "yesterday").mapError _ = _
    rw [hbroken]
    rfl

end MetricRelay.Monitoring
