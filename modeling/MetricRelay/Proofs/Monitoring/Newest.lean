/-
The newest point of a series.

Points are compared by the instants at which they end, and all of them have to end at one.  The
newest point is the first of those with the latest end, and it counts only if it ends after the
start of 1970:

* `newest_eq_some`, `newest_eq_none` — what is found;
* `IsNewest.unique` — there is one such point at most.
-/
import MetricRelay.Monitoring.Series
import MetricRelay.Proofs.Except

namespace MetricRelay.Monitoring

open Time

/-- A point ends at an instant or before. -/
def Point.EndsBy (p : Point) (t : Instant) : Prop :=
  ∃ u, p.stop.asInstant = .ok u ∧ u.micros ≤ t.micros

/-- The first of the points with the latest end, which is after a given instant. -/
structure IsLatest (after : Instant) (points : List Point) (place : Nat) (p : Point)
    (stop : Instant) :
    Prop where
  mem : points[place]? = some p
  ends : p.stop.asInstant = .ok stop
  late : after.micros < stop.micros
  first : ∀ j q, points[j]? = some q →
    ∃ u, q.stop.asInstant = .ok u ∧ (u.micros < stop.micros ∨ u = stop ∧ place ≤ j)

/-- The point of a series that becomes a reading, with its end. -/
def IsNewest (points : List Point) (p : Point) (stop : Instant) : Prop :=
  ∃ place, IsLatest .epoch points place p stop

/-- No point of a series becomes a reading. -/
def HasNoNewest (points : List Point) : Prop :=
  ∀ p ∈ points, p.EndsBy .epoch

variable {after stop stop' : Instant} {points : List Point} {place place' : Nat} {p p' : Point}

theorem IsLatest.unique (h : IsLatest after points place p stop)
    (h' : IsLatest after points place' p' stop') :
    p = p' ∧ stop = stop' := by
  obtain ⟨u, hu, hfirst⟩ := h.first place' p' h'.mem
  obtain ⟨v, hv, hfirst'⟩ := h'.first place p h.mem
  obtain rfl : stop' = u := Except.ok.inj (h'.ends.symm.trans hu)
  obtain rfl : stop = v := Except.ok.inj (h.ends.symm.trans hv)
  have hplace : place = place' := by
    rcases hfirst with hlt | ⟨rfl, hle⟩
    · rcases hfirst' with hlt' | ⟨rfl, -⟩
      · omega
      · omega
    · rcases hfirst' with hlt' | ⟨-, hle'⟩
      · omega
      · omega
  subst hplace
  obtain rfl : p = p' := Option.some.inj (h.mem.symm.trans h'.mem)
  exact ⟨rfl, Except.ok.inj (h.ends.symm.trans h'.ends)⟩

theorem IsNewest.unique (h : IsNewest points p stop) (h' : IsNewest points p' stop') :
    p = p' ∧ stop = stop' := by
  obtain ⟨place, h⟩ := h
  obtain ⟨place', h'⟩ := h'
  exact h.unique h'

theorem IsNewest.not_hasNoNewest (h : IsNewest points p stop) : ¬HasNoNewest points := by
  obtain ⟨place, h⟩ := h
  intro hnone
  obtain ⟨u, hu, hle⟩ := hnone p (List.mem_of_getElem? h.mem)
  obtain rfl : stop = u := Except.ok.inj (h.ends.symm.trans hu)
  have hlate := h.late
  omega

/-- A point that is not later than the latest so far changes nothing. -/
theorem IsLatest.cons (h : IsLatest after points place p stop) {q : Point} (hq : q.EndsBy after) :
    IsLatest after (q :: points) (place + 1) p stop where
  mem := h.mem
  ends := h.ends
  late := h.late
  first j r hr := by
    cases j with
    | zero =>
      obtain rfl : q = r := Option.some.inj hr
      obtain ⟨u, hu, hle⟩ := hq
      have hlate := h.late
      exact ⟨u, hu, Or.inl (by omega)⟩
    | succ j =>
      obtain ⟨u, hu, hfirst⟩ := h.first j r hr
      exact ⟨u, hu, hfirst.imp_right fun hstop => ⟨hstop.1, Nat.succ_le_succ hstop.2⟩⟩

/-- What is found among points, given the latest one before them. -/
theorem newestAfter_eq_ok {best found : Option (Nat × Point)} {latest : Instant} {n : Nat}
    (h : newestAfter best latest n points = .ok (found, stop)) :
    (found = best ∧ stop = latest ∧ ∀ p ∈ points, p.EndsBy latest) ∨
      ∃ place p, found = some (n + place, p) ∧ IsLatest latest points place p stop := by
  -- over the points, for every latest one that stands before them
  induction points generalizing best latest n with
  | nil =>
    obtain ⟨rfl, rfl⟩ := Prod.mk.inj (Except.ok.inj h)
    exact Or.inl ⟨rfl, rfl, fun _ hp => absurd hp List.not_mem_nil⟩
  | cons q qs ih =>
    obtain ⟨u, hu, h⟩ := Except.bind_eq_ok_iff.mp h
    split at h
    · next hlt =>
      -- the point is the latest so far, and it stays so unless a later one follows
      right
      rcases ih h with ⟨rfl, rfl, hall⟩ | ⟨place, p, rfl, hlatest⟩
      · refine ⟨0, q, rfl, rfl, hu, hlt, fun j r hr => ?_⟩
        cases j with
        | zero =>
          obtain rfl : q = r := Option.some.inj hr
          exact ⟨stop, hu, Or.inr ⟨rfl, Nat.le_refl 0⟩⟩
        | succ j =>
          obtain ⟨v, hv, hle⟩ := hall r (List.mem_of_getElem? hr)
          refine ⟨v, hv, (Int.lt_or_eq_of_le hle).imp_right fun heq => ⟨?_, Nat.zero_le _⟩⟩
          cases v
          cases stop
          exact congrArg _ heq
      · have hcons := hlatest.cons (q := q) ⟨u, hu, Int.le_refl _⟩
        have hlate := hlatest.late
        refine ⟨place + 1, p, by rw [Nat.add_right_comm, Nat.add_assoc], ?_⟩
        exact ⟨hcons.mem, hcons.ends, by omega, hcons.first⟩
    · next hle =>
      -- the point is no later than the one before, so the rest decides
      have hq : q.EndsBy latest := ⟨u, hu, by omega⟩
      rcases ih h with ⟨rfl, rfl, hall⟩ | ⟨place, p, rfl, hlatest⟩
      · exact Or.inl ⟨rfl, rfl, List.forall_mem_cons.mpr ⟨hq, hall⟩⟩
      · exact Or.inr ⟨place + 1, p, by rw [Nat.add_right_comm, Nat.add_assoc], hlatest.cons hq⟩

theorem newest_eq_none (h : newest points = .ok (none, stop)) : HasNoNewest points := by
  rcases newestAfter_eq_ok h with ⟨-, rfl, hall⟩ | ⟨place, p, hfound, -⟩
  · exact hall
  · cases hfound

theorem newest_eq_some (h : newest points = .ok (some (place, p), stop)) :
    IsLatest .epoch points place p stop := by
  rcases newestAfter_eq_ok h with ⟨hfound, -⟩ | ⟨place', p', hfound, hlatest⟩
  · cases hfound
  · obtain ⟨rfl, rfl⟩ := Prod.mk.inj (Option.some.inj hfound)
    rwa [Nat.zero_add]

end MetricRelay.Monitoring
