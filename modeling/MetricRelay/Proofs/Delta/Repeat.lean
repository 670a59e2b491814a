/-
Readings that come again change nothing.

A reading leaves the entry of its key seen now and at least as new as itself (`Entry.Covers`).
While the clock stands still, such an entry takes in the reading once more without a change, and it
is not stale.  So the tracker of a type, once readings have been added and the type has been listed,
is settled:

* `covered_incrementAll`, `settled_list` — how a tracker becomes settled;
* `Settled.incrementAll_eq`, `Settled.list_eq` — a settled tracker stays as it is when the same
  readings are added and the type is listed again, and so does all of the store;
* `repeat_eq` — adding and listing twice is the same as once, whatever happens to other types
  between.
-/
import MetricRelay.Proofs.Delta.Frame
import MetricRelay.Proofs.Delta.History

namespace MetricRelay.Delta

variable {α : Type} [Accumulates α]

/-- An entry has been seen now, and its total is not older than a reading. -/
structure Entry.Covers (e : Entry α) (now : Float) (r : α) : Prop where
  seen : e.lastSeen = now
  newer : (Accumulates.time r).micros ≤ (Accumulates.time e.total).micros

/-- An entry that covers a reading takes it in without a change. -/
theorem Entry.Covers.fold_eq {e : Entry α} {now : Float} {r : α} (h : e.Covers now r) :
    e.fold now r = e := by
  rw [Entry.fold, if_neg (not_lt.mpr h.newer), ← h.seen]

theorem time_merge [Headed α] (older newer : α) :
    Accumulates.time (Accumulates.merge older newer) = Accumulates.time newer := by
  rw [Headed.time_eq, Headed.heading_merge, Headed.time_eq]

/-- Totals never get older. -/
theorem Entry.time_le_fold [Headed α] (e : Entry α) (now : Float) (r : α) :
    (Accumulates.time e.total).micros ≤ (Accumulates.time (e.fold now r).total).micros ∧
      (Accumulates.time r).micros ≤ (Accumulates.time (e.fold now r).total).micros := by
  rw [Entry.fold_total]
  split
  · next h =>
    rw [time_merge]
    exact ⟨h.le, le_refl _⟩
  · next h => exact ⟨le_refl _, not_lt.mp h⟩

namespace Store

theorem covers_extended [Headed α] (e : Option (Entry α)) (now : Float) (r : α) :
    (extended e now r).Covers now r := by
  cases e with
  | none => exact ⟨rfl, le_refl _⟩
  | some e => exact ⟨e.fold_lastSeen now r, (e.time_le_fold now r).2⟩

theorem covers_extended_of_covers [Headed α] {e : Entry α} {now : Float} {q : α}
    (h : e.Covers now q) (r : α) : (extended (some e) now r).Covers now q :=
  ⟨e.fold_lastSeen now r, h.newer.trans (e.time_le_fold now r).1⟩

/-- The entries of a type cover some readings. -/
def Covered (s : Store α) (now : Float) (type : Json.Key) (rs : List α) : Prop :=
  ∀ r ∈ rs, ∃ e, s.lookup? type (Accumulates.key r) = some e ∧ e.Covers now r

/-- Readings that have been added are covered, as later ones make no total older. -/
theorem covered_incrementAll [Headed α] (s : Store α) (now : Float) (type : Json.Key)
    (rs : List α) :
    (s.incrementAll now type rs).Covered now type rs := by
  induction rs using List.reverseRecOn with
  | nil => exact fun r h => absurd h List.not_mem_nil
  | append_singleton rs r ih =>
    have hlast : s.incrementAll now type (rs ++ [r])
        = (s.incrementAll now type rs).increment now type r := by
      simp only [incrementAll, List.foldl_append, List.foldl_cons, List.foldl_nil]
    rw [hlast]
    refine List.forall_mem_append.mpr ⟨fun q hq => ?_, List.forall_mem_singleton.mpr ?_⟩
    · obtain ⟨e, he, hcovers⟩ := ih q hq
      rw [lookup?_increment]
      by_cases hkey : Accumulates.key r = Accumulates.key q
      · rw [if_pos ⟨rfl, hkey⟩, he]
        exact ⟨_, rfl, covers_extended_of_covers hcovers r⟩
      · rw [if_neg fun h => hkey h.2]
        exact ⟨e, he, hcovers⟩
    · rw [lookup?_increment, if_pos ⟨rfl, rfl⟩]
      exact ⟨_, rfl, covers_extended _ now r⟩

omit [Accumulates α] in
/-- An entry that was seen now is not stale. -/
theorem drops_eq_false (s : Store α) {now : Float} {e : Entry α} (h : e.lastSeen = now) :
    s.drops now e = false := by
  rw [Bool.eq_false_iff]
  intro hdrops
  obtain ⟨httl, hstale⟩ := (s.drops_iff now e).mp hdrops
  rw [h] at hstale
  exact Decimal.not_lt_sub_self httl now hstale

/-- The entries of a type cover some readings, and none of them is stale. -/
structure Settled (s : Store α) (now : Float) (type : Json.Key) (rs : List α) : Prop where
  covered : s.Covered now type rs
  live : ∀ e ∈ s.tracker type, s.drops now e.2 = false

section

variable {s t : Store α} {now : Float} {type : Json.Key} {rs : List α}

/-- Covered readings stay covered when their type is listed, and what is stale goes. -/
theorem settled_list (hs : s.Tidy) (h : s.Covered now type rs) :
    (s.list now type).2.Settled now type rs where
  covered r hr := by
    obtain ⟨e, he, hcovers⟩ := h r hr
    refine ⟨e, ?_, hcovers⟩
    rw [lookup?_list hs, if_pos rfl, he, Option.filter_some, drops_eq_false s hcovers.seen]
    rfl
  live e he := by
    rw [tracker_list hs, if_pos rfl, live_eq_filter] at he
    have hkept : s.drops now e.2 = false := by simpa using (List.mem_filter.mp he).2
    rw [drops, list_ttl]
    exact hkept

theorem Settled.of_sameTracker (h : s.Settled now type rs) (hst : SameTracker type s t) :
    t.Settled now type rs where
  covered r hr := by
    rw [lookup?, ← hst.tracker]
    exact h.covered r hr
  live e he := by
    rw [drops, ← hst.ttl]
    exact h.live e (hst.tracker ▸ he)

/-- A reading that is covered changes nothing in the store. -/
theorem Settled.increment_eq (h : s.Settled now type rs) {r : α} (hr : r ∈ rs) :
    s.increment now type r = s := by
  obtain ⟨e, he, hcovers⟩ := h.covered r hr
  have htracker : Assoc.get? s.trackers type = some (s.tracker type) := by
    rw [tracker]
    cases hget : Assoc.get? s.trackers type with
    | some t => rfl
    | none =>
      -- a type without a tracker has no entries
      rw [lookup?, tracker, hget] at he
      cases he
  rw [Store.increment_eq, he]
  show { s with
      trackers := Assoc.put s.trackers type
        (Assoc.put (s.tracker type) (Accumulates.key r) (e.fold now r)) } = s
  rw [hcovers.fold_eq, Assoc.put_eq_self he, Assoc.put_eq_self htracker]

theorem Settled.incrementAll_eq (h : s.Settled now type rs) : s.incrementAll now type rs = s := by
  have hall : ∀ qs, qs ⊆ rs → s.incrementAll now type qs = s := by
    intro qs hqs
    induction qs with
    | nil => rfl
    | cons q qs ih =>
      obtain ⟨hq, hqs⟩ := List.cons_subset.mp hqs
      rw [incrementAll_cons, h.increment_eq hq, ih hqs]
  exact hall rs (List.Subset.refl rs)

theorem Settled.live_eq (h : s.Settled now type rs) :
    s.live now (s.tracker type) = s.tracker type := by
  rw [live_eq_filter, List.filter_eq_self]
  intro e he
  rw [h.live e he]
  rfl

/-- A listing without stale entries changes nothing in the store. -/
theorem Settled.list_eq (h : s.Settled now type rs) (hs : s.Tidy) : (s.list now type).2 = s := by
  rw [Store.list]
  split
  · rfl
  · next hne =>
    show { s with trackers := s.sweepTrackers now (· == type) } = s
    rw [sweepTrackers_eq]
    split
    · rfl
    · have hkeep : ∀ e ∈ s.trackers, s.sweepTracker now (· == type) e = some e := by
        intro e he
        rw [sweepTracker]
        split
        · next htype =>
          have htracker : s.tracker type = e.2 := by
            rw [tracker, ← eq_of_beq htype, (Assoc.get?_eq_some_iff hs.types).mpr he]
            rfl
          rw [← htracker, h.live_eq]
          split
          · next hnil => exact absurd hnil hne
          · rw [htracker]
        · rfl
      rw [List.filterMap_congr hkeep, List.filterMap_some]

/-- **Adding readings and listing their type twice is the same as once**, while the clock stands
still and whatever happens to other types in between. -/
theorem repeat_eq [Headed α] (hs : s.Tidy) (ht : t.Tidy)
    (h : SameTracker type ((s.incrementAll now type rs).list now type).2 t) :
    t.incrementAll now type rs = t ∧ (t.list now type).2 = t ∧
      (t.list now type).1 = ((s.incrementAll now type rs).list now type).1 := by
  have hadded : (s.incrementAll now type rs).Tidy := (ChangesOnly.incrementAll hs now rs).tidy
  have hsettled := settled_list hadded (covered_incrementAll s now type rs)
  have ht' : t.Settled now type rs := hsettled.of_sameTracker h
  refine ⟨ht'.incrementAll_eq, ht'.list_eq ht, ?_⟩
  rw [list_fst, list_fst, ht'.live_eq, ← h.tracker, tracker_list hadded, if_pos rfl]

end

end Store

end MetricRelay.Delta
