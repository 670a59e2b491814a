/-
A pass of the sweeper.

An entry is overdue if its key has gone unseen for longer than a positive time to live.  Seen as a
list of its entries, a store loses the overdue ones and keeps the others as they are and in their
order; as no tracker of a store is ever empty, none is left behind.  For the stores of a sweeper,
whatever has happened to them:

* `entries_evict`, `evict_fst` — the entries of a store after an eviction, and how many have gone;
* `Filled.run` — after every history each tracker has entries;
* `evict_evict` — what was evicted once has nothing to evict at the same time;
* `sweepAt_exact` — a pass over any stores, some of which may fail.
-/
import MetricRelay.Delta.Sweeper
import MetricRelay.Proofs.Delta.History

namespace MetricRelay.Delta

/-- Whether a key that was seen at some time has gone unseen for longer than a time to live. -/
def Overdue (ttl now seen : Float) : Prop :=
  0 < ttl ∧ ttl < now - seen

instance (ttl now seen : Float) : Decidable (Overdue ttl now seen) :=
  inferInstanceAs (Decidable (_ ∧ _))

namespace Store

variable {α : Type}

/-- The entries of all trackers, each with its type and its key. -/
def entries (s : Store α) : List (Json.Key × String × Entry α) :=
  s.trackers.flatMap fun t => t.2.map fun e => (t.1, e.1, e.2)

/-- No tracker is empty. -/
def Filled (s : Store α) : Prop :=
  ∀ t ∈ s.trackers, t.2 ≠ []

/-! ### Evictions -/

theorem drops_eq_overdue (s : Store α) (now : Float) (e : Entry α) :
    s.drops now e = decide (Overdue s.ttl now e.lastSeen) := by
  rw [Bool.eq_iff_iff, drops_iff, decide_eq_true_eq, Overdue]

theorem size_eq (s : Store α) : s.size = s.entries.length := by
  rw [size, entries]
  induction s.trackers with
  | nil => rfl
  | cons t ts ih => rw [List.foldr_cons, ih, List.flatMap_cons, List.length_append, List.length_map]

/-- What is left of the entries of one tracker, which may be no tracker any more. -/
theorem entries_sweepTracker (s : Store α) (now : Float) (t : Json.Key × Tracker α) :
    (s.sweepTracker now (fun _ => true) t).toList.flatMap
        (fun t => t.2.map fun e => (t.1, e.1, e.2))
      = (t.2.map fun e => (t.1, e.1, e.2)).filter fun e => !s.drops now e.2.2 := by
  have hlive : (s.live now t.2).map (fun e => (t.1, e.1, e.2))
      = (t.2.map fun e => (t.1, e.1, e.2)).filter fun e => !s.drops now e.2.2 := by
    rw [live_eq_filter, List.filter_map]
    rfl
  rw [← hlive, sweepTracker, if_pos rfl]
  cases s.live now t.2 with
  | nil => rfl
  | cons e es => exact List.flatMap_singleton _ _

/-- An eviction takes the overdue entries and leaves the others as they are. -/
theorem entries_evict (s : Store α) (now : Float) :
    (s.evict now).2.entries
      = s.entries.filter fun e => !decide (Overdue s.ttl now e.2.2.lastSeen) := by
  simp only [← drops_eq_overdue]
  rw [evict, entries, sweepTrackers_eq, entries]
  split
  · next h =>
    have hkeep : ∀ e : Json.Key × String × Entry α, (!s.drops now e.2.2) = true := fun e => by
      simp [drops, h]
    exact (List.filter_eq_self.mpr fun e _ => hkeep e).symm
  · induction s.trackers with
    | nil => rfl
    | cons t ts ih =>
      rw [List.flatMap_cons, List.filter_append, ← ih, ← entries_sweepTracker, List.filterMap_cons]
      cases s.sweepTracker now (fun _ => true) t with
      | none => rfl
      | some d => rw [List.flatMap_cons, Option.toList_some, List.flatMap_singleton]

theorem staleCount_eq (s : Store α) (now : Float) (t : Tracker α) :
    s.staleCount now t = (t.filter fun e => s.drops now e.2).length := by
  rw [staleCount]
  split
  · next h => simp [drops, h]
  · next h => simp [drops, h]

/-- The counts of the trackers make up that of all overdue entries. -/
theorem evict_fst (s : Store α) (now : Float) :
    (s.evict now).1
      = (s.entries.filter fun e => decide (Overdue s.ttl now e.2.2.lastSeen)).length := by
  simp only [← drops_eq_overdue]
  rw [evict, entries]
  induction s.trackers with
  | nil => rfl
  | cons t ts ih =>
    have hhead : ((t.2.map fun e => (t.1, e.1, e.2)).filter fun e => s.drops now e.2.2).length
        = s.staleCount now t.2 := by
      rw [staleCount_eq, List.filter_map, List.length_map]
      rfl
    rw [List.flatMap_cons, List.filter_append, List.length_append, hhead, ← ih]
    rfl

/-- The store shrinks by the entries that are counted. -/
theorem evict_fst_add_size (s : Store α) (now : Float) :
    (s.evict now).1 + (s.evict now).2.size = s.size := by
  rw [evict_fst, size_eq, size_eq, entries_evict]
  exact (List.length_eq_length_filter_add _).symm

theorem live_live (s : Store α) (now : Float) (t : Tracker α) :
    s.live now (s.live now t) = s.live now t := by
  rw [live_eq_filter, live_eq_filter, List.filter_filter]
  simp only [Bool.and_self]

theorem sweepTracker_eq_self {s : Store α} {now : Float} {concerns : Json.Key → Bool}
    {t d : Json.Key × Tracker α} (h : s.sweepTracker now concerns t = some d) :
    s.sweepTracker now concerns d = some d := by
  obtain ⟨hconcerns, hne, rfl⟩ | ⟨-, rfl⟩ := sweepTracker_eq_some h
  · rw [sweepTracker, if_pos hconcerns, live_live]
    split
    · next hnil => exact absurd hnil hne
    · rfl
  · exact h

theorem sweepTrackers_idem (s : Store α) (now : Float) (concerns : Json.Key → Bool) :
    ({ s with trackers := s.sweepTrackers now concerns } : Store α).sweepTrackers now concerns
      = s.sweepTrackers now concerns := by
  rw [sweepTrackers_eq, sweepTrackers_eq]
  split
  · rfl
  · have hkeep : ∀ d ∈ s.trackers.filterMap (s.sweepTracker now concerns),
        s.sweepTracker now concerns d = some d := by
      intro d hd
      obtain ⟨t, -, ht⟩ := List.mem_filterMap.mp hd
      exact sweepTracker_eq_self ht
    exact (List.filterMap_congr hkeep).trans (List.filterMap_some ..)

theorem evict_evict (s : Store α) (now : Float) :
    (s.evict now).2.evict now = (0, (s.evict now).2) := by
  have hcount : ((s.evict now).2.evict now).1 = 0 := by
    rw [evict_fst, List.length_eq_zero_iff, List.filter_eq_nil_iff, entries_evict]
    intro e he
    have hkept := (List.mem_filter.mp he).2
    rw [Bool.not_eq_true', decide_eq_false_iff_not] at hkept
    rw [decide_eq_true_eq]
    exact hkept
  have hstore : ((s.evict now).2.evict now).2 = (s.evict now).2 := by
    rw [evict, evict, sweepTrackers_idem]
  exact Prod.ext hcount hstore

/-! ### No empty trackers -/

theorem filled_empty (ttl : Float) : (empty ttl : Store α).Filled :=
  fun t ht => absurd ht (by simp [empty])

theorem Filled.sweep {s : Store α} (hs : s.Filled) (now : Float) (concerns : Json.Key → Bool) :
    ({ s with trackers := s.sweepTrackers now concerns } : Store α).Filled := by
  intro d hd
  rw [sweepTrackers_eq] at hd
  split at hd
  · exact hs d hd
  · obtain ⟨t, ht, h⟩ := List.mem_filterMap.mp hd
    obtain ⟨-, hne, rfl⟩ | ⟨-, rfl⟩ := sweepTracker_eq_some h
    · exact hne
    · exact hs _ ht

variable [Accumulates α]

theorem Filled.increment {s : Store α} (hs : s.Filled) (now : Float) (type : Json.Key) (r : α) :
    (s.increment now type r).Filled := by
  rw [increment_eq]
  refine Assoc.forall_mem_put (p := fun t : Tracker α => t ≠ []) hs ?_
  intro hnil
  have hput := Assoc.get?_put_self (s.tracker type) (Accumulates.key r)
    (extended (s.lookup? type (Accumulates.key r)) now r)
  rw [hnil] at hput
  cases hput

theorem Filled.step {s : Store α} (hs : s.Filled) (e : Step α) : (s.step e).Filled := by
  rw [Store.step]
  split
  · exact hs.increment _ _ _
  · rw [Store.list]
    split
    · exact hs
    · exact hs.sweep _ _
  · exact hs.sweep _ _
  · exact filled_empty s.ttl

theorem Filled.run {s : Store α} (hs : s.Filled) (h : History α) : (s.run h).Filled := by
  induction h with
  | nil => exact hs
  | cons e past ih => exact ih.step e

/-! ### Keys that were seen again -/

/-- An entry stays as it is while no reading of its pair comes and nothing forgets the pair. -/
theorem lookup?_run_append {s : Store α} (hs : s.Tidy) {type : Json.Key} {key : String}
    {e : Entry α} {later past : History α} (he : (s.run past).lookup? type key = some e)
    (hlater : ∀ d ∈ later, d.reading? type key = none ∧
      d.forgets s.ttl type (some e.lastSeen) = false) :
    (s.run (later ++ past)).lookup? type key = some e := by
  induction later with
  | nil => exact he
  | cons d later ih =>
    obtain ⟨⟨hreading, hforgets⟩, hlater⟩ := List.forall_mem_cons.mp hlater
    rw [List.cons_append, run, lookup?_step (hs.run _), hreading, ih hlater, run_ttl]
    simp [hforgets]

/-- What an eviction makes of a store with a history. -/
structure EvictedFrom (ttl : Float) (h : History α) (now : Float) (s : Store α) : Prop where
  ttl_eq : s.ttl = ttl
  /-- Overdue entries go, and the others stay as they are and in their order. -/
  entries_eq : s.entries
    = ((empty ttl).run h).entries.filter fun e => !decide (Overdue ttl now e.2.2.lastSeen)
  filled : s.Filled
  /-- What counts for an entry is when the latest reading of its pair came, be it an old one. -/
  lookup?_eq : ∀ type key e, ((empty ttl).run h).lookup? type key = some e →
    ∃ seen, lastSeen? type key h = some seen ∧
      s.lookup? type key = if Overdue ttl now seen then none else some e
  /-- A reading keeps the entry of its pair for the time to live, with what it found there. -/
  kept : ∀ later seen type r past, h = later ++ ⟨seen, .increment type r⟩ :: past →
    (∀ d ∈ later, d.reading? type (Accumulates.key r) = none ∧
      d.forgets ttl type (some seen) = false) →
    ¬Overdue ttl now seen →
      s.lookup? type (Accumulates.key r)
        = some (extended (((empty ttl).run past).lookup? type (Accumulates.key r)) seen r)

theorem extended_lastSeen (e : Option (Entry α)) (now : Float) (r : α) :
    (extended e now r).lastSeen = now := by
  cases e with
  | none => rfl
  | some e => exact e.fold_lastSeen now r

theorem evictedFrom_evict [Headed α] (ttl : Float) (h : History α) (now : Float) :
    EvictedFrom ttl h now (((empty ttl).run h).evict now).2 := by
  have httl : ((empty ttl : Store α).run h).ttl = ttl := run_ttl _ h
  have hlookup : ∀ {type key e}, ((empty ttl).run h).lookup? type key = some e →
      (((empty ttl).run h).evict now).2.lookup? type key
        = if Overdue ttl now e.lastSeen then none else some e := by
    intro type key e he
    rw [lookup?_evict ((tidy_empty ttl).run h), he, Option.filter_some, drops_eq_overdue, httl]
    by_cases hover : Overdue ttl now e.lastSeen
    · simp [hover]
    · simp [hover]
  refine ⟨httl, ?_, ((filled_empty ttl).run h).sweep now _, ?_, ?_⟩
  · rw [entries_evict, httl]
  · intro type key e he
    have hrecords := run_records ttl type key h
    rw [he] at hrecords
    exact ⟨e.lastSeen, hrecords.lastSeen, hlookup he⟩
  · rintro later seen type r past rfl hlater hover
    have hread : ((empty ttl).run (⟨seen, .increment type r⟩ :: past)).lookup? type
        (Accumulates.key r)
        = some (extended (((empty ttl).run past).lookup? type (Accumulates.key r)) seen r) := by
      rw [run, step, lookup?_increment, if_pos ⟨rfl, rfl⟩]
    have hseen := extended_lastSeen (((empty ttl).run past).lookup? type (Accumulates.key r)) seen r
    have he := lookup?_run_append (tidy_empty ttl) hread (by rw [hseen]; exact hlater)
    rw [hlookup he, hseen, if_neg hover]

end Store

/-! ### Passes -/

namespace Shelf

/-- The count of entries of a store. -/
def size : Shelf → Nat
  | counters s => s.size
  | histograms s => s.size
  | broken => 0

/-- The count of entries evicted from a store and the store; one that fails stays as it is. -/
def evict (now : Float) (s : Shelf) : Nat × Shelf :=
  (s.evict? now).getD (0, s)

theorem evict_fst_add_size (now : Float) (s : Shelf) :
    (s.evict now).1 + (s.evict now).2.size = s.size := by
  cases s with
  | counters s => exact s.evict_fst_add_size now
  | histograms s => exact s.evict_fst_add_size now
  | broken => rfl

theorem evict_evict (now : Float) (s : Shelf) :
    (s.evict now).2.evict now = (0, (s.evict now).2) := by
  cases s with
  | counters s =>
    show (((s.evict now).2.evict now).1, counters ((s.evict now).2.evict now).2) = _
    rw [s.evict_evict]
    rfl
  | histograms s =>
    show (((s.evict now).2.evict now).1, histograms ((s.evict now).2.evict now).2) = _
    rw [s.evict_evict]
    rfl
  | broken => rfl

end Shelf

/-- What has happened to a store of a sweeper. -/
inductive Past where
  | counters (ttl : Float) (h : History Scalar)
  | histograms (ttl : Float) (h : History HistogramReading)
  /-- A store whose eviction fails. -/
  | broken

namespace Past

/-- The store after all of it. -/
def shelf : Past → Shelf
  | counters ttl h => .counters ((Store.empty ttl).run h)
  | histograms ttl h => .histograms ((Store.empty ttl).run h)
  | broken => .broken

/-- What an eviction makes of the store. -/
def EvictedTo (now : Float) : Past → Shelf → Prop
  | counters ttl h, .counters s => Store.EvictedFrom ttl h now s
  | histograms ttl h, .histograms s => Store.EvictedFrom ttl h now s
  | broken, .broken => True
  | _, _ => False

theorem evictedTo_evict (now : Float) (p : Past) : p.EvictedTo now (p.shelf.evict now).2 := by
  cases p with
  | counters ttl h => exact Store.evictedFrom_evict ttl h now
  | histograms ttl h => exact Store.evictedFrom_evict ttl h now
  | broken => trivial

end Past

namespace Sweeper

/-- The count of entries of stores. -/
def sizes (ss : List Shelf) : Nat :=
  (ss.map Shelf.size).sum

theorem evictEach_cons (clock : Nat → Float) (s : Shelf) (ss : List Shelf) :
    evictEach clock (s :: ss) =
      ((s.evict (clock 0)).1 + (evictEach (fun i => clock (i + 1)) ss).1,
        (s.evict (clock 0)).2 :: (evictEach (fun i => clock (i + 1)) ss).2) := by
  rw [evictEach, Shelf.evict]
  cases s.evict? (clock 0) with
  | none => exact congrArg (·, _) (Nat.zero_add _).symm
  | some r => rfl

/-- Every store is left as an eviction of it alone at its own time leaves it. -/
theorem getElem?_evictEach (clock : Nat → Float) (ss : List Shelf) (i : Nat) :
    (evictEach clock ss).2[i]? = ss[i]?.map fun s => (s.evict (clock i)).2 := by
  induction ss generalizing clock i with
  | nil => rfl
  | cons s ss ih =>
    rw [evictEach_cons]
    cases i with
    | zero => rfl
    | succ i => exact ih (fun i => clock (i + 1)) i

theorem length_evictEach (clock : Nat → Float) (ss : List Shelf) :
    (evictEach clock ss).2.length = ss.length := by
  induction ss generalizing clock with
  | nil => rfl
  | cons s ss ih => rw [evictEach_cons, List.length_cons, List.length_cons, ih]

theorem evictEach_fst_add_sizes (clock : Nat → Float) (ss : List Shelf) :
    (evictEach clock ss).1 + sizes (evictEach clock ss).2 = sizes ss := by
  induction ss generalizing clock with
  | nil => rfl
  | cons s ss ih =>
    have hhead := s.evict_fst_add_size (clock 0)
    have htail := ih fun i => clock (i + 1)
    simp only [sizes, evictEach_cons, List.map_cons, List.sum_cons] at htail ⊢
    omega

theorem evictEach_evictEach (clock : Nat → Float) (ss : List Shelf) :
    evictEach clock (evictEach clock ss).2 = (0, (evictEach clock ss).2) := by
  induction ss generalizing clock with
  | nil => rfl
  | cons s ss ih =>
    rw [evictEach_cons]
    dsimp only
    rw [evictEach_cons, ih, Shelf.evict_evict]
    rfl

theorem sweepAt_eq (w : Sweeper) (clock : Nat → Float) :
    w.sweepAt clock = ((evictEach clock w.shelves).1,
      { w with shelves := (evictEach clock w.shelves).2, passes := w.passes + 1 }) := rfl

/-- The sweeper with other stores. -/
def withPasts (w : Sweeper) (pasts : List Past) : Sweeper :=
  { w with shelves := pasts.map Past.shelf }

/-- **A pass is exact.**  Whatever has happened to the stores of a sweeper, and although some fail,
a pass leaves each of the others without its overdue entries and without empty trackers, and
otherwise as it was; the count is by how much all of them have shrunk, the passes are one more, and
a second pass at the same times finds nothing. -/
theorem sweepAt_exact (w : Sweeper) (pasts : List Past) (clock : Nat → Float) :
    ∃ removed shelves,
      (w.withPasts pasts).sweepAt clock = (removed, { w with shelves, passes := w.passes + 1 }) ∧
      shelves.length = pasts.length ∧
      (∀ i (p : Past), pasts[i]? = some p → ∃ s, shelves[i]? = some s ∧ p.EvictedTo (clock i) s) ∧
      removed + sizes shelves = sizes (pasts.map Past.shelf) ∧
      ({ w with shelves, passes := w.passes + 1 } : Sweeper).sweepAt clock
        = (0, { w with shelves, passes := w.passes + 2 }) := by
  refine ⟨_, _, sweepAt_eq _ clock, ?_, ?_, evictEach_fst_add_sizes clock _, ?_⟩
  · rw [length_evictEach]
    exact List.length_map Past.shelf
  · intro i p hp
    refine ⟨_, ?_, p.evictedTo_evict (clock i)⟩
    rw [getElem?_evictEach, withPasts, List.getElem?_map, hp]
    rfl
  · rw [sweepAt_eq]
    dsimp only
    rw [evictEach_evictEach]

end Sweeper

end MetricRelay.Delta
