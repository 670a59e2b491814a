/-
Each metric type has a tracker of its own.

Readings of a type and a listing of it change the tracker of that type and leave all others alone
(`ChangesOnly`), and what they make of the tracker depends on nothing else in the store
(`SameTracker`):

* `tracker_increment`, `tracker_list` — the tracker of each type after a reading and after a
  listing;
* `ChangesOnly.incrementAll`, `ChangesOnly.list` — other types keep their trackers;
* `SameTracker.incrementAll`, `SameTracker.list`, `SameTracker.totals` — stores that agree on a type
  go on agreeing on it and list the same totals;
* `AllOf.incrementAll`, `AllOf.totals` — what the totals of one type and its readings have, the
  totals that are listed have.
-/
import MetricRelay.Proofs.Delta.Store

namespace MetricRelay.Delta.Store

variable {α : Type} [Accumulates α]

/-- The store after further readings of a metric type. -/
def incrementAll (s : Store α) (now : Float) (type : Json.Key) (rs : List α) : Store α :=
  rs.foldl (fun s r => s.increment now type r) s

@[simp] theorem incrementAll_nil (s : Store α) (now : Float) (type : Json.Key) :
    s.incrementAll now type [] = s := rfl

theorem incrementAll_cons (s : Store α) (now : Float) (type : Json.Key) (r : α) (rs : List α) :
    s.incrementAll now type (r :: rs) = (s.increment now type r).incrementAll now type rs := rfl

/-! ### The tracker of a type -/

theorem tracker_increment (s : Store α) (now : Float) (type type' : Json.Key) (r : α) :
    (s.increment now type r).tracker type' =
      if type = type' then Assoc.put (s.tracker type) (Accumulates.key r)
        (extended (Assoc.get? (s.tracker type) (Accumulates.key r)) now r)
      else s.tracker type' := by
  rw [increment_eq, tracker, Assoc.get?_put]
  split
  · rfl
  · rfl

omit [Accumulates α] in
/-- A type without entries is not swept, which makes no difference. -/
theorem live_nil (s : Store α) (now : Float) : s.live now [] = [] := by
  rw [live_eq_filter]
  rfl

omit [Accumulates α] in
theorem tracker_list {s : Store α} (hs : s.Tidy) (now : Float) (type type' : Json.Key) :
    (s.list now type).2.tracker type' =
      if type = type' then s.live now (s.tracker type) else s.tracker type' := by
  rw [list]
  split
  · next ht =>
    split
    · next h => rw [ht, live_nil, ← h, ht]
    · rfl
  · rw [tracker_sweep hs]
    by_cases h : type = type'
    · rw [if_pos h, if_pos (by simp [h]), h]
    · rw [if_neg h, if_neg (by simpa using Ne.symm h)]

omit [Accumulates α] in
theorem list_fst (s : Store α) (now : Float) (type : Json.Key) :
    (s.list now type).1 = (s.live now (s.tracker type)).map fun e => e.2.total := by
  rw [list]
  split
  · next ht => rw [ht, live_nil, List.map_nil]
  · rfl

omit [Accumulates α] in
theorem list_ttl (s : Store α) (now : Float) (type : Json.Key) :
    (s.list now type).2.ttl = s.ttl := by
  rw [list]
  split <;> rfl

/-- A store after the stale entries of a type have gone; all others, of this type and of other
types, are as they were and in their order. -/
structure Swept (type : Json.Key) (now : Float) (s s' : Store α) : Prop where
  ttl : s'.ttl = s.ttl
  own : s'.tracker type = (s.tracker type).filter fun e => !s.drops now e.2
  others : ∀ other, other ≠ type → s'.tracker other = s.tracker other

omit [Accumulates α] in
theorem swept_list {s : Store α} (hs : s.Tidy) (now : Float) (type : Json.Key) :
    s.Swept type now (s.list now type).2 where
  ttl := list_ttl s now type
  own := by rw [tracker_list hs, if_pos rfl, live_eq_filter]
  others other h := by rw [tracker_list hs, if_neg (Ne.symm h)]

/-! ### What other types keep -/

/-- A tidy store in which no type but one has another tracker than before. -/
structure ChangesOnly (type : Json.Key) (s s' : Store α) : Prop where
  ttl : s'.ttl = s.ttl
  tidy : s'.Tidy
  tracker : ∀ other, other ≠ type → s'.tracker other = s.tracker other

section ChangesOnly

variable {type : Json.Key} {s s' s'' : Store α}

omit [Accumulates α] in
theorem ChangesOnly.refl (hs : s.Tidy) : ChangesOnly type s s :=
  ⟨rfl, hs, fun _ _ => rfl⟩

omit [Accumulates α] in
theorem ChangesOnly.trans (h : ChangesOnly type s s') (h' : ChangesOnly type s' s'') :
    ChangesOnly type s s'' :=
  ⟨h'.ttl.trans h.ttl, h'.tidy, fun other ho => (h'.tracker other ho).trans (h.tracker other ho)⟩

theorem ChangesOnly.increment (hs : s.Tidy) (now : Float) (r : α) :
    ChangesOnly type s (s.increment now type r) := by
  refine ⟨by rw [increment_eq], hs.increment now type r, fun other ho => ?_⟩
  rw [tracker_increment, if_neg (Ne.symm ho)]

theorem ChangesOnly.incrementAll (hs : s.Tidy) (now : Float) (rs : List α) :
    ChangesOnly type s (s.incrementAll now type rs) := by
  induction rs generalizing s with
  | nil => exact ChangesOnly.refl hs
  | cons r rs ih =>
    have hr : ChangesOnly type s (s.increment now type r) := ChangesOnly.increment hs now r
    exact hr.trans (ih hr.tidy)

omit [Accumulates α] in
theorem ChangesOnly.list (hs : s.Tidy) (now : Float) : ChangesOnly type s (s.list now type).2 := by
  refine ⟨list_ttl s now type, hs.list now type, fun other ho => ?_⟩
  rw [tracker_list hs, if_neg (Ne.symm ho)]

end ChangesOnly

/-! ### What a type depends on -/

/-- Two stores have the same time to live and the same tracker of a type. -/
structure SameTracker (type : Json.Key) (s t : Store α) : Prop where
  ttl : s.ttl = t.ttl
  tracker : s.tracker type = t.tracker type

section SameTracker

variable {type : Json.Key} {s t : Store α}

omit [Accumulates α] in
theorem ChangesOnly.sameTracker {s' : Store α} {other : Json.Key} (h : ChangesOnly other s s')
    (hne : type ≠ other) : SameTracker type s' s :=
  ⟨h.ttl, h.tracker type hne⟩

omit [Accumulates α] in
theorem SameTracker.symm (h : SameTracker type s t) : SameTracker type t s :=
  ⟨h.ttl.symm, h.tracker.symm⟩

omit [Accumulates α] in
theorem SameTracker.trans {u : Store α} (h : SameTracker type s t) (h' : SameTracker type t u) :
    SameTracker type s u :=
  ⟨h.ttl.trans h'.ttl, h.tracker.trans h'.tracker⟩

omit [Accumulates α] in
theorem SameTracker.live (h : SameTracker type s t) (now : Float) :
    s.live now (s.tracker type) = t.live now (t.tracker type) := by
  rw [Store.live, Store.live, h.ttl, h.tracker]

theorem SameTracker.increment (h : SameTracker type s t) (now : Float) (r : α) :
    SameTracker type (s.increment now type r) (t.increment now type r) := by
  refine ⟨by rw [increment_eq, increment_eq]; exact h.ttl, ?_⟩
  rw [tracker_increment, tracker_increment, if_pos rfl, if_pos rfl, h.tracker]

theorem SameTracker.incrementAll (h : SameTracker type s t) (now : Float) (rs : List α) :
    SameTracker type (s.incrementAll now type rs) (t.incrementAll now type rs) := by
  induction rs generalizing s t with
  | nil => exact h
  | cons r rs ih => exact ih (h.increment now r)

omit [Accumulates α] in
theorem SameTracker.list (h : SameTracker type s t) (hs : s.Tidy) (ht : t.Tidy) (now : Float) :
    SameTracker type (s.list now type).2 (t.list now type).2 := by
  refine ⟨by rw [list_ttl, list_ttl, h.ttl], ?_⟩
  rw [tracker_list hs, tracker_list ht, if_pos rfl, if_pos rfl, h.live now]

omit [Accumulates α] in
theorem SameTracker.totals (h : SameTracker type s t) (now : Float) :
    (s.list now type).1 = (t.list now type).1 := by
  rw [list_fst, list_fst, h.live now]

end SameTracker

/-! ### What the totals of a type have -/

/-- All totals of a type have a property. -/
def AllOf (p : α → Prop) (type : Json.Key) (s : Store α) : Prop :=
  ∀ e ∈ s.tracker type, p e.2.total

section AllOf

variable {p : α → Prop} {type : Json.Key} {s t : Store α}

omit [Accumulates α] in
theorem AllOf.of_sameTracker (hs : s.AllOf p type) (h : SameTracker type s t) : t.AllOf p type := by
  rw [AllOf, ← h.tracker]
  exact hs

theorem AllOf.incrementAll (hs : s.AllOf p type)
    (hmerge : ∀ a b, p a → p b → p (Accumulates.merge a b)) (now : Float) {rs : List α}
    (hrs : ∀ r ∈ rs, p r) : (s.incrementAll now type rs).AllOf p type := by
  induction rs generalizing s with
  | nil => exact hs
  | cons r rs ih =>
    obtain ⟨hr, hrs⟩ := List.forall_mem_cons.mp hrs
    refine ih ?_ hrs
    rw [AllOf, tracker_increment, if_pos rfl]
    exact Assoc.forall_mem_put (p := fun e : Entry α => p e.total) hs
      (extended_total hmerge (fun d hd => hs _ (Assoc.mem_of_get? hd)) now hr)

omit [Accumulates α] in
theorem AllOf.totals (hs : s.AllOf p type) (now : Float) : ∀ r ∈ (s.list now type).1, p r := by
  rw [list_fst, live_eq_filter]
  exact List.forall_mem_map.mpr fun e he => hs e (List.mem_of_mem_filter he)

end AllOf

end MetricRelay.Delta.Store
