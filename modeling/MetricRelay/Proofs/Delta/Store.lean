/-
What each operation does to the entry of a type and a key.

The trackers of a store are two maps, one inside the other.  Seen through `Store.lookup?` they are
one map from pairs of a type and a key, and every operation changes it pair by pair:

* `lookup?_increment` — a reading founds or extends the entry of its own pair only;
* `lookup?_list`, `lookup?_evict` — stale entries go, those of one type or of all types;
* `lookup?_reset` — all entries go.

`Tidy`, that no type and no key occurs twice, is what the lookups rest on; every operation keeps it.
`All` says that every total of a store has a property, and it is kept too if readings have the
property and adding up keeps it.
-/
import MetricRelay.Delta.Store
import MetricRelay.Proofs.Assoc
import MetricRelay.Proofs.Decimal.Order

namespace MetricRelay.Delta

variable {α : Type} [Accumulates α]

@[simp] theorem Entry.fold_lastSeen (e : Entry α) (now : Float) (r : α) :
    (e.fold now r).lastSeen = now := by
  rw [Entry.fold]
  split <;> rfl

theorem Entry.fold_total (e : Entry α) (now : Float) (r : α) :
    (e.fold now r).total =
      if (Accumulates.time e.total).micros < (Accumulates.time r).micros
      then Accumulates.merge e.total r else e.total := by
  rw [Entry.fold]
  split <;> rfl

namespace Store

/-- No type has two trackers and no key two entries in one. -/
structure Tidy (s : Store α) : Prop where
  types : (Assoc.keys s.trackers).Nodup
  keys : ∀ e ∈ s.trackers, (Assoc.keys e.2).Nodup

/-- The store without entries. -/
def empty (ttl : Float) : Store α :=
  { ttl }

/-- Whether an entry is forgotten when its tracker is swept. -/
def drops (s : Store α) (now : Float) (e : Entry α) : Bool :=
  !decide (s.ttl ≤ 0) && e.isStale s.ttl now

omit [Accumulates α] in
/-- An entry is dropped exactly if there is a time to live and the key was last seen longer ago. -/
theorem drops_iff (s : Store α) (now : Float) (e : Entry α) :
    s.drops now e = true ↔ 0 < s.ttl ∧ s.ttl < now - e.lastSeen := by
  simp only [drops, Entry.isStale, Bool.and_eq_true, Bool.not_eq_true', decide_eq_false_iff_not,
    decide_eq_true_eq]
  refine and_congr_left fun h => ?_
  -- a time to live that something exceeds is a number, so it is above zero or at most zero
  have hn : s.ttl.isNaN = false := ((Decimal.lt_iff_rank _ _).mp h).1
  have hz : (0 : Float).isNaN = false := by decide
  rw [Decimal.le_iff_rank, Decimal.lt_iff_rank]
  simp only [hn, hz, true_and, not_le]

omit [Accumulates α] in
theorem live_eq_filter (s : Store α) (now : Float) (t : Tracker α) :
    s.live now t = t.filter fun e => !s.drops now e.2 := by
  rw [live]
  split
  · next h => simp [drops, h]
  · next h => simp [drops, h]

/-- What a sweep leaves of the tracker of a type. -/
def sweepTracker (s : Store α) (now : Float) (concerns : Json.Key → Bool)
    (e : Json.Key × Tracker α) : Option (Json.Key × Tracker α) :=
  if concerns e.1 then
    match s.live now e.2 with
    | [] => none
    | t => some (e.1, t)
  else some e

omit [Accumulates α] in
/-- What is left of a tracker: what is live of it if it is concerned, and else all. -/
theorem sweepTracker_eq_some {s : Store α} {now : Float} {concerns : Json.Key → Bool}
    {e d : Json.Key × Tracker α} (h : s.sweepTracker now concerns e = some d) :
    (concerns e.1 = true ∧ s.live now e.2 ≠ [] ∧ d = (e.1, s.live now e.2)) ∨
      (concerns e.1 = false ∧ d = e) := by
  simp only [sweepTracker] at h
  split at h
  · next hconcerns =>
    split at h
    · cases h
    · next hne => exact Or.inl ⟨hconcerns, hne, (Option.some.inj h).symm⟩
  · next hconcerns => exact Or.inr ⟨Bool.eq_false_iff.mpr hconcerns, (Option.some.inj h).symm⟩

omit [Accumulates α] in
theorem sweepTracker_key {s : Store α} {now : Float} {concerns : Json.Key → Bool}
    (e d : Json.Key × Tracker α) (h : s.sweepTracker now concerns e = some d) : d.1 = e.1 := by
  obtain ⟨-, -, rfl⟩ | ⟨-, rfl⟩ := sweepTracker_eq_some h
  · rfl
  · rfl

omit [Accumulates α] in
theorem sweepTracker_getD (s : Store α) (now : Float) (concerns : Json.Key → Bool) (type : Json.Key)
    (t : Tracker α) :
    ((s.sweepTracker now concerns (type, t)).map Prod.snd).getD []
      = if concerns type then s.live now t else t := by
  simp only [sweepTracker]
  split
  · split
    · next h => rw [h]; rfl
    · rfl
  · rfl

omit [Accumulates α] in
theorem sweepTrackers_eq (s : Store α) (now : Float) (concerns : Json.Key → Bool) :
    s.sweepTrackers now concerns
      = if s.ttl ≤ 0 then s.trackers else s.trackers.filterMap (s.sweepTracker now concerns) := rfl

omit [Accumulates α] in
theorem tracker_sweep {s : Store α} (hs : s.Tidy) (now : Float) (concerns : Json.Key → Bool)
    (type : Json.Key) :
    ({ s with trackers := s.sweepTrackers now concerns } : Store α).tracker type
      = if concerns type then s.live now (s.tracker type) else s.tracker type := by
  rw [tracker, sweepTrackers_eq]
  by_cases h : s.ttl ≤ 0
  · -- without a time to live everything is kept
    have hl : s.live now (s.tracker type) = s.tracker type := if_pos h
    rw [if_pos h, hl, ite_self, tracker]
  · simp only [if_neg h]
    rw [Assoc.get?_filterMap sweepTracker_key hs.types, tracker]
    cases ht : Assoc.get? s.trackers type with
    | none =>
      have hl : s.live now ([] : Tracker α) = [] := by rw [live_eq_filter]; rfl
      simp [hl]
    | some t => exact sweepTracker_getD s now concerns type t

omit [Accumulates α] in
theorem Tidy.tracker {s : Store α} (hs : s.Tidy) (type : Json.Key) :
    (Assoc.keys (s.tracker type)).Nodup := by
  rw [Store.tracker]
  cases h : Assoc.get? s.trackers type with
  | none => exact List.nodup_nil
  | some t => exact hs.keys _ (Assoc.mem_of_get? h)

/-! ### Entries after each operation -/

/-- The entry of a key after a further reading of it. -/
def extended (e : Option (Entry α)) (now : Float) (r : α) : Entry α :=
  match e with
  | none => ⟨r, now⟩
  | some e => e.fold now r

theorem increment_eq (s : Store α) (now : Float) (type : Json.Key) (r : α) :
    s.increment now type r = { s with
      trackers := Assoc.put s.trackers type (Assoc.put (s.tracker type) (Accumulates.key r)
        (extended (s.lookup? type (Accumulates.key r)) now r)) } := by
  rw [increment, lookup?]
  cases Assoc.get? (s.tracker type) (Accumulates.key r) <;> rfl

theorem lookup?_increment (s : Store α) (now : Float) (type type' : Json.Key) (r : α)
    (key : String) :
    (s.increment now type' r).lookup? type key =
      if type' = type ∧ Accumulates.key r = key then some (extended (s.lookup? type key) now r)
      else s.lookup? type key := by
  rw [increment_eq, lookup?, tracker, Assoc.get?_put]
  -- another type has another tracker, another key another entry in the same one
  by_cases ht : type' = type
  · rw [if_pos ht, Option.getD_some, Assoc.get?_put, ht]
    by_cases hk : Accumulates.key r = key
    · rw [if_pos hk, if_pos ⟨rfl, hk⟩, hk]
    · rw [if_neg hk, if_neg fun h => hk h.2, lookup?]
  · rw [if_neg ht, if_neg fun h => ht h.1, lookup?, tracker]

omit [Accumulates α] in
theorem lookup?_sweep {s : Store α} (hs : s.Tidy) (now : Float) (concerns : Json.Key → Bool)
    (type : Json.Key) (key : String) :
    ({ s with trackers := s.sweepTrackers now concerns } : Store α).lookup? type key =
      if concerns type then (s.lookup? type key).filter fun e => !s.drops now e
      else s.lookup? type key := by
  rw [lookup?, tracker_sweep hs]
  split
  · rw [live_eq_filter, lookup?]
    exact Assoc.get?_filter (hs.tracker type) (fun e => !s.drops now e) key
  · rfl

omit [Accumulates α] in
theorem lookup?_list {s : Store α} (hs : s.Tidy) (now : Float) (type type' : Json.Key)
    (key : String) :
    (s.list now type').2.lookup? type key =
      if type' = type then (s.lookup? type key).filter fun e => !s.drops now e
      else s.lookup? type key := by
  rw [list]
  split
  · next ht =>
    -- a type without entries is not swept, which makes no difference
    by_cases h : type' = type
    · rw [if_pos h, lookup?, ← h, ht]
      rfl
    · rw [if_neg h]
  · rw [lookup?_sweep hs]
    by_cases h : type' = type
    · rw [if_pos h, if_pos (by simp [h])]
    · rw [if_neg h, if_neg (by simpa using Ne.symm h)]

omit [Accumulates α] in
theorem lookup?_evict {s : Store α} (hs : s.Tidy) (now : Float) (type : Json.Key) (key : String) :
    (s.evict now).2.lookup? type key = (s.lookup? type key).filter fun e => !s.drops now e := by
  rw [evict]
  exact (lookup?_sweep hs now (fun _ => true) type key).trans (if_pos rfl)

omit [Accumulates α] in
@[simp] theorem lookup?_empty (ttl : Float) (type : Json.Key) (key : String) :
    (empty ttl : Store α).lookup? type key = none := rfl

omit [Accumulates α] in
@[simp] theorem lookup?_reset (s : Store α) (type : Json.Key) (key : String) :
    s.reset.lookup? type key = none := rfl

/-! ### What all operations keep -/

omit [Accumulates α] in
theorem tidy_empty (ttl : Float) : (empty ttl : Store α).Tidy :=
  ⟨List.nodup_nil, fun e he => absurd he (by simp [empty])⟩

theorem Tidy.increment {s : Store α} (hs : s.Tidy) (now : Float) (type : Json.Key) (r : α) :
    (s.increment now type r).Tidy := by
  rw [increment_eq]
  refine ⟨Assoc.nodup_keys_put hs.types _ _, ?_⟩
  exact Assoc.forall_mem_put (p := fun t : Tracker α => (Assoc.keys t).Nodup) hs.keys
    (Assoc.nodup_keys_put (hs.tracker type) _ _)

omit [Accumulates α] in
/-- An entry of a swept tracker was one before. -/
theorem mem_sweepTrackers {s : Store α} {now : Float} {concerns : Json.Key → Bool}
    {d : Json.Key × Tracker α} (hd : d ∈ s.sweepTrackers now concerns) :
    ∃ e ∈ s.trackers, d.2.Sublist e.2 := by
  rw [sweepTrackers_eq] at hd
  split at hd
  · exact ⟨d, hd, List.Sublist.refl _⟩
  · obtain ⟨e, he, h⟩ := List.mem_filterMap.mp hd
    refine ⟨e, he, ?_⟩
    obtain ⟨-, -, rfl⟩ | ⟨-, rfl⟩ := sweepTracker_eq_some h
    · rw [live_eq_filter]
      exact List.filter_sublist
    · exact List.Sublist.refl _

omit [Accumulates α] in
theorem Tidy.sweep {s : Store α} (hs : s.Tidy) (now : Float) (concerns : Json.Key → Bool) :
    ({ s with trackers := s.sweepTrackers now concerns } : Store α).Tidy := by
  constructor
  · show (Assoc.keys (s.sweepTrackers now concerns)).Nodup
    rw [sweepTrackers_eq]
    split
    · exact hs.types
    · exact Assoc.nodup_keys_filterMap sweepTracker_key hs.types
  · intro d hd
    obtain ⟨e, he, h⟩ := mem_sweepTrackers hd
    exact (hs.keys e he).sublist (h.map _)

omit [Accumulates α] in
theorem Tidy.list {s : Store α} (hs : s.Tidy) (now : Float) (type : Json.Key) :
    (s.list now type).2.Tidy := by
  rw [Store.list]
  split
  · exact hs
  · exact hs.sweep now _

omit [Accumulates α] in
theorem Tidy.evict {s : Store α} (hs : s.Tidy) (now : Float) : (s.evict now).2.Tidy :=
  hs.sweep now _

/-! ### What all totals have -/

/-- All totals of the store have a property. -/
def All (p : α → Prop) (s : Store α) : Prop :=
  ∀ t ∈ s.trackers, ∀ e ∈ t.2, p e.2.total

section All

variable {p : α → Prop}

omit [Accumulates α] in
theorem All.tracker {s : Store α} (hs : s.All p) (type : Json.Key) :
    ∀ e ∈ s.tracker type, p e.2.total := by
  rw [Store.tracker]
  cases h : Assoc.get? s.trackers type with
  | none => exact fun e he => absurd he (by simp)
  | some t => exact hs _ (Assoc.mem_of_get? h)

omit [Accumulates α] in
theorem All.lookup? {s : Store α} (hs : s.All p) {type : Json.Key} {key : String} {e : Entry α}
    (he : s.lookup? type key = some e) : p e.total :=
  hs.tracker type _ (Assoc.mem_of_get? he)

omit [Accumulates α] in
theorem all_empty (ttl : Float) : (empty ttl : Store α).All p :=
  fun t ht => absurd ht (by simp [empty])

/-- What readings have and adding up keeps, the total of a further reading has. -/
theorem extended_total (hmerge : ∀ a b, p a → p b → p (Accumulates.merge a b))
    {e : Option (Entry α)} (he : ∀ d, e = some d → p d.total) (now : Float) {r : α} (hr : p r) :
    p (extended e now r).total := by
  cases e with
  | none => exact hr
  | some e =>
    show p (e.fold now r).total
    rw [Entry.fold_total]
    split
    · exact hmerge _ _ (he e rfl) hr
    · exact he e rfl

/-- What readings have and adding up keeps, totals have. -/
theorem All.increment {s : Store α} (hs : s.All p)
    (hmerge : ∀ a b, p a → p b → p (Accumulates.merge a b)) (now : Float) (type : Json.Key) {r : α}
    (hr : p r) : (s.increment now type r).All p := by
  rw [increment_eq]
  exact Assoc.forall_mem_put (p := fun t : Tracker α => ∀ e ∈ t, p e.2.total) hs
    (Assoc.forall_mem_put (p := fun e : Entry α => p e.total) (hs.tracker type)
      (extended_total hmerge (fun _ he => hs.lookup? he) now hr))

omit [Accumulates α] in
theorem All.sweep {s : Store α} (hs : s.All p) (now : Float) (concerns : Json.Key → Bool) :
    ({ s with trackers := s.sweepTrackers now concerns } : Store α).All p := by
  intro d hd e he
  obtain ⟨t, ht, h⟩ := mem_sweepTrackers hd
  exact hs t ht e (h.subset he)

omit [Accumulates α] in
theorem All.list {s : Store α} (hs : s.All p) (now : Float) (type : Json.Key) :
    (s.list now type).2.All p := by
  rw [Store.list]
  split
  · exact hs
  · exact hs.sweep now _

omit [Accumulates α] in
theorem All.mem_list {s : Store α} (hs : s.All p) {now : Float} {type : Json.Key} {r : α}
    (hr : r ∈ (s.list now type).1) : p r := by
  rw [Store.list] at hr
  split at hr
  · simp at hr
  · obtain ⟨e, he, rfl⟩ := List.mem_map.mp hr
    rw [live_eq_filter] at he
    exact hs.tracker type e (List.mem_of_mem_filter he)

omit [Accumulates α] in
theorem All.evict {s : Store α} (hs : s.All p) (now : Float) : (s.evict now).2.All p :=
  hs.sweep now _

end All

end Store

end MetricRelay.Delta
