/-
Running totals of readings that report differences.

A store keeps, for each metric type and each label key, the running total of the readings since the
key was last forgotten, and the time at which the key was last seen.  A reading counts only if it is
newer than the total; older ones merely keep the key alive.  A key that has not been seen for longer
than the time to live is stale and is forgotten when its type is listed or the store is swept; a
store whose time to live is not positive forgets nothing by itself.
-/
import MetricRelay.Json.Key
import MetricRelay.Reading

namespace MetricRelay.Delta

/-- Readings that can be added up. -/
class Accumulates (α : Type) where
  /-- Readings with one key share a total. -/
  key : α → String
  time : α → Time.Instant
  /-- The total of an older total and a newer reading. -/
  merge : α → α → α

instance : Accumulates Scalar := ⟨fun r => r.labelKey, fun r => r.time, Scalar.merge⟩

instance : Accumulates HistogramReading :=
  ⟨fun r => r.labelKey, fun r => r.time, HistogramReading.merge⟩

/-- A running total and when its key was last seen. -/
structure Entry (α : Type) where
  total : α
  lastSeen : Float

/-- The running totals of one metric type, by label key. -/
abbrev Tracker (α : Type) := Assoc String (Entry α)

/-- The running totals of all metric types. -/
structure Store (α : Type) where
  /-- Seconds for which a key may go unseen. -/
  ttl : Float
  trackers : Assoc Json.Key (Tracker α) := []

namespace Entry

variable {α : Type} [Accumulates α]

/-- The entry after a further reading of its key. -/
def fold (e : Entry α) (now : Float) (r : α) : Entry α :=
  if (Accumulates.time e.total).micros < (Accumulates.time r).micros then
    ⟨Accumulates.merge e.total r, now⟩
  else ⟨e.total, now⟩

/-- Whether a key has gone unseen for longer than a time to live. -/
def isStale (ttl now : Float) (e : Entry α) : Bool :=
  ttl < now - e.lastSeen

end Entry

namespace Store

variable {α : Type} [Accumulates α]

/-- The tracker of a metric type, empty if there is none. -/
def tracker (s : Store α) (type : Json.Key) : Tracker α :=
  (Assoc.get? s.trackers type).getD []

/-- The entry of a metric type and a label key. -/
def lookup? (s : Store α) (type : Json.Key) (key : String) : Option (Entry α) :=
  Assoc.get? (s.tracker type) key

/-- The store after a further reading of a metric type. -/
def increment (s : Store α) (now : Float) (type : Json.Key) (r : α) : Store α :=
  let t := s.tracker type
  let key := Accumulates.key r
  let e := match Assoc.get? t key with
    | none => ⟨r, now⟩
    | some e => e.fold now r
  { s with trackers := Assoc.put s.trackers type (Assoc.put t key e) }

/-- The entries of a tracker that are kept. -/
def live (s : Store α) (now : Float) (t : Tracker α) : Tracker α :=
  if s.ttl ≤ 0 then t else t.filter fun e => !e.2.isStale s.ttl now

/-- The trackers without stale entries, those of one type or of all types; a tracker that is left
empty goes too. -/
def sweepTrackers (s : Store α) (now : Float) (concerns : Json.Key → Bool) :
    Assoc Json.Key (Tracker α) :=
  if s.ttl ≤ 0 then s.trackers
  else s.trackers.filterMap fun e =>
    if concerns e.1 then
      match s.live now e.2 with
      | [] => none
      | t => some (e.1, t)
    else some e

/-- The totals of a metric type after its stale entries are forgotten, and the store. -/
def list (s : Store α) (now : Float) (type : Json.Key) : List α × Store α :=
  match s.tracker type with
  | [] => ([], s)
  | t =>
    ((s.live now t).map fun e => e.2.total,
      { s with trackers := s.sweepTrackers now (· == type) })

/-- The count of entries. -/
def size (s : Store α) : Nat :=
  s.trackers.foldr (fun e n => e.2.length + n) 0

/-- The count of the stale entries of a tracker. -/
def staleCount (s : Store α) (now : Float) (t : Tracker α) : Nat :=
  if s.ttl ≤ 0 then 0 else (t.filter fun e => e.2.isStale s.ttl now).length

/-- The count of stale entries, tracker by tracker, and the store without them. -/
def evict (s : Store α) (now : Float) : Nat × Store α :=
  (s.trackers.foldr (fun e n => s.staleCount now e.2 + n) 0,
    { s with trackers := s.sweepTrackers now fun _ => true })

/-- The store without entries. -/
def reset (s : Store α) : Store α :=
  { s with trackers := [] }

end Store

end MetricRelay.Delta
