/-
A cache of the descriptors listed for a prefix of metric types.

An entry is used until its expiry, the time of its writing plus the time to live.  A cache whose
time to live is not positive keeps nothing, and one for official metrics keeps only prefixes whose
first path segment belongs to the official domain.
-/
import MetricRelay.Monitoring.Descriptor
import MetricRelay.Text.Split

namespace MetricRelay

open Monitoring

/-- Whether the first path segment of a metric type names the official domain. -/
def isOfficial (name : String) : Bool :=
  Text.occursIn "googleapis.com".toList (name.toList.takeWhile (· != '/'))

/-- Which prefixes a cache keeps. -/
inductive CachePolicy where
  | nothing
  | official
  | everything
deriving DecidableEq, Repr

/-- Descriptors and when they expire. -/
structure CacheEntry where
  descriptors : List Descriptor
  expiry : Float

/-- A cache of descriptors by prefix. -/
structure DescriptorCache where
  policy : CachePolicy
  /-- Seconds for which an entry is used. -/
  ttl : Float
  entries : Assoc String CacheEntry := []

namespace DescriptorCache

/-- An empty cache. -/
def empty (ttl : Float) (onlyOfficial : Bool) : DescriptorCache where
  policy := if ttl ≤ 0 then .nothing else if onlyOfficial then .official else .everything
  ttl := ttl

/-- Whether the cache keeps the descriptors of a prefix. -/
def keeps (c : DescriptorCache) (stem : String) : Bool :=
  match c.policy with
  | .nothing => false
  | .official => isOfficial stem
  | .everything => true

/-- The descriptors that are kept for a prefix and have not expired. -/
def lookup (c : DescriptorCache) (now : Float) (stem : String) : Option (List Descriptor) :=
  if c.keeps stem then
    match Assoc.get? c.entries stem with
    | none => none
    | some e => if now ≥ e.expiry then none else some e.descriptors
  else none

/-- The cache after the descriptors of a prefix have been listed. -/
def store (c : DescriptorCache) (now : Float) (stem : String) (ds : List Descriptor) :
    DescriptorCache :=
  if c.keeps stem then { c with entries := Assoc.put c.entries stem ⟨ds, now + c.ttl⟩ } else c

/-- The cache without entries. -/
def clear (c : DescriptorCache) : DescriptorCache :=
  { c with entries := [] }

/-- The count of entries that have not expired. -/
def size (c : DescriptorCache) (now : Float) : Nat :=
  (c.entries.filter fun e => now < e.2.expiry).length

end DescriptorCache

end MetricRelay
