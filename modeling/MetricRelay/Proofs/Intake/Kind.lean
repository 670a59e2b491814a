/-
The kinds of readings.

A series gives a scalar that is a gauge or a counter, or a histogram (`IsPlain`).  Adding up keeps
that, so if the totals of a type are plain, all readings that a batch of the type hands out are, and
families of their kinds can be exposed:

* `isPlain_of_mem_contributions` — what series contribute is plain;
* `Batch.isKnown_of_mem_handedOut` — what a batch hands out can be exposed.
-/
import MetricRelay.Proofs.Exposition.Sink
import MetricRelay.Proofs.Intake.Contribution
import MetricRelay.Proofs.Intake.Given

namespace MetricRelay

/-- A scalar is a gauge or a counter. -/
def Scalar.IsPlain (r : Scalar) : Prop :=
  r.kind = .gauge ∨ r.kind = .counter

namespace Intake

open Monitoring

theorem isKnown_scalar {r : Scalar} (h : r.IsPlain) : Reading.IsKnown (.scalar r) := by
  show (Exposition.FamilyType.ofWord? r.kind.word).isSome = true
  rcases h with h | h
  · rw [h]
    decide
  · rw [h]
    decide

/-! ### Readings of series -/

theorem readingOf?_isPlain {options : Options} {d : Descriptor} {s : Series} {r : Scalar}
    {route : Route} (h : readingOf? options d s = .ok (some (.scalar r, route))) : r.IsPlain := by
  rcases readingOf?_eq_ok h with ⟨hnone, -⟩ | ⟨x, way, hx, ⟨-, hheading, -, -, hreading⟩, -⟩
  · cases hnone
  · obtain ⟨rfl, rfl⟩ := Prod.mk.inj (Option.some.inj hx)
    cases hreading with
    | scalar hr =>
      rw [Scalar.IsPlain, hr]
      exact hheading.kind

theorem isPlain_of_mem_contributions {options : Options} {d : Descriptor} {ss : List Series}
    {r : Scalar} {route : Route} (h : (Reading.scalar r, route) ∈ contributions options d ss) :
    r.IsPlain := by
  obtain ⟨s, -, hs⟩ := List.mem_filterMap.mp h
  cases hr : readingOf? options d s with
  | error fault => simp [hr, Except.toOption] at hs
  | ok r? =>
    rw [hr] at hs
    exact readingOf?_isPlain (hr.trans (congrArg Except.ok hs))

theorem mem_scalarsBy {route : Route} {xs : List (Reading × Route)} {r : Scalar}
    (h : r ∈ scalarsBy route xs) : (Reading.scalar r, route) ∈ xs := by
  obtain ⟨⟨x, way⟩, hx, h⟩ := List.mem_filterMap.mp h
  cases x with
  | scalar s =>
    simp only at h
    split at h
    · next hway =>
      cases h
      rw [← hway]
      exact hx
    · cases h
  | histogram s => cases h

/-! ### Readings of batches -/

/-- All scalars that have been collected are plain. -/
def Batch.IsPlain (b : Batch) : Prop :=
  ∀ f ∈ b.scalars, ∀ r ∈ f.2, r.IsPlain

theorem isPlain_appendAll {m : Assoc String (List Scalar)} (hm : ∀ f ∈ m, ∀ r ∈ f.2, r.IsPlain)
    {rs : List Scalar} (hrs : ∀ r ∈ rs, r.IsPlain) :
    ∀ f ∈ appendAll (fun r => r.name) m rs, ∀ r ∈ f.2, r.IsPlain := by
  induction rs generalizing m with
  | nil => exact hm
  | cons r rs ih =>
    obtain ⟨hr, hrs⟩ := List.forall_mem_cons.mp hrs
    refine ih (Assoc.forall_mem_put (p := fun l : List Scalar => ∀ r ∈ l, r.IsPlain) hm ?_) hrs
    refine List.forall_mem_append.mpr ⟨?_, by simpa using hr⟩
    cases hget : Assoc.get? m r.name with
    | none => exact fun x hx => absurd hx List.not_mem_nil
    | some l => exact hm _ (Assoc.mem_of_get? hget)

namespace Batch

theorem isPlain_start (options : Options) (d : Descriptor) : (start options d).IsPlain :=
  fun _ h => absurd h List.not_mem_nil

theorem IsPlain.collect {b : Batch} (hb : b.IsPlain) {xs : List (Reading × Route)}
    (hxs : ∀ r, ∀ route, (Reading.scalar r, route) ∈ xs → r.IsPlain) : (b.collect xs).IsPlain :=
  isPlain_appendAll hb fun r hr => hxs r .collected (mem_scalarsBy hr)

/-- Filled labels make no other kind. -/
theorem IsPlain.isKnown_of_mem_readings {b : Batch} (hb : b.IsPlain) :
    ∀ r ∈ b.readings, r.IsKnown := by
  have hfamilies : ∀ l ∈ b.scalarFamilies, ∀ r ∈ l, Reading.IsKnown (.scalar r) := by
    refine List.forall_mem_map.mpr fun f hf => ?_
    split
    · refine List.forall_mem_map.mpr fun r hr => ?_
      exact isKnown_scalar (r := { r with labels := _ }) (hb f hf r hr)
    · exact fun r hr => isKnown_scalar (hb f hf r hr)
  rw [readings]
  refine List.forall_mem_append.mpr ⟨List.forall_mem_map.mpr fun r hr => ?_,
    List.forall_mem_map.mpr fun r _ => Reading.isKnown_histogram r⟩
  obtain ⟨l, hl, hr⟩ := List.mem_flatten.mp hr
  exact hfamilies l hl r hr

/-- Readings of plain batches and totals can be exposed. -/
theorem IsPlain.isKnown_of_mem_handedOut {b : Batch} (hb : b.IsPlain) {t : Totals} {type : Json.Key}
    (ht : t.counters.AllOf Scalar.IsPlain type) (now : Float) :
    ∀ r ∈ b.handedOut t now type, r.IsKnown := by
  rw [handedOut]
  split
  · exact IsPlain.isKnown_of_mem_readings (b := { b with scalars := _, histograms := _ })
      (isPlain_appendAll hb (ht.totals now))
  · exact hb.isKnown_of_mem_readings

end Batch

/-- Totals to which plain readings are added stay plain. -/
theorem Totals.isPlain_accumulate {t : Totals} {type : Json.Key}
    (ht : t.counters.AllOf Scalar.IsPlain type) (now : Float) {xs : List (Reading × Route)}
    (hxs : ∀ r, ∀ route, (Reading.scalar r, route) ∈ xs → r.IsPlain) :
    (t.accumulate now type xs).counters.AllOf Scalar.IsPlain type :=
  -- a total is its latest reading with another value
  ht.incrementAll (fun _ _ _ h => h) now fun r hr => hxs r .accumulated (mem_scalarsBy hr)

end Intake

end MetricRelay
