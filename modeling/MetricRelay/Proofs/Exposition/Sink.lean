/-
When a sink refuses a reading.

A family is created only under a name that is not empty and that bytes can write, so a sink holds
families of such names only (`WellNamed`).  A reading of a known kind is refused exactly if its
family's name is no such name, whatever else is in the sink:

* `addTo_eq_error_iff`, `addAll_snd` — the fault of adding readings does not depend on the sink;
* `WellNamed.addAll` — a sink stays well named.
-/
import MetricRelay.Exposition.Sink
import MetricRelay.Proofs.Assoc
import MetricRelay.Proofs.Except

namespace MetricRelay

/-- The fault of a name that no family can have. -/
def Exposition.nameFault? (name : String) : Option Fault :=
  if name.isEmpty then some .badFamily
  else if !Text.isEncodable name.toList then some .unencodable
  else none

namespace Intake.Reading

/-- The name of a reading. -/
def name : Reading → String
  | .scalar r => r.name
  | .histogram r => r.name

/-- The word for the type of a reading's family. -/
def word : Reading → String
  | .scalar r => r.kind.word
  | .histogram _ => "histogram"

/-- The help text of a reading. -/
def help : Reading → Json
  | .scalar r => r.help
  | .histogram r => r.help

/-- The samples that a reading adds to a family. -/
def samplesIn : Reading → Exposition.Family → List Exposition.Sample
  | .scalar r => Exposition.Sink.scalarSamples r
  | .histogram r => Exposition.Sink.histogramSamples r

/-- Families of the reading's kind can be exposed. -/
def IsKnown (r : Reading) : Prop :=
  (Exposition.FamilyType.ofWord? r.word).isSome = true

/-- The fault of a reading whose name no family can have. -/
def nameFault? (r : Reading) : Option Fault :=
  Exposition.nameFault? (Exposition.familyName r.name r.word)

theorem isKnown_histogram (r : HistogramReading) : IsKnown (.histogram r) := by
  show (Exposition.FamilyType.ofWord? "histogram").isSome = true
  decide

end Intake.Reading

namespace Exposition.Sink

open Intake

/-- All families have names that families can have. -/
def WellNamed (sink : Sink) : Prop :=
  ∀ name ∈ Assoc.keys sink, nameFault? name = none

theorem wellNamed_nil : WellNamed [] :=
  fun _ h => absurd h List.not_mem_nil

theorem newFamily_eq_error_iff {name word : String} (help : Json) {fault : Fault}
    (hw : (FamilyType.ofWord? word).isSome = true) :
    newFamily name help word = .error fault ↔ nameFault? name = some fault := by
  obtain ⟨type, htype⟩ := Option.isSome_iff_exists.mp hw
  simp only [newFamily, nameFault?, htype]
  split
  · simp
  · split <;> simp

theorem nameFault?_of_newFamily {name word : String} {help : Json} {family : Family}
    (h : newFamily name help word = .ok family) : nameFault? name = none := by
  simp only [newFamily] at h
  split at h
  · cases h
  · split at h
    · cases h
    · next hempty hbytes => rw [nameFault?, if_neg hempty, if_neg hbytes]

/-- A sink refuses samples of a known type exactly if no family can have the name. -/
theorem addTo_eq_error_iff {sink : Sink} (hs : sink.WellNamed) {name word : String} (help : Json)
    (samples : Family → List Sample) {fault : Fault}
    (hw : (FamilyType.ofWord? word).isSome = true) :
    sink.addTo name help word samples = .error fault ↔
      nameFault? (familyName name word) = some fault := by
  rw [addTo]
  cases h : Assoc.get? sink (familyName name word) with
  | some family =>
    -- the family is there, so its name is one that families can have
    have hname : nameFault? (familyName name word) = none :=
      hs _ (List.mem_map_of_mem (f := Prod.fst) (Assoc.mem_of_get? h))
    rw [hname]
    dsimp only
    split <;> simp
  | none =>
    dsimp only
    rw [Except.bind_eq_error_iff, newFamily_eq_error_iff help hw]
    simp

theorem WellNamed.addTo {sink sink' : Sink} (hs : sink.WellNamed) {name word : String} {help : Json}
    {samples : Family → List Sample} (h : sink.addTo name help word samples = .ok sink') :
    sink'.WellNamed := by
  have hput : ∀ family, nameFault? (familyName name word) = none →
      WellNamed (Assoc.put sink (familyName name word) family) := by
    intro family hname key hkey
    rw [Assoc.keys_put] at hkey
    split at hkey
    · exact hs key hkey
    · rcases List.mem_append.mp hkey with hkey | hkey
      · exact hs key hkey
      · rwa [List.mem_singleton.mp hkey]
  rw [Sink.addTo] at h
  cases hget : Assoc.get? sink (familyName name word) with
  | some family =>
    rw [hget] at h
    dsimp only at h
    split at h
    · cases h
      exact hput _ (hs _ (List.mem_map_of_mem (f := Prod.fst) (Assoc.mem_of_get? hget)))
    · cases h
      exact hs
  | none =>
    rw [hget] at h
    obtain ⟨family, hnew, h⟩ := Except.bind_eq_ok_iff.mp h
    cases h
    exact hput _ (nameFault?_of_newFamily hnew)

theorem add_eq (sink : Sink) (r : Reading) :
    sink.add r = sink.addTo r.name r.help r.word r.samplesIn := by
  cases r <;> rfl

theorem WellNamed.addAll {sink : Sink} (hs : sink.WellNamed) (rs : List Reading) :
    (sink.addAll rs).1.WellNamed := by
  induction rs generalizing sink with
  | nil => exact hs
  | cons r rs ih =>
    rw [Sink.addAll]
    cases h : sink.add r with
    | error fault => exact hs
    | ok sink' => exact ih (hs.addTo ((add_eq sink r).symm.trans h))

/-- The fault of adding readings of known kinds is the first one of their names. -/
theorem addAll_snd {sink : Sink} (hs : sink.WellNamed) {rs : List Reading}
    (hrs : ∀ r ∈ rs, r.IsKnown) : (sink.addAll rs).2 = rs.findSome? Reading.nameFault? := by
  induction rs generalizing sink with
  | nil => rfl
  | cons r rs ih =>
    have hiff : ∀ fault, sink.add r = .error fault ↔ r.nameFault? = some fault := by
      intro fault
      rw [add_eq]
      exact addTo_eq_error_iff hs r.help r.samplesIn (hrs r List.mem_cons_self)
    rw [Sink.addAll, List.findSome?_cons]
    cases h : sink.add r with
    | error fault => rw [(hiff fault).mp h]
    | ok sink' =>
      have hname : r.nameFault? = none := by
        cases hf : r.nameFault? with
        | none => rfl
        | some fault => exact absurd (h.symm.trans ((hiff fault).mpr hf)) (by simp)
      rw [hname]
      exact ih (hs.addTo ((add_eq sink r).symm.trans h)) fun x hx =>
        hrs x (List.mem_cons_of_mem r hx)

end Exposition.Sink

end MetricRelay
