/-
System labels from the service to a reading.

A series keeps its system labels as the JSON text of what the service sent, and a reading takes them
out of that text again.

* `decodeSystemLabels_of_isText`, `decodeSystemLabels_of_not_isText` — the members of an object are
  labels if all of them are texts, and else there are no labels;
* `decodeSystemLabels_ofJson` — labels that are texts come through unchanged, in their order and
  whatever characters they have.
-/
import MetricRelay.Intake.Labels
import MetricRelay.Proofs.Except
import MetricRelay.Proofs.Json.RoundTrip

namespace MetricRelay

open Monitoring

namespace Json

/-- A text. -/
def IsText (v : Json) : Prop :=
  ∃ s, v = .text s

theorem optionalMembers_object (ms : List (String × Json)) :
    optionalMembers (some (.object ms)) = .ok ms := by
  cases ms <;> rfl

end Json

/-- A series keeps the JSON text of its system labels. -/
theorem Monitoring.Series.systemLabels_of_ofJson {top metadata : List (String × Json)} {v : Json}
    {s : Series} (hmetadata : Json.member? top "metadata" = some (.object metadata))
    (hlabels : Json.member? metadata "systemLabels" = some v)
    (hs : Series.ofJson (.object top) = .ok s) : s.systemLabels = systemLabelsOfJson (some v) := by
  obtain ⟨ms, hms, hs⟩ := Except.bind_eq_ok_iff.mp hs
  obtain rfl : top = ms := Except.ok.inj hms
  obtain ⟨ns, hns, hs⟩ := Except.bind_eq_ok_iff.mp hs
  rw [hmetadata, Json.optionalMembers_object] at hns
  obtain rfl : metadata = ns := Except.ok.inj hns
  rw [hlabels] at hs
  obtain ⟨_, -, hs⟩ := Except.bind_eq_ok_iff.mp hs
  obtain ⟨_, -, hs⟩ := Except.bind_eq_ok_iff.mp hs
  obtain ⟨_, -, hs⟩ := Except.bind_eq_ok_iff.mp hs
  obtain ⟨_, -, hs⟩ := Except.bind_eq_ok_iff.mp hs
  obtain ⟨_, -, hs⟩ := Except.bind_eq_ok_iff.mp hs
  obtain ⟨_, -, hs⟩ := Except.bind_eq_ok_iff.mp hs
  rw [← Except.ok.inj hs]

namespace Intake

/-- The members of an object as labels. -/
def labelsOf (ms : List (String × Json)) : Labels :=
  ms.map fun m => (LabelName.ofText m.1, m.2)

section

variable {raw : String} {ms : List (String × Json)}

theorem decodeSystemLabels_of_isText (h : Json.read raw.toList = .ok (.object ms))
    (hms : ∀ m ∈ ms, m.2.IsText) : decodeSystemLabels raw = .ok (labelsOf ms) := by
  simp only [decodeSystemLabels, h]
  clear h
  induction ms with
  | nil => rfl
  | cons m ms ih =>
    obtain ⟨⟨s, hs⟩, hms⟩ := List.forall_mem_cons.mp hms
    rw [List.mapM_cons, ih hms, hs]
    show Except.ok ((LabelName.ofText m.1, Json.text s) :: labelsOf ms) = _
    rw [← hs]
    rfl

theorem decodeSystemLabels_of_not_isText (h : Json.read raw.toList = .ok (.object ms))
    (hms : ¬∀ m ∈ ms, m.2.IsText) : ∃ k v, decodeSystemLabels raw = .error (.labelNotText k v) := by
  simp only [decodeSystemLabels, h]
  clear h
  induction ms with
  | nil => exact absurd (List.forall_mem_nil _) hms
  | cons m ms ih =>
    obtain ⟨k, v⟩ := m
    rw [List.mapM_cons]
    cases v with
    | text s =>
      obtain ⟨k', v', hfault⟩ := ih fun hall =>
        hms (List.forall_mem_cons.mpr ⟨⟨s, rfl⟩, hall⟩)
      refine ⟨k', v', ?_⟩
      rw [hfault]
      rfl
    | _ => exact ⟨k, _, rfl⟩

end

/-- **System labels survive their JSON text.**  Names and values are any texts of Unicode scalar
values. -/
theorem decodeSystemLabels_ofJson {top metadata : List (String × Json)}
    {pairs : List (String × String)} {s : Series}
    (hmetadata : Json.member? top "metadata" = some (.object metadata))
    (hlabels : Json.member? metadata "systemLabels"
      = some (.object (pairs.map fun p => (p.1, .text p.2))))
    (hnames : (pairs.map Prod.fst).Nodup)
    (hscalar : ∀ p ∈ pairs, Text.IsScalar p.1 ∧ Text.IsScalar p.2)
    (hs : Series.ofJson (.object top) = .ok s) :
    ∃ raw, s.systemLabels = some raw ∧
      decodeSystemLabels raw = .ok (pairs.map fun p => (LabelName.ofText p.1, .text p.2)) := by
  refine ⟨_, Series.systemLabels_of_ofJson hmetadata hlabels hs, ?_⟩
  have htexts : ∀ m ∈ Json.texts pairs, m.2.IsText :=
    List.forall_mem_map.mpr fun p _ => ⟨p.2, rfl⟩
  have hread := Json.read_render_object hnames hscalar
  exact (decodeSystemLabels_of_isText hread htexts).trans (congrArg Except.ok List.map_map)

/-- A name with a quote, a backslash and a line feed, a value beyond U+FFFF, and a label of
nothing. -/
def unusualPairs : List (String × String) :=
  [("a\x22\x5c\n", "😀\x7f"), ("", "")]

/-- What is sent of a series that has these system labels and nothing else. -/
def unusualSeries : List (String × Json) :=
  [("metadata", .object [("systemLabels", .object (unusualPairs.map fun p => (p.1, .text p.2)))])]

theorem decodeSystemLabels_ofJson_unusual :
    ∃ s raw, Series.ofJson (.object unusualSeries) = .ok s ∧ s.systemLabels = some raw ∧
      decodeSystemLabels raw
        = .ok (unusualPairs.map fun p => (LabelName.ofText p.1, .text p.2)) := by
  have hsome : ∃ s, Series.ofJson (.object unusualSeries) = .ok s := ⟨_, rfl⟩
  have hmetadata : Json.member? unusualSeries "metadata"
      = some (.object
        [("systemLabels", .object (unusualPairs.map fun p => (p.1, .text p.2)))]) := rfl
  obtain ⟨s, hs⟩ := hsome
  obtain ⟨raw, hraw, hdecode⟩ :=
    decodeSystemLabels_ofJson hmetadata rfl (by decide) (by decide) hs
  exact ⟨s, raw, hs, hraw, hdecode⟩

end Intake

end MetricRelay
