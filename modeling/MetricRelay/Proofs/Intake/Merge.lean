/-
The merge of labels.

The unit of the descriptor, the metric labels, the resource labels and the system labels are put
behind one another, and of labels with one name the first stays.  System labels count only as a
whole.

* `Labels.keys_addNew` — the names after a further source, each at its first place;
* `systemLabels_eq_ok` — the system labels that count, for a text that can be read so deep;
* `areLabelsOf_of_merged`, `AreLabelsOf.unique` — the labels that a series has, and there are no
  others;
* `merged_eq_ok` — the labels of any series under any descriptor.
-/
import MetricRelay.Proofs.Intake.Delegated
import MetricRelay.Proofs.Intake.SystemLabels
import MetricRelay.Proofs.Json.Nesting

namespace MetricRelay

namespace Assoc

variable {κ α : Type} [BEq κ]

theorem keys_putNew (m : Assoc κ α) (k : κ) (v : α) :
    keys (putNew m k v) = if has m k then keys m else keys m ++ [k] := by
  rw [putNew]
  split
  · rfl
  · rw [keys, List.map_append]
    rfl

end Assoc

namespace Labels

theorem keys_putNew_eq_eraseDups {labels : Labels} {ks : List LabelName}
    (h : Assoc.keys labels = ks.eraseDups) (name : LabelName) (v : Json) :
    Assoc.keys (Assoc.putNew labels name v) = (ks ++ [name]).eraseDups := by
  rw [Assoc.keys_putNew, Assoc.has_eq_any, h, Assoc.any_eraseDups, Assoc.eraseDups_append,
    List.filter_cons, List.filter_nil]
  cases ks.any fun k => k == name with
  | true => simp
  | false => simp [List.eraseDups_cons]

/-- A further source adds the names that are new, each at its first place. -/
theorem keys_addNew {labels : Labels} {ks : List LabelName} (h : Assoc.keys labels = ks.eraseDups)
    (more : Labels) : Assoc.keys (labels.addNew more) = (ks ++ Assoc.keys more).eraseDups := by
  induction more generalizing labels ks with
  | nil =>
    rw [Assoc.keys_nil, List.append_nil]
    exact h
  | cons l more ih =>
    have hput := ih (keys_putNew_eq_eraseDups h l.1 l.2)
    rw [List.append_assoc] at hput
    exact hput

end Labels

namespace Intake

open Monitoring

/-- A JSON text that writes an object whose values are texts. -/
structure IsLabelText (raw : String) (ms : List (String × Json)) : Prop where
  read_eq : Json.read raw.toList = .ok (.object ms)
  isText : ∀ m ∈ ms, m.2.IsText

/-- System labels count as a whole or not at all. -/
theorem systemLabels_eq_ok {raw : String} (hdeep : Json.read raw.toList ≠ .error .tooDeep) :
    (∃ ms, IsLabelText raw ms ∧ systemLabels (some raw) = .ok (labelsOf ms)) ∨
    ((∀ ms, ¬IsLabelText raw ms) ∧ systemLabels (some raw) = .ok []) := by
  cases hread : Json.read raw.toList with
  | error fault =>
    refine Or.inr ⟨fun ms hms => ?_, ?_⟩
    · rw [hms.read_eq] at hread
      cases hread
    · cases fault with
      | tooDeep => exact absurd hread hdeep
      | malformed => simp only [systemLabels, decodeSystemLabels, hread]
      | tooManyDigits => simp only [systemLabels, decodeSystemLabels, hread]
  | ok v =>
    by_cases hv : ∃ ms, IsLabelText raw ms
    · obtain ⟨ms, hms⟩ := hv
      refine Or.inl ⟨ms, hms, ?_⟩
      simp only [systemLabels, decodeSystemLabels_of_isText hms.read_eq hms.isText]
    · rw [not_exists] at hv
      refine Or.inr ⟨hv, ?_⟩
      cases v with
      | object ms =>
        obtain ⟨k, v, hfault⟩ := decodeSystemLabels_of_not_isText hread fun hms =>
          hv ms ⟨hread, hms⟩
        simp only [systemLabels, hfault]
      | _ => simp only [systemLabels, decodeSystemLabels, hread]

/-- The system labels that count: those of a text that writes an object of texts, and else none. -/
def AreLast (s : Series) (last : Labels) : Prop :=
  (∃ raw ms, s.systemLabels = some raw ∧ IsLabelText raw ms ∧ last = labelsOf ms) ∨
    (∀ raw ms, s.systemLabels = some raw → ¬IsLabelText raw ms) ∧ last = []

theorem areLast_of_systemLabels {s : Series} {last : Labels}
    (h : systemLabels s.systemLabels = .ok last) : AreLast s last := by
  cases hs : s.systemLabels with
  | none =>
    rw [hs] at h
    refine Or.inr ⟨fun raw ms hraw => ?_, (Except.ok.inj h).symm⟩
    cases hs.symm.trans hraw
  | some raw =>
    rw [hs] at h
    have hdeep : Json.read raw.toList ≠ .error .tooDeep := fun hread => by
      simp [systemLabels, decodeSystemLabels, hread] at h
    obtain ⟨ms, hms, hlabels⟩ | ⟨hms, hlabels⟩ := systemLabels_eq_ok hdeep
    · exact Or.inl ⟨raw, ms, hs, hms, Except.ok.inj (h.symm.trans hlabels)⟩
    · refine Or.inr ⟨fun raw' ms hraw => ?_, Except.ok.inj (h.symm.trans hlabels)⟩
      obtain rfl := Option.some.inj (hs.symm.trans hraw)
      exact hms ms

theorem AreLast.unique {s : Series} {last last' : Labels} (h : AreLast s last)
    (h' : AreLast s last') : last = last' := by
  rcases h with ⟨raw, ms, hs, hms, rfl⟩ | ⟨hnone, rfl⟩
  · rcases h' with ⟨raw', ms', hs', hms', rfl⟩ | ⟨hnone', -⟩
    · obtain rfl := Option.some.inj (hs.symm.trans hs')
      cases hms.read_eq.symm.trans hms'.read_eq
      rfl
    · exact absurd hms (hnone' raw ms hs)
  · rcases h' with ⟨raw, ms, hs, hms, -⟩ | ⟨-, rfl⟩
    · exact absurd hms (hnone raw ms hs)
    · rfl

/-- The labels of all sources behind one another. -/
def sources (d : Descriptor) (s : Series) (last : Labels) : Labels :=
  (LabelName.ofText "unit", d.unit) :: (s.metricLabels ++ s.resourceLabels ++ last)

/-- Labels that have every name of some sources once, at its first place and with its first
value. -/
structure IsMerge (labels sources : Labels) : Prop where
  keys_eq : Assoc.keys labels = (Assoc.keys sources).eraseDups
  distinct : (Assoc.keys labels).Pairwise fun a b => (a == b) = false
  get?_eq : ∀ name, Assoc.get? labels name = Assoc.get? sources name

theorem IsMerge.unique {labels labels' sources : Labels} (h : IsMerge labels sources)
    (h' : IsMerge labels' sources) : labels = labels' := by
  refine Assoc.eq_of_get?_of_filter h.distinct (h.keys_eq.trans h'.keys_eq.symm)
    (fun name _ _ => (h.get?_eq name).trans (h'.get?_eq name).symm) ?_
  -- every name is equal to itself
  simp

theorem merged_of_systemLabels (d : Descriptor) {s : Series} {last : Labels}
    (h : systemLabels s.systemLabels = .ok last) :
    ∃ labels, merged d s = .ok labels ∧ IsMerge labels (sources d s last) := by
  have hkeys : Assoc.keys ([(LabelName.ofText "unit", d.unit)] : Labels)
      = [LabelName.ofText "unit"].eraseDups := rfl
  have hmerged := Labels.keys_addNew (Labels.keys_addNew (Labels.keys_addNew hkeys s.metricLabels)
    s.resourceLabels) last
  refine ⟨_, congrArg (Except.map _) h, ?_, ?_, fun name => ?_⟩
  · rw [hmerged]
    simp [sources, Assoc.keys]
  · rw [hmerged]
    exact Assoc.pairwise_eraseDups _
  · rw [Labels.get?_addNew, Labels.get?_addNew, Labels.get?_addNew, sources, Assoc.get?_cons,
      Assoc.get?_cons, Assoc.get?_append, Assoc.get?_append, Assoc.get?_nil]
    split <;> simp

/-- The labels of a series under a descriptor. -/
def AreLabelsOf (d : Descriptor) (s : Series) (labels : Labels) : Prop :=
  ∃ last, AreLast s last ∧ IsMerge labels (sources d s last)

theorem areLabelsOf_of_merged {d : Descriptor} {s : Series} {labels : Labels}
    (h : merged d s = .ok labels) : AreLabelsOf d s labels := by
  cases hlast : systemLabels s.systemLabels with
  | error fault =>
    rw [merged, hlast] at h
    cases h
  | ok last =>
    obtain ⟨labels', hmerged, hmerge⟩ := merged_of_systemLabels d hlast
    obtain rfl := Except.ok.inj (h.symm.trans hmerged)
    exact ⟨last, areLast_of_systemLabels hlast, hmerge⟩

theorem AreLabelsOf.unique {d : Descriptor} {s : Series} {labels labels' : Labels}
    (h : AreLabelsOf d s labels) (h' : AreLabelsOf d s labels') : labels = labels' := by
  obtain ⟨last, hlast, hmerge⟩ := h
  obtain ⟨last', hlast', hmerge'⟩ := h'
  obtain rfl := hlast.unique hlast'
  exact hmerge.unique hmerge'

/-- **Labels are merged.**  Every name of the sources is there once, at its first place and with its
first value, and the unit is that of the descriptor.  The system labels are a source if their text
writes an object of texts; any other text leaves the labels that the series has without it. -/
theorem merged_eq_ok (d : Descriptor) (s : Series)
    (h : ∀ raw, s.systemLabels = some raw → Json.NestsWithin Json.maxDepth raw.toList) :
    ∃ labels last, merged d s = .ok labels ∧ IsMerge labels (sources d s last) ∧
      Assoc.get? labels (LabelName.ofText "unit") = some d.unit ∧
      ((∃ raw ms, s.systemLabels = some raw ∧ IsLabelText raw ms ∧ last = labelsOf ms) ∨
        ((∀ raw ms, s.systemLabels = some raw → ¬IsLabelText raw ms) ∧ last = [] ∧
          merged d s = merged d { s with systemLabels := none })) := by
  have hunit : ∀ last, Assoc.get? (sources d s last) (LabelName.ofText "unit") = some d.unit :=
    fun _ => rfl
  have hlast : ∃ last, systemLabels s.systemLabels = .ok last := by
    cases hs : s.systemLabels with
    | none => exact ⟨[], rfl⟩
    | some raw =>
      obtain ⟨ms, -, hlabels⟩ | ⟨-, hlabels⟩ := systemLabels_eq_ok (Json.read_ne_tooDeep (h raw hs))
      · exact ⟨_, hlabels⟩
      · exact ⟨_, hlabels⟩
  obtain ⟨last, hsystem⟩ := hlast
  obtain ⟨labels, hmerged, hmerge⟩ := merged_of_systemLabels d hsystem
  refine ⟨labels, last, hmerged, hmerge, (hmerge.get?_eq _).trans (hunit last), ?_⟩
  -- what does not count is the same as none
  rcases areLast_of_systemLabels hsystem with hcounts | ⟨hnone, rfl⟩
  · exact Or.inl hcounts
  · refine Or.inr ⟨hnone, rfl, ?_⟩
    rw [merged, merged, hsystem]
    rfl

/-- A zone in the metric labels, one in the resource labels and one in the system labels. -/
def threeZones : Series :=
  { metricType := .text "load"
    resourceType := .text "machine"
    kind := .text "GAUGE"
    valueType := .text "DOUBLE"
    metricLabels := [(LabelName.ofText "zone", .text "a"), (LabelName.ofText "unit", .text "none")]
    resourceLabels := [(LabelName.ofText "zone", .text "b")]
    systemLabels := some "\x7b\x22zone\x22: \x22c\x22, \x22rack\x22: \x227\x22\x7d" }

theorem merged_eq_ok_threeZones :
    (∀ raw, threeZones.systemLabels = some raw → Json.NestsWithin Json.maxDepth raw.toList) ∧
    ∃ labels, merged { type := .text "load", unit := .text "%" } threeZones = .ok labels ∧
      Assoc.get? labels (LabelName.ofText "unit") = some (.text "%") ∧
      Assoc.get? labels (LabelName.ofText "zone") = some (.text "a") := by
  have hnests : ∀ raw, threeZones.systemLabels = some raw →
      Json.NestsWithin Json.maxDepth raw.toList := by
    intro raw hraw
    obtain rfl := Option.some.inj hraw
    decide +kernel
  obtain ⟨labels, last, hmerged, hmerge, hunit, -⟩ :=
    merged_eq_ok { type := .text "load", unit := .text "%" } threeZones hnests
  exact ⟨hnests, labels, hmerged, hunit, hmerge.get?_eq _⟩

end Intake

end MetricRelay
