/-
Labels of a reading.

The unit of the descriptor comes first, then the metric labels, the resource labels and the system
labels; of labels with one name the first counts.  System labels are a JSON text: they count only as
a whole, if it is an object of texts, and a text that is nested too deeply for reading ends the
merge.

* `merged_of_error` — system labels that cannot be decoded count as none.
-/
import MetricRelay.Json.Lenient
import MetricRelay.Monitoring.Series
import MetricRelay.Reading

namespace MetricRelay.Intake

open Monitoring

/-- The labels that a JSON text writes. -/
def decodeSystemLabels (raw : String) : Except Fault Labels :=
  match Json.read raw.toList with
  | .error .malformed => .error .notJson
  | .error .tooManyDigits => .error .notNumber
  | .error .tooDeep => .error .tooDeep
  | .ok (.object ms) => ms.mapM fun m =>
    match m.2 with
    | .text s => .ok (LabelName.ofText m.1, .text s)
    | v => .error (.labelNotText m.1 v)
  | .ok _ => .error (.labelsNotObject raw)

/-- The system labels that count. -/
def systemLabels (raw : Option String) : Except Fault Labels :=
  match raw with
  | none => .ok []
  | some raw =>
    match decodeSystemLabels raw with
    | .ok labels => .ok labels
    | .error .tooDeep => .error .tooDeep
    | .error _ => .ok []

/-- The labels of a series under a descriptor. -/
def merged (d : Descriptor) (s : Series) : Except Fault Labels :=
  (systemLabels s.systemLabels).map fun last =>
    let first : Labels := [(.ofText "unit", d.unit)]
    ((first.addNew s.metricLabels).addNew s.resourceLabels).addNew last

theorem merged_of_error (d : Descriptor) (s : Series) {raw : String} {fault : Fault}
    (hs : s.systemLabels = some raw) (h : decodeSystemLabels raw = .error fault)
    (hf : fault ≠ .tooDeep) : merged d s = merged d { s with systemLabels := none } := by
  have hl : systemLabels (some raw) = .ok [] := by
    cases fault <;> simp_all [systemLabels]
  have hn : systemLabels none = .ok [] := rfl
  simp only [merged, hs, hl, hn]

end MetricRelay.Intake
