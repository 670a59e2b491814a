/-
Series of other projects.

A series can name its project in its metric labels, its resource labels and its system labels.  Of
labels with one name the first counts, so the metric labels speak before the resource labels, and
these before the system labels (`get?_merged`).  The filter reads the project of the merged labels:

* `readingOf?_of_delegated` — a series that names another project gives no reading;
* `readingOf?_unfiltered`, `addSeries_unfiltered` — any other series is taken in as without the
  filter;
* `addPage_of_resourceProject` — what the filter does with a series whose resource names its
  project.

A metric label overrules the resource label both ways (`not_resourceProject_decides`).
-/
import MetricRelay.Proofs.Assoc
import MetricRelay.Proofs.Intake.Batch

namespace MetricRelay

theorem Labels.get?_addNew (labels more : Labels) (name : LabelName) :
    Assoc.get? (labels.addNew more) name
      = (Assoc.get? labels name).or (Assoc.get? more name) := by
  induction more generalizing labels with
  | nil => rw [addNew, List.foldl_nil, Assoc.get?_nil, Option.or_none]
  | cons l more ih =>
    have hstep : labels.addNew (l :: more) = Labels.addNew (Assoc.putNew labels l.1 l.2) more := rfl
    rw [hstep, ih, Assoc.get?_putNew, Option.or_assoc, Assoc.get?_cons]
    split <;> rfl

namespace Intake

open Monitoring

/-- The name of the label that names a project. -/
def projectLabel : LabelName := .ofText "project_id"

/-- Labels are looked up in the metric labels first, then in the resource labels, then in the system
labels. -/
theorem get?_merged {d : Descriptor} {s : Series} {labels : Labels} (h : merged d s = .ok labels)
    {name : LabelName} (hname : (LabelName.ofText "unit" == name) = false) :
    ∃ last, systemLabels s.systemLabels = .ok last ∧
      Assoc.get? labels name =
        ((Assoc.get? s.metricLabels name).or (Assoc.get? s.resourceLabels name)).or
          (Assoc.get? last name) := by
  rw [merged] at h
  cases hlast : systemLabels s.systemLabels with
  | error fault => rw [hlast] at h; cases h
  | ok last =>
    rw [hlast] at h
    obtain rfl := Except.ok.inj h
    refine ⟨last, rfl, ?_⟩
    rw [Labels.get?_addNew, Labels.get?_addNew, Labels.get?_addNew, Assoc.get?_cons, hname,
      if_neg Bool.false_ne_true, Assoc.get?_nil, Option.none_or]

/-- Another project is named by what is neither null nor the configured project. -/
theorem isForeign_iff {projectId : String} {v : Json} :
    isForeign projectId v = true ↔ v ≠ .null ∧ v ≠ .text projectId := by
  cases v <;> simp [isForeign]

theorem isForeign_eq_false {projectId : String} {v : Json} (h : v = .null ∨ v = .text projectId) :
    isForeign projectId v = false :=
  Bool.eq_false_iff.mpr fun hforeign =>
    h.elim (isForeign_iff.mp hforeign).1 (isForeign_iff.mp hforeign).2

/-- A resource label that names a project speaks unless a metric label does. -/
theorem isDelegated_of_merged {options : Options} {d : Descriptor} {s : Series} {labels : Labels}
    (h : merged d s = .ok labels) {v : Json}
    (hv : Assoc.get? s.resourceLabels projectLabel = some v) :
    isDelegated options labels = (options.dropDelegated &&
      isForeign options.projectId ((Assoc.get? s.metricLabels projectLabel).getD v)) := by
  have hunit : (LabelName.ofText "unit" == projectLabel) = false := by decide
  obtain ⟨last, -, hget⟩ := get?_merged h hunit
  rw [isDelegated]
  change (options.dropDelegated && (Assoc.get? labels projectLabel).any _) = _
  rw [hget, hv]
  cases Assoc.get? s.metricLabels projectLabel <;> rfl

/-- The same options without the filter. -/
def Options.unfiltered (options : Options) : Options :=
  { options with dropDelegated := false }

/-- The same batch without the filter. -/
def Batch.unfiltered (b : Batch) : Batch :=
  { b with options := b.options.unfiltered }

section

variable {options : Options} {d : Descriptor} {s : Series}

/-- A series whose labels name another project gives no reading. -/
theorem readingOf?_of_delegated
    (h : ∀ labels, merged d s = .ok labels → isDelegated options labels = true)
    {r : Option (Reading × Route)} (hr : readingOf? options d s = .ok r) : r = none := by
  obtain ⟨⟨newest?, stop⟩, -, hr⟩ := Except.bind_eq_ok_iff.mp hr
  cases newest? with
  | none => exact (Except.ok.inj hr).symm
  | some p =>
    obtain ⟨labels, hlabels, hr⟩ := Except.bind_eq_ok_iff.mp hr
    rw [if_pos (h labels hlabels)] at hr
    exact (Except.ok.inj hr).symm

/-- A series whose labels name no other project gives the reading that it gives without the
filter. -/
theorem readingOf?_unfiltered
    (h : ∀ labels, merged d s = .ok labels → isDelegated options labels = false) :
    readingOf? options.unfiltered d s = readingOf? options d s := by
  rw [readingOf?, readingOf?]
  refine bind_congr fun ⟨newest?, stop⟩ => ?_
  cases newest? with
  | none => rfl
  | some p =>
    cases hlabels : merged d s with
    | error fault => rfl
    | ok labels =>
      have hoff : isDelegated options.unfiltered labels = false := rfl
      simp only [bind, Except.bind, hoff, h labels hlabels]
      rfl

end

namespace Batch

variable {b : Batch} {t : Totals} {now : Float} {s : Series}

/-- Where a reading goes does not depend on the filter. -/
theorem place_unfiltered (r : Reading × Route) :
    b.unfiltered.place t now r = (b.place t now r).map fun x => (x.1.unfiltered, x.2) := by
  have hdescriptor : b.unfiltered.descriptor = b.descriptor := rfl
  obtain ⟨r | r, _ | _⟩ := r
  · rfl
  · simp only [place, hdescriptor]
    cases r.toHeading.sortable <;> cases b.descriptor.type.asKey <;> rfl
  · rfl
  · simp only [place, hdescriptor]
    cases r.toHeading.sortable <;> cases b.descriptor.type.asKey <;> rfl

theorem addSeries_unfiltered
    (h : ∀ labels, merged b.descriptor s = .ok labels → isDelegated b.options labels = false) :
    b.unfiltered.addSeries t now s = (b.addSeries t now s).map fun x => (x.1.unfiltered, x.2) := by
  have hreading := readingOf?_unfiltered h
  rw [addSeries, addSeries]
  show (readingOf? b.options.unfiltered b.descriptor s >>= _) = _
  rw [hreading]
  cases readingOf? b.options b.descriptor s with
  | error fault => rfl
  | ok r =>
    cases r with
    | none => rfl
    | some r => exact place_unfiltered r

/-- **The filter of other projects.**  A series whose resource labels name a project is judged by
its metric labels if they name one too, and else by the resource labels.  If what is named is not
null and not the configured project, whatever the rest of the series is, nothing is collected and no
total changes.  Otherwise the series is taken in as it is without the filter. -/
theorem addPage_of_resourceProject (hon : b.options.dropDelegated = true) {v : Json}
    (hv : Assoc.get? s.resourceLabels projectLabel = some v) (t : Totals) (now : Float) :
    let named := (Assoc.get? s.metricLabels projectLabel).getD v
    (named ≠ .null ∧ named ≠ .text b.options.projectId → (b.addPage t now [s]).1 = (b, t)) ∧
    (named = .null ∨ named = .text b.options.projectId →
      b.unfiltered.addPage t now [s] =
        (((b.addPage t now [s]).1.1.unfiltered, (b.addPage t now [s]).1.2),
          (b.addPage t now [s]).2)) := by
  intro named
  have hdelegated : ∀ labels, merged b.descriptor s = .ok labels →
      isDelegated b.options labels = isForeign b.options.projectId named := by
    intro labels hlabels
    rw [isDelegated_of_merged hlabels hv, hon, Bool.true_and]
  constructor
  · intro hforeign
    cases h : b.addSeries t now s with
    | error fault => rw [addPage_cons_of_error h]
    | ok x =>
      obtain ⟨r, hr, hx⟩ := Except.bind_eq_ok_iff.mp h
      obtain rfl := readingOf?_of_delegated
        (fun labels hl => (hdelegated labels hl).trans (isForeign_iff.mpr hforeign)) hr
      obtain rfl := Except.ok.inj hx
      rw [addPage_cons_of_ok h]
      rfl
  · intro hown
    have hsame : b.unfiltered.addSeries t now s
        = (b.addSeries t now s).map fun x => (x.1.unfiltered, x.2) :=
      addSeries_unfiltered fun labels hl => (hdelegated labels hl).trans (isForeign_eq_false hown)
    cases h : b.addSeries t now s with
    | error fault =>
      rw [h] at hsame
      rw [addPage_cons_of_error h, addPage_cons_of_error hsame]
    | ok x =>
      rw [h] at hsame
      rw [addPage_cons_of_ok h, addPage_cons_of_ok hsame]
      rfl

end Batch

/-- A gauge of jobs whose metric labels and resource labels name projects. -/
def jobsOf (metricLabels resourceLabels : Labels) : Series where
  metricType := .text "jobs"
  resourceType := .text "host"
  kind := .text "GAUGE"
  valueType := .text "INT64"
  metricLabels
  resourceLabels
  points := [⟨.null, .text "2024-05-01T00:00:00Z", { int64 := some 7 }⟩]

/-- A batch for the gauge in the project `p`, with the filter on. -/
def filteredBatch : Batch :=
  .start ⟨"p", "stackdriver", true, true, false, 0⟩ { type := .text "jobs" }

theorem Batch.addPage_of_resourceProject_jobs :
    let t : Totals := ⟨.empty 0, .empty 0⟩
    let foreign := jobsOf [] [(projectLabel, .text "q")]
    let own := jobsOf [(projectLabel, .text "p")] [(projectLabel, .text "q")]
    filteredBatch.options.dropDelegated = true ∧
    Assoc.get? foreign.resourceLabels projectLabel = some (.text "q") ∧
    Assoc.get? own.resourceLabels projectLabel = some (.text "q") ∧
    (filteredBatch.addPage t 0 [foreign]).1 = (filteredBatch, t) ∧
    filteredBatch.unfiltered.addPage t 0 [own] =
      (((filteredBatch.addPage t 0 [own]).1.1.unfiltered, (filteredBatch.addPage t 0 [own]).1.2),
        (filteredBatch.addPage t 0 [own]).2) := by
  intro t foreign own
  obtain ⟨hforeign, -⟩ :=
    Batch.addPage_of_resourceProject (b := filteredBatch) (s := foreign) rfl rfl t 0
  obtain ⟨-, hown⟩ := Batch.addPage_of_resourceProject (b := filteredBatch) (s := own) rfl rfl t 0
  have hother : Json.text "q" ≠ .text "p" := by simp
  exact ⟨rfl, rfl, rfl, hforeign ⟨nofun, hother⟩, hown (Or.inr rfl)⟩

/-- A metric label can let a resource of another project in, and keep one of the own project out. -/
theorem Batch.not_resourceProject_decides :
    ¬(∀ (b : Batch) (s : Series) (v : Json) (t : Totals) (now : Float),
      b.options.dropDelegated = true → Assoc.get? s.resourceLabels projectLabel = some v →
      v ≠ .null → v ≠ .text b.options.projectId → (b.addPage t now [s]).1 = (b, t)) ∧
    ¬(∀ (b : Batch) (s : Series) (t : Totals) (now : Float),
      b.options.dropDelegated = true →
      Assoc.get? s.resourceLabels projectLabel = some (.text b.options.projectId) →
      (b.unfiltered.addPage t now [s]).1.1.scalars = (b.addPage t now [s]).1.1.scalars) := by
  constructor
  · intro h
    have hother : Json.text "q" ≠ .text "p" := by simp
    have hleak := h filteredBatch (jobsOf [(projectLabel, .text "p")] [(projectLabel, .text "q")])
      (.text "q") ⟨.empty 0, .empty 0⟩ 0 rfl rfl nofun hother
    have hempty := congrArg (fun x : Batch × Totals => x.1.scalars.length) hleak
    exact absurd hempty (by decide)
  · intro h
    have hdrop := h filteredBatch (jobsOf [(projectLabel, .text "q")] [(projectLabel, .text "p")])
      ⟨.empty 0, .empty 0⟩ 0 rfl rfl
    exact absurd (congrArg List.length hdrop) (by decide)

end Intake

end MetricRelay
