/-
Families whose samples have the same label names.

The samples of a reading have its labels, and those of its buckets also say their bound under `le`.
So the samples of a family have the same label names, apart from that one, exactly if the readings
of its name that are exposed have:

* `Sink.Exposes.isUniform_iff` — one family;
* `Sink.Exposes.forall_isUniform_iff` — all families of a sink.
-/
import MetricRelay.Proofs.Exposition.Parts

namespace MetricRelay

open Intake

/-- Labels with the same names. -/
def Labels.SameNames (l m : Labels) : Prop :=
  ∀ name, Assoc.has l name = Assoc.has m name

theorem Labels.sameNames_of_keys {l m : Labels}
    (h : (Assoc.keys l).map LabelName.key = (Assoc.keys m).map LabelName.key) : l.SameNames m := by
  have hhas : ∀ (l : Labels) (name : LabelName),
      Assoc.has l name = ((Assoc.keys l).map LabelName.key).any (· == name.key) := by
    intro l name
    rw [Assoc.has_eq_any, List.any_map]
    rfl
  intro name
  rw [hhas, hhas, h]

namespace Exposition

/-- The samples of a family have the same label names, and those of buckets also `le`. -/
def Family.IsUniform (f : Family) : Prop :=
  ∃ names : LabelName → Prop, ∀ x ∈ f.samples, ∀ name, Assoc.has x.labels name = true ↔
    names name ∨ (f.type = .histogram ∧ x.name = f.name ++ "_bucket" ∧
      (LabelName.ofText "le" == name) = true)

section

variable {r : Reading} {p : Part × Labels}

theorem labels_of_ne_bucket (hp : p ∈ r.parts) (hne : p.1 ≠ .bucket) : p.2 = r.labels := by
  cases r with
  | scalar r => rw [List.mem_singleton.mp hp, Reading.labels]
  | histogram r =>
    rcases mem_parts_histogram.mp hp with ⟨b, hb, rfl⟩ | rfl | rfl
    · exact absurd rfl hne
    · rfl
    · rfl

theorem labels_of_bucket (hp : p ∈ r.parts) (hbucket : p.1 = .bucket) :
    r.word = "histogram" ∧ ∃ bound, p.2 = Assoc.put r.labels (LabelName.ofText "le") bound := by
  cases r with
  | scalar r =>
    rw [List.mem_singleton.mp hp] at hbucket
    dsimp only at hbucket
    split at hbucket <;> cases hbucket
  | histogram r =>
    rcases mem_parts_histogram.mp hp with ⟨b, hb, rfl⟩ | rfl | rfl
    · exact ⟨rfl, _, rfl⟩
    · cases hbucket
    · cases hbucket

theorem exists_part_ne_bucket (r : Reading) : ∃ p ∈ r.parts, p.1 ≠ .bucket := by
  cases r with
  | scalar r =>
    refine ⟨_, List.mem_singleton.mpr rfl, ?_⟩
    dsimp only
    split <;> simp
  | histogram r => exact ⟨_, mem_parts_histogram.mpr (Or.inr (Or.inl rfl)), by simp⟩

end

namespace Sink.Exposes

variable {sink : Sink} {rs : List Reading}

theorem name_eq_bucket_iff (h : sink.Exposes rs) {e : String × Family} (he : e ∈ sink) {r : Reading}
    {p : Part × Labels} {x : Sample} (hr : r.family = e.1) (hx : x.name = r.family ++ p.1.suffix) :
    x.name = e.2.name ++ "_bucket" ↔ p.1 = .bucket := by
  have hbucket : "_bucket" = Part.bucket.suffix := rfl
  rw [hx, hr, (h.isFamilyOf he).name, String.append_right_inj, hbucket, Part.suffix_inj]

/-- **A family is uniform exactly if the readings of its name have the same label names.** -/
theorem isUniform_iff (h : sink.Exposes rs) {e : String × Family} (he : e ∈ sink) :
    e.2.IsUniform ↔ ∀ r ∈ rs, ∀ s ∈ rs, r.family = e.1 → s.family = e.1 →
      r.labels.SameNames s.labels := by
  constructor
  · rintro ⟨names, hnames⟩
    -- each reading has a sample that belongs to no bucket and has just its labels
    have hlabels : ∀ r ∈ rs, r.family = e.1 → ∀ name,
        Assoc.has r.labels name = true ↔ names name := by
      intro r hr hre name
      obtain ⟨p, hp, hne⟩ := exists_part_ne_bucket r
      obtain ⟨x, hx, hxname, hxlabels⟩ := exists_sample_of_mem hp
      have hhas := hnames x ((h.mem_samples_iff he).mpr ⟨r, hr, hre, hx⟩) name
      rw [hxlabels, labels_of_ne_bucket hp hne, h.name_eq_bucket_iff he hre hxname] at hhas
      rw [hhas]
      exact or_iff_left fun hbucket => hne hbucket.2.1
    intro r hr s hs hre hse name
    rw [Bool.eq_iff_iff, hlabels r hr hre, hlabels s hs hse]
  · intro hsame
    obtain ⟨first, hfirst, hname⟩ := (h.keys e.1).mp (List.mem_map_of_mem he)
    refine ⟨fun name => Assoc.has first.labels name = true, fun x hx name => ?_⟩
    obtain ⟨r, hr, hre, hx⟩ := (h.mem_samples_iff he).mp hx
    obtain ⟨p, hp, hxname, hxlabels⟩ := exists_part_of_mem hx
    have hfirstname := hsame first hfirst r hr hname hre name
    rw [h.name_eq_bucket_iff he hre hxname, hxlabels]
    dsimp only
    rw [hfirstname]
    by_cases hbucket : p.1 = .bucket
    · obtain ⟨hword, bound, hbound⟩ := labels_of_bucket hp hbucket
      have htype : e.2.type = .histogram := by
        have hof := (h.isFamilyOf he).type r hr hre
        rw [hword] at hof
        exact (Option.some.inj hof).symm
      rw [hbound, Assoc.has_put, Bool.or_eq_true, or_comm]
      simp only [htype, hbucket, true_and]
    · rw [labels_of_ne_bucket hp hbucket]
      exact (or_iff_left fun h => hbucket h.2.1).symm

theorem forall_isUniform_iff (h : sink.Exposes rs) :
    (∀ f ∈ sink.families, f.IsUniform) ↔
      ∀ r ∈ rs, ∀ s ∈ rs, r.family = s.family → r.labels.SameNames s.labels := by
  rw [Sink.families, List.forall_mem_map]
  constructor
  · intro huniform r hr s hs hrs
    obtain ⟨e, he, her⟩ := h.exists_entry hr
    exact (h.isUniform_iff he).mp (huniform e he) r hr s hs her.symm (hrs.symm.trans her.symm)
  · intro hsame e he
    exact (h.isUniform_iff he).mpr fun r hr s hs hre hse => hsame r hr s hs (hre.trans hse.symm)

end Sink.Exposes

end Exposition

end MetricRelay
