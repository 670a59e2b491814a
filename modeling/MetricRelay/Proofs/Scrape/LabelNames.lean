/-
The label names of what a scrape exposes.

Labels are filled unit by unit and name by name, but what the units of a scrape hand out meets in
one sink.  There the readings of two metric types are one family if the types are spelled alike but
for the characters that names replace, and so are counters whose names differ in a trailing
`_total`:

* `handed_sameNames` — the readings of one form and name that a unit hands out have the same label
  names;
* `Trace.exposes` — what a sink exposes after a scrape, event by event;
* `isUniform_collect_iff` — when the samples of each family have the same label names;
* `not_isUniform_collect` — two types of one name whose labels differ.
-/
import MetricRelay.Proofs.Intake.Filled
import MetricRelay.Proofs.Scrape.Independence
import MetricRelay.Scrape.Exporter

namespace MetricRelay.Scrape

open Monitoring Intake Exposition

section

variable {src : Source} {p : Plan}

/-! ### What a unit hands out -/

theorem addPages_grouped (src : Source) (limit : Nat) (q : Query) {b : Batch} (hb : b.Grouped)
    (w : Work) :
    (addPages src limit q b w).2.1.Grouped ∧
    (addPages src limit q b w).2.1.options = b.options := by
  induction limit generalizing q b w with
  | zero => exact ⟨hb, rfl⟩
  | succ limit ih =>
    rw [addPages]
    cases src.series w.asked q with
    | error fault => exact ⟨hb, rfl⟩
    | ok page =>
      have hgrouped := hb.addPage w.totals (src.clock (w.ask q).asked) page.series
      have hoptions :=
        (Batch.addPage_fits b w.totals (src.clock (w.ask q).asked) page.series).options
      dsimp only
      split
      · exact ⟨hgrouped, hoptions⟩
      · exact ⟨hgrouped, hoptions⟩
      · obtain ⟨hlater, hsame⟩ := ih (q.forPage _) hgrouped
          { w.ask q with
            totals := (b.addPage w.totals (src.clock (w.ask q).asked) page.series).1.2 }
        exact ⟨hlater, hsame.trans hoptions⟩

/-- **A unit hands out one set of label names for each form and name.** -/
theorem handed_sameNames (hfill : p.collection.fillMissingLabels = true) (within : Window)
    (d : Descriptor) (w : Work) :
    ∀ r ∈ handed src p within d w, ∀ s ∈ handed src p within d w, r.SameGroup s →
      r.labels.SameNames s.labels := by
  rw [handed]
  cases unitQuery p within d with
  | error fault => exact fun r hr => absurd hr List.not_mem_nil
  | ok q =>
    obtain ⟨hgrouped, hoptions⟩ := addPages_grouped src src.limit q
      (Batch.grouped_start p.options d) w
    dsimp only
    split
    · exact fun r hr => absurd hr List.not_mem_nil
    · next hcomplete =>
      refine hgrouped.sameNames_of_complete ?_ hcomplete
      rw [hoptions]
      exact hfill

/-! ### What a scrape exposes -/

variable (src p)

/-- The state after an event. -/
def Work.next (w : Work) : Event → Work
  | .page q _ => w.ask q
  | .hit _ _ => w
  | .unit within d => (runUnit src p within d w).2
  | .stored stem ds => { w with cache := w.cache.store (src.clock w.asked) stem ds }

/-- What the sink takes in an event: of the readings that a unit hands out those of the types that
their families have. -/
def Work.taken (w : Work) : Event → List Reading
  | .unit within d => w.sink.exposedAll (handed src p within d w)
  | _ => []

/-- What the sink takes in events, one after the other. -/
def exposures : Work → List Event → List (List Reading)
  | _, [] => []
  | w, e :: es => w.taken src p e :: exposures (w.next src p e) es

variable {src p} {w w' : Work}

theorem Step.next_eq {e : Event} (h : Step src p w e w') : w' = w.next src p e := by
  cases h <;> rfl

theorem Step.exposes {e : Event} (h : Step src p w e w') {rs : List Reading}
    (hw : w.sink.Exposes rs) : w'.sink.Exposes (rs ++ w.taken src p e) := by
  cases h with
  | page h => exact (List.append_nil rs).symm ▸ hw
  | hit h => exact (List.append_nil rs).symm ▸ hw
  | unit within d =>
    rw [runUnit_sink]
    exact hw.addAll _
  | stored stem ds => exact (List.append_nil rs).symm ▸ hw

/-- **Events add what the sink takes in each of them to what it exposes.** -/
theorem Trace.exposes {es : List Event} (h : Trace src p w es w') {rs : List Reading}
    (hw : w.sink.Exposes rs) : w'.sink.Exposes (rs ++ (exposures src p w es).flatten) := by
  induction h generalizing rs with
  | nil w => simpa [exposures] using hw
  | cons hstep _ ih =>
    rw [exposures, List.flatten_cons, ← List.append_assoc, ← hstep.next_eq]
    exact ih (hstep.exposes hw)

/-- What the sink takes in one event has one set of label names for each form and name. -/
theorem exposures_sameNames (hfill : p.collection.fillMissingLabels = true) (w : Work)
    (es : List Event) : ∀ rs ∈ exposures src p w es, ∀ r ∈ rs, ∀ s ∈ rs, r.SameGroup s →
      r.labels.SameNames s.labels := by
  induction es generalizing w with
  | nil => exact fun rs hrs => absurd hrs List.not_mem_nil
  | cons e es ih =>
    refine List.forall_mem_cons.mpr ⟨?_, ih (w.next src p e)⟩
    cases e with
    | unit within d =>
      intro r hr s hs
      have hsublist := Sink.exposedAll_sublist w.sink (handed src p within d w)
      exact handed_sameNames hfill within d w r (hsublist.subset hr) s (hsublist.subset hs)
    | _ => exact fun r hr => absurd hr List.not_mem_nil

end

theorem forall_mem_flatten_iff {α : Type} {R : α → α → Prop} (hR : ∀ a b, R a b → R b a)
    (ls : List (List α)) :
    (∀ a ∈ ls.flatten, ∀ b ∈ ls.flatten, R a b) ↔
      (ls.Pairwise fun l k => ∀ a ∈ l, ∀ b ∈ k, R a b) ∧ ∀ l ∈ ls, ∀ a ∈ l, ∀ b ∈ l, R a b := by
  constructor
  · intro h
    refine ⟨List.pairwise_iff_forall_sublist.mpr fun {l k} hlk a ha b hb => ?_,
      fun l hl a ha b hb => ?_⟩
    · exact h a (List.mem_flatten_of_mem (hlk.subset (by simp)) ha) b
        (List.mem_flatten_of_mem (hlk.subset (by simp)) hb)
    · exact h a (List.mem_flatten_of_mem hl ha) b (List.mem_flatten_of_mem hl hb)
  · rintro ⟨hpair, hself⟩ a ha b hb
    have hsymm : Std.Symm fun l k : List α => ∀ a ∈ l, ∀ b ∈ k, R a b :=
      ⟨fun l k hlk a ha b hb => hR b a (hlk b hb a ha)⟩
    obtain ⟨l, hl, ha⟩ := List.mem_flatten.mp ha
    obtain ⟨k, hk, hb⟩ := List.mem_flatten.mp hb
    by_cases hlk : l = k
    · exact hself l hl a ha b (hlk ▸ hb)
    · exact hpair.forall hl hk hlk a ha b hb

/-- **The samples of each family have the same label names exactly if units agree.**  Let missing
labels be filled.  What the sink takes in the units of a scrape has to have the same label names for
readings of one family that come from different units, and for those of one unit that have different
forms or names. -/
theorem isUniform_collect_iff (e : Exporter) (src : Source)
    (hfill : e.plan.collection.fillMissingLabels = true) :
    let w := e.work
    let taken := exposures src e.plan w (runEvents src e.plan w)
    (run src e.plan w).2.sink.Exposes taken.flatten ∧
      ((∀ f ∈ (e.collect src).1.families, f.IsUniform) ↔
        (taken.Pairwise fun rs ss => ∀ r ∈ rs, ∀ s ∈ ss, r.family = s.family →
          r.labels.SameNames s.labels) ∧
        ∀ rs ∈ taken, ∀ r ∈ rs, ∀ s ∈ rs, r.family = s.family → ¬r.SameGroup s →
          r.labels.SameNames s.labels) := by
  intro w taken
  have hexposes : (run src e.plan w).2.sink.Exposes taken.flatten :=
    (trace_run src e.plan w).exposes Sink.exposes_nil
  refine ⟨hexposes, ?_⟩
  have hfamilies : (e.collect src).1.families = (run src e.plan w).2.sink.families := rfl
  rw [hfamilies, hexposes.forall_isUniform_iff, forall_mem_flatten_iff]
  · refine and_congr_right fun _ => ⟨fun h rs hrs r hr s hs hsame _ => h rs hrs r hr s hs hsame, ?_⟩
    intro h rs hrs r hr s hs hsame
    -- a unit has filled the labels of readings of one form and name
    by_cases hgroup : r.SameGroup s
    · exact exposures_sameNames hfill w _ rs hrs r hr s hs hgroup
    · exact h rs hrs r hr s hs hsame hgroup
  · intro r s hrs hsame name
    exact (hrs hsame.symm name).symm

/-- An exporter for jobs, whose labels are filled. -/
def spellingsExporter : Exporter where
  plan := { collection := { prefixes := ["jobs"] }, metricNamespace := "stackdriver" }
  totals := ⟨{ ttl := 1800 }, { ttl := 1800 }⟩
  cache := .empty 0 true
  meters := { stem := "stackdriver_monitoring_" }

/-- A source that has one series for each of two types, whose names become the same; its label is
either the same, too, or that of the type. -/
def spellingsSource (alike : Bool) : Source where
  descriptors _ _ := .ok ⟨[{ type := .text "jobs/done" }, { type := .text "jobs.done" }], .text ""⟩
  series _ q :=
    match q.subject with
    | .series (.text type) _ _ =>
      let label := if alike || type == "jobs/done" then "queue" else "worker"
      .ok
        ⟨[{ metricType := .text type, resourceType := .text "host", kind := .text "GAUGE"
            valueType := .text "INT64", metricLabels := [(LabelName.ofText label, .text "a")]
            points := [⟨.null, .text "2024-05-01T00:00:00Z", { int64 := some 7 }⟩] }], .text ""⟩
    | _ => .error .notObject
  clock _ := 0
  now _ := .ok .epoch
  wall _ := 0
  limit := 5

theorem isUniform_collect_iff_spellings :
    spellingsExporter.plan.collection.fillMissingLabels = true ∧
      ∀ f ∈ (spellingsExporter.collect (spellingsSource true)).1.families, f.IsUniform := by
  let w := spellingsExporter.work
  let taken := exposures (spellingsSource true) spellingsExporter.plan w
    (runEvents (spellingsSource true) spellingsExporter.plan w)
  have hkeys : ∀ rs ∈ taken, ∀ r ∈ rs,
      (Assoc.keys r.labels).map LabelName.key = [.text "unit", .text "queue"] := by
    decide +kernel
  have hsame : ∀ rs ∈ taken, ∀ ss ∈ taken, ∀ r ∈ rs, ∀ s ∈ ss, r.labels.SameNames s.labels :=
    fun rs hrs ss hss r hr s hs =>
      Labels.sameNames_of_keys ((hkeys rs hrs r hr).trans (hkeys ss hss s hs).symm)
  refine ⟨rfl, (isUniform_collect_iff spellingsExporter (spellingsSource true) rfl).2.mpr ⟨?_, ?_⟩⟩
  · refine List.pairwise_iff_forall_sublist.mpr fun {rs ss} h r hr s hs _ => ?_
    exact hsame rs (h.subset (by simp)) ss (h.subset (by simp)) r hr s hs
  · exact fun rs hrs r hr s hs _ _ => hsame rs hrs rs hrs r hr s hs

/-- The readings of the two types are samples of one family, each with a label of its own. -/
theorem not_isUniform_collect :
    let families := (spellingsExporter.collect (spellingsSource false)).1.families
    spellingsExporter.plan.collection.fillMissingLabels = true ∧
      (families.map fun f => (f.name, f.type, f.samples.map fun x =>
        (Assoc.keys x.labels).map LabelName.key)) =
        [("stackdriver_host_jobs_done", .gauge,
          [[.text "unit", .text "queue"], [.text "unit", .text "worker"]])] ∧
      ¬∀ f ∈ families, f.IsUniform := by
  intro families
  have hhas : (families.map fun f => (f.type, f.samples.map fun x =>
      Assoc.has x.labels (LabelName.ofText "queue"))) = [(.gauge, [true, false])] := by
    decide +kernel
  refine ⟨rfl, by decide +kernel, fun huniform => ?_⟩
  obtain ⟨f, hfamilies, hf⟩ := List.map_eq_singleton_iff.mp hhas
  obtain ⟨htype, hsamples⟩ := Prod.mk.inj hf
  obtain ⟨x, rest, hrest, hx, hlater⟩ := List.map_eq_cons_iff.mp hsamples
  obtain ⟨y, rfl, hy⟩ := List.map_eq_singleton_iff.mp hlater
  obtain ⟨names, hnames⟩ := huniform f (by simp [hfamilies])
  have hfirst := hnames x (by simp [hrest]) (LabelName.ofText "queue")
  have hsecond := hnames y (by simp [hrest]) (LabelName.ofText "queue")
  rw [hx, htype] at hfirst
  rw [hy] at hsecond
  have hqueue : names (LabelName.ofText "queue") :=
    (hfirst.mp rfl).resolve_right fun h => (by cases h.1)
  exact absurd (hsecond.mpr (Or.inl hqueue)) (by simp)

end MetricRelay.Scrape
