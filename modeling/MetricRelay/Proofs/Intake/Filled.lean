/-
Readings with filled labels.

A batch keeps scalars and histograms apart and collects them by their names, each name once.  If it
fills missing labels, what it hands out has the same label names for all readings of one form and
name, the running totals among them:

* `Batch.Grouped` — the readings of a batch by their names, as taking in series keeps them;
* `Batch.sameNames_of_complete` — the label names of what a batch hands out.
-/
import MetricRelay.Proofs.Exposition.Uniform
import MetricRelay.Proofs.Intake.Batch

namespace MetricRelay.Intake

open Monitoring

/-- Elements in lists under their keys, and no key twice. -/
structure Grouped {α : Type} (key : α → String) (m : Assoc String (List α)) : Prop where
  nodup : (Assoc.keys m).Nodup
  named : ∀ e ∈ m, ∀ a ∈ e.2, key a = e.1

section

variable {α : Type} {key : α → String} {m : Assoc String (List α)}

theorem grouped_nil : Grouped key [] :=
  ⟨List.nodup_nil, fun _ h => absurd h List.not_mem_nil⟩

theorem Grouped.append (h : Grouped key m) (a : α) : Grouped key (append m (key a) a) := by
  have hnodup := Assoc.nodup_keys_put h.nodup (key a) ((Assoc.get? m (key a)).getD [] ++ [a])
  refine ⟨hnodup, fun e he b hb => ?_⟩
  have hget := (Assoc.get?_eq_some_iff hnodup).mpr he
  rw [Assoc.get?_put] at hget
  split at hget
  · next hkey =>
    rw [← Option.some.inj hget] at hb
    rcases List.mem_append.mp hb with hb | hb
    · cases hold : Assoc.get? m (key a) with
      | none =>
        rw [hold] at hb
        cases hb
      | some l =>
        rw [hold] at hb
        rw [← hkey]
        exact h.named _ (Assoc.mem_of_get? hold) b hb
    · rw [List.mem_singleton.mp hb, hkey]
  · exact h.named e (Assoc.mem_of_get? hget) b hb

theorem Grouped.appendAll (h : Grouped key m) (as : List α) : Grouped key (appendAll key m as) := by
  induction as generalizing m with
  | nil => exact h
  | cons a as ih => exact ih (h.append a)

/-- Elements with one key are in one list. -/
theorem Grouped.eq_of_key (h : Grouped key m) {e d : String × List α} {a b : α} (he : e ∈ m)
    (hd : d ∈ m) (ha : key a = e.1) (hb : key b = d.1) (hab : key a = key b) : e = d := by
  have hkeys : e.1 = d.1 := ha.symm.trans (hab.trans hb)
  exact List.inj_on_of_nodup_map h.nodup he hd hkeys

end

namespace Batch

/-- The readings of a batch by their names. -/
structure Grouped (b : Batch) : Prop where
  scalars : Intake.Grouped (fun r => r.name) b.scalars
  histograms : Intake.Grouped (fun r => r.name) b.histograms

variable {b b' : Batch} {t t' : Totals} {now : Float}

theorem grouped_start (options : Options) (d : Descriptor) : (start options d).Grouped :=
  ⟨grouped_nil, grouped_nil⟩

theorem Grouped.place (hb : b.Grouped) {x : Reading × Route} (h : b.place t now x = .ok (b', t')) :
    b'.Grouped := by
  obtain ⟨r | r, _ | _⟩ := x <;> simp only [Batch.place, Except.bind_eq_ok_iff] at h
  · obtain ⟨rfl, -⟩ := Prod.mk.inj (Except.ok.inj h)
    exact ⟨hb.scalars.append r, hb.histograms⟩
  · obtain ⟨_, -, _, -, h⟩ := h
    obtain ⟨rfl, -⟩ := Prod.mk.inj (Except.ok.inj h)
    exact hb
  · obtain ⟨rfl, -⟩ := Prod.mk.inj (Except.ok.inj h)
    exact ⟨hb.scalars, hb.histograms.append r⟩
  · obtain ⟨_, -, _, -, h⟩ := h
    obtain ⟨rfl, -⟩ := Prod.mk.inj (Except.ok.inj h)
    exact hb

theorem Grouped.addSeries (hb : b.Grouped) {s : Series} (h : b.addSeries t now s = .ok (b', t')) :
    b'.Grouped := by
  obtain ⟨r?, -, h⟩ := Except.bind_eq_ok_iff.mp h
  cases r? with
  | none =>
    obtain ⟨rfl, -⟩ := Prod.mk.inj (Except.ok.inj h)
    exact hb
  | some r => exact hb.place h

theorem Grouped.addPage (hb : b.Grouped) (t : Totals) (now : Float) (ss : List Series) :
    (b.addPage t now ss).1.1.Grouped := by
  induction ss generalizing b t with
  | nil => exact hb
  | cons s ss ih =>
    cases h : b.addSeries t now s with
    | error fault =>
      rw [addPage_cons_of_error h]
      exact hb
    | ok r =>
      rw [addPage_cons_of_ok h]
      exact ih (hb.addSeries h) r.2

theorem Grouped.withTotals (hb : b.Grouped) (h : b.withTotals t now = .ok (b', t')) :
    b'.Grouped ∧ b'.options = b.options := by
  rw [Batch.withTotals] at h
  split at h
  · obtain ⟨_, -, h⟩ := Except.bind_eq_ok_iff.mp h
    cases h
    exact ⟨⟨hb.scalars.appendAll _, hb.histograms.appendAll _⟩, rfl⟩
  · cases h
    exact ⟨hb, rfl⟩

end Batch

/-! ### Label names -/

/-- Readings of one form and name. -/
def Reading.SameGroup : Reading → Reading → Prop
  | .scalar r, .scalar s => r.name = s.name
  | .histogram r, .histogram s => r.name = s.name
  | _, _ => False

theorem keys_filled (names : List LabelName) (labels : Labels) :
    Assoc.keys (filled names labels) = names := by
  simp [Assoc.keys, filled, Function.comp_def]

theorem sameNames_filled (names : List LabelName) (l m : Labels) :
    (filled names l).SameNames (filled names m) := by
  intro name
  rw [Assoc.has_eq_any, Assoc.has_eq_any, keys_filled, keys_filled]

/-- Lists that are filled one by one have the same label names for elements of one key. -/
theorem Grouped.sameNames {α : Type} {key : α → String} {m : Assoc String (List α)}
    (h : Grouped key m) (labels : α → Labels) (names : List α → List LabelName)
    (fill : List α → List α) (hfill : ∀ as, ∀ a ∈ fill as, ∃ b ∈ as, key a = key b ∧
      labels a = filled (names as) (labels b)) :
    ∀ a ∈ (m.map fun f => fill f.2).flatten, ∀ b ∈ (m.map fun f => fill f.2).flatten,
      key a = key b → (labels a).SameNames (labels b) := by
  have hsource : ∀ a ∈ (m.map fun f => fill f.2).flatten, ∃ e ∈ m, key a = e.1 ∧
      ∃ l, labels a = filled (names e.2) l := by
    intro a ha
    obtain ⟨as, has, ha⟩ := List.mem_flatten.mp ha
    obtain ⟨e, he, rfl⟩ := List.mem_map.mp has
    obtain ⟨b, hb, hkey, hlabels⟩ := hfill e.2 a ha
    exact ⟨e, he, hkey.trans (h.named e he b hb), _, hlabels⟩
  intro a ha b hb hab
  obtain ⟨e, he, hae, l, hl⟩ := hsource a ha
  obtain ⟨d, hd, hbd, k, hk⟩ := hsource b hb
  obtain rfl := h.eq_of_key he hd hae hbd hab
  rw [hl, hk]
  exact sameNames_filled _ _ _

namespace Batch

variable {b b' : Batch} {t t' : Totals} {now : Float}

theorem Grouped.sameNames (hb : b.Grouped) (hfill : b.options.fillMissingLabels = true) :
    ∀ r ∈ b.readings, ∀ s ∈ b.readings, r.SameGroup s → r.labels.SameNames s.labels := by
  have hscalars := hb.scalars.sameNames (fun r => r.labels)
    (fun rs => labelNames (rs.map fun r => r.toHeading)) fillScalars fun rs r hr => by
      obtain ⟨r', hr', rfl⟩ := List.mem_map.mp hr
      exact ⟨r', hr', rfl, rfl⟩
  have hhistograms := hb.histograms.sameNames (fun r => r.labels)
    (fun rs => labelNames (rs.map fun r => r.toHeading)) fillHistograms fun rs r hr => by
      obtain ⟨r', hr', rfl⟩ := List.mem_map.mp hr
      exact ⟨r', hr', rfl, rfl⟩
  have hreadings : b.readings = (b.scalars.map fun f => fillScalars f.2).flatten.map .scalar ++
      (b.histograms.map fun f => fillHistograms f.2).flatten.map .histogram := by
    simp only [readings, scalarFamilies, histogramFamilies, hfill, if_true]
  intro r hr s hs hgroup
  rw [hreadings, List.mem_append, List.mem_map, List.mem_map] at hr hs
  rcases hr with ⟨r, hr, rfl⟩ | ⟨r, hr, rfl⟩ <;> rcases hs with ⟨s, hs, rfl⟩ | ⟨s, hs, rfl⟩
  · exact hscalars r hr s hs hgroup
  · exact hgroup.elim
  · exact hgroup.elim
  · exact hhistograms r hr s hs hgroup

/-- **A batch that fills labels hands out one set of label names for each form and name.** -/
theorem Grouped.sameNames_of_complete (hb : b.Grouped)
    (hfill : b.options.fillMissingLabels = true) {rs : List Reading}
    (h : b.complete t now = .ok (rs, b', t')) :
    ∀ r ∈ rs, ∀ s ∈ rs, r.SameGroup s → r.labels.SameNames s.labels := by
  obtain ⟨⟨c, u⟩, hc, h⟩ := Except.bind_eq_ok_iff.mp h
  cases h
  obtain ⟨hgrouped, hoptions⟩ := hb.withTotals hc
  exact hgrouped.sameNames (hoptions ▸ hfill)

end Batch

end MetricRelay.Intake
