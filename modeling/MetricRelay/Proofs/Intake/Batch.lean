/-
Batches take in series one by one.

Whether a series raises a fault depends on nothing but the series (`raised?`), and one that does
leaves no trace.  So a page has the effect of those of its series that come before the first fault
(`unfailing`), and pages have the effect of one page with all of their series:

* `addSeries_eq_error_iff` — when a series raises a fault;
* `addPage_append` — taking in pages one after the other;
* `addPage_snd`, `addPage_unfailing` — the fault and the effect of a page;
* `Yields` — what series give once the batch is completed.
-/
import Mathlib.Data.List.TakeWhile
import MetricRelay.Intake.Batch
import MetricRelay.Proofs.Delta.Store
import MetricRelay.Proofs.Except

namespace MetricRelay.Intake

open Monitoring

/-- The fault that a series raises when it is the first one to be taken in, if it raises any. -/
def raised? (options : Options) (d : Descriptor) (s : Series) : Option Fault :=
  match (Batch.start options d).addSeries ⟨.empty 0, .empty 0⟩ 0 s with
  | .error fault => some fault
  | .ok _ => none

/-- The series that come before the first one that raises a fault. -/
def unfailing (options : Options) (d : Descriptor) (ss : List Series) : List Series :=
  ss.takeWhile fun s => (raised? options d s).isNone

namespace Batch

/-- Two batches are for the same readings. -/
structure Fits (b b' : Batch) : Prop where
  descriptor : b'.descriptor = b.descriptor
  options : b'.options = b.options

variable {b b' : Batch} {totals totals' : Totals} {now now' : Float}

theorem Fits.refl (b : Batch) : Fits b b := ⟨rfl, rfl⟩

theorem Fits.trans {c : Batch} (h : Fits b b') (h' : Fits b' c) : Fits b c :=
  ⟨h'.descriptor.trans h.descriptor, h'.options.trans h.options⟩

theorem place_fits {r : Reading × Route} (h : b.place totals now r = .ok (b', totals')) :
    Fits b b' := by
  obtain ⟨r | r, _ | _⟩ := r <;> simp only [place, Except.bind_eq_ok_iff] at h
  · obtain ⟨rfl, -⟩ := Prod.mk.inj (Except.ok.inj h)
    exact ⟨rfl, rfl⟩
  · obtain ⟨_, -, _, -, h⟩ := h
    obtain ⟨rfl, -⟩ := Prod.mk.inj (Except.ok.inj h)
    exact Fits.refl _
  · obtain ⟨rfl, -⟩ := Prod.mk.inj (Except.ok.inj h)
    exact ⟨rfl, rfl⟩
  · obtain ⟨_, -, _, -, h⟩ := h
    obtain ⟨rfl, -⟩ := Prod.mk.inj (Except.ok.inj h)
    exact Fits.refl _

theorem place_eq_error_iff (hb : Fits b b') {r : Reading × Route} {fault : Fault} :
    b'.place totals' now' r = .error fault ↔ b.place totals now r = .error fault := by
  obtain ⟨r | r, _ | _⟩ := r <;> simp [place, Except.bind_eq_error_iff, hb.descriptor]

theorem addSeries_fits {s : Series} (h : b.addSeries totals now s = .ok (b', totals')) :
    Fits b b' := by
  obtain ⟨r?, -, h⟩ := Except.bind_eq_ok_iff.mp h
  cases r? with
  | none =>
    obtain ⟨rfl, -⟩ := Prod.mk.inj (Except.ok.inj h)
    exact Fits.refl _
  | some r => exact place_fits h

/-- A series raises the same fault in all batches for the same readings. -/
theorem addSeries_eq_error_iff_of_fits (hb : Fits b b') {s : Series} {fault : Fault} :
    b'.addSeries totals' now' s = .error fault ↔ b.addSeries totals now s = .error fault := by
  rw [addSeries, addSeries, Except.bind_eq_error_iff, Except.bind_eq_error_iff, hb.options,
    hb.descriptor]
  refine or_congr_right (exists_congr fun r? => and_congr_right fun _ => ?_)
  cases r? with
  | none => simp
  | some r => exact place_eq_error_iff hb

theorem addSeries_eq_error_iff {s : Series} {fault : Fault} :
    b.addSeries totals now s = .error fault ↔ raised? b.options b.descriptor s = some fault := by
  have hstart : Fits (start b.options b.descriptor) b := ⟨rfl, rfl⟩
  rw [addSeries_eq_error_iff_of_fits hstart, raised?]
  split
  · next f h => rw [h, Except.error.injEq, Option.some_inj]
  · next r h => rw [h]; simp

theorem raised?_eq_none {s : Series} (h : b.addSeries totals now s = .ok (b', totals')) :
    raised? b.options b.descriptor s = none := by
  cases hs : raised? b.options b.descriptor s with
  | none => rfl
  | some fault =>
    rw [addSeries_eq_error_iff.mpr hs] at h
    cases h

/-! ### Pages -/

theorem addPage_cons_of_error {s : Series} {fault : Fault}
    (h : b.addSeries totals now s = .error fault) (ss : List Series) :
    b.addPage totals now (s :: ss) = ((b, totals), some fault) := by
  rw [addPage, h]

theorem addPage_cons_of_ok {s : Series} (h : b.addSeries totals now s = .ok (b', totals'))
    (ss : List Series) : b.addPage totals now (s :: ss) = b'.addPage totals' now ss := by
  rw [addPage, h]

theorem addPage_fits (b : Batch) (totals : Totals) (now : Float) (ss : List Series) :
    Fits b (b.addPage totals now ss).1.1 := by
  induction ss generalizing b totals with
  | nil => exact Fits.refl b
  | cons s ss ih =>
    cases h : b.addSeries totals now s with
    | error fault =>
      rw [addPage_cons_of_error h]
      exact Fits.refl b
    | ok r =>
      rw [addPage_cons_of_ok h]
      exact (addSeries_fits h).trans (ih r.1 r.2)

/-- The fault of a page is the first one that a series raises. -/
theorem addPage_snd (b : Batch) (totals : Totals) (now : Float) (ss : List Series) :
    (b.addPage totals now ss).2 = ss.findSome? (raised? b.options b.descriptor) := by
  induction ss generalizing b totals with
  | nil => rfl
  | cons s ss ih =>
    rw [List.findSome?_cons]
    cases h : b.addSeries totals now s with
    | error fault => rw [addPage_cons_of_error h, addSeries_eq_error_iff.mp h]
    | ok r =>
      have hfits := addSeries_fits h
      rw [addPage_cons_of_ok h, raised?_eq_none h, ih, hfits.options, hfits.descriptor]

/-- A page has the effect of its series before the first fault, which raise none. -/
theorem addPage_unfailing (b : Batch) (totals : Totals) (now : Float) (ss : List Series) :
    b.addPage totals now (unfailing b.options b.descriptor ss)
      = ((b.addPage totals now ss).1, none) := by
  induction ss generalizing b totals with
  | nil => rfl
  | cons s ss ih =>
    rw [unfailing, List.takeWhile_cons]
    -- a series that raises a fault ends both sides, one that does not is taken in on both
    cases h : b.addSeries totals now s with
    | error fault =>
      rw [addPage_cons_of_error h, addSeries_eq_error_iff.mp h]
      rfl
    | ok r =>
      have hfits := addSeries_fits h
      have hih := ih r.1 r.2
      rw [hfits.options, hfits.descriptor] at hih
      rw [raised?_eq_none h, Option.isNone_none, if_pos rfl, addPage_cons_of_ok h,
        addPage_cons_of_ok h]
      exact hih

/-- Pages have the effect of one page with all of their series. -/
theorem addPage_append (b : Batch) (totals : Totals) (now : Float) (ss ts : List Series) :
    b.addPage totals now (ss ++ ts) =
      match b.addPage totals now ss with
      | ((b', totals'), none) => b'.addPage totals' now ts
      | r => r := by
  induction ss generalizing b totals with
  | nil => rfl
  | cons s ss ih =>
    rw [List.cons_append]
    cases h : b.addSeries totals now s with
    | error fault => rw [addPage_cons_of_error h, addPage_cons_of_error h]
    | ok r => rw [addPage_cons_of_ok h, addPage_cons_of_ok h, ih]

/-- A batch whose type can be a name can be completed. -/
theorem exists_complete_eq_ok {type : Json.Key} (h : b.descriptor.type.asKey = .ok type)
    (totals : Totals) (now : Float) :
    ∃ readings totals', b.complete totals now
      = .ok (readings, start b.options b.descriptor, totals') := by
  rw [complete, withTotals]
  split
  · rw [h]
    exact ⟨_, _, rfl⟩
  · exact ⟨_, _, rfl⟩

end Batch

/-! ### What series yield -/

variable {options : Options} {d : Descriptor}

theorem unfailing_eq_self {ss : List Series} (h : ∀ s ∈ ss, raised? options d s = none) :
    unfailing options d ss = ss := by
  rw [unfailing, List.takeWhile_eq_self_iff]
  intro s hs
  rw [h s hs]
  rfl

theorem unfailing_append_cons {before after : List Series} {s : Series}
    (hbefore : ∀ x ∈ before, raised? options d x = none) (hs : raised? options d s ≠ none) :
    unfailing options d (before ++ s :: after) = before := by
  rw [unfailing, List.takeWhile_append_of_pos, List.takeWhile_cons_of_neg, List.append_nil]
  · rwa [Option.isNone_iff_eq_none]
  · intro x hx
    rw [hbefore x hx]
    rfl

/-- Series taken in without a fault and then completed once give these readings and leave these
totals. -/
def Yields (options : Options) (d : Descriptor) (totals : Totals) (now : Float) (ss : List Series)
    (readings : List Reading) (totals' : Totals) : Prop :=
  ∃ b t, (Batch.start options d).addPage totals now ss = ((b, t), none) ∧
    b.complete t now = .ok (readings, .start options d, totals')

theorem Yields.unique {totals t₁ t₂ : Totals} {now : Float} {ss : List Series}
    {rs₁ rs₂ : List Reading} (h₁ : Yields options d totals now ss rs₁ t₁)
    (h₂ : Yields options d totals now ss rs₂ t₂) : rs₁ = rs₂ ∧ t₁ = t₂ := by
  obtain ⟨b₁, c₁, hadd₁, hcomplete₁⟩ := h₁
  obtain ⟨b₂, c₂, hadd₂, hcomplete₂⟩ := h₂
  obtain ⟨rfl, rfl⟩ : b₁ = b₂ ∧ c₁ = c₂ := by
    simpa using hadd₁.symm.trans hadd₂
  simpa using hcomplete₁.symm.trans hcomplete₂

end MetricRelay.Intake
