/-
When an exposition is unambiguous.

The name of a sample is the name of its family with a suffix that depends on the reading, and the
label `le` of a bucket hides one that was there before.  So readings of different names or labels
may end up in samples that cannot be told apart, or in samples of one name in two families.  They do
so in the ways of `Clash` and in no other:

* `collide_iff` — two readings collide exactly if they clash;
* `unambiguous_iff` — an exposition is unambiguous exactly if no two of its readings clash;
* `not_unambiguous_counters` — two counters that clash.
-/
import Mathlib.Data.List.Pairwise
import MetricRelay.Proofs.Exposition.Parts

namespace MetricRelay

open Intake

/-! ### Labels -/

namespace Labels

/-- Labels with the same values. -/
def Same (l m : Labels) : Prop :=
  ∀ name, Assoc.get? l name = Assoc.get? m name

/-- Labels with the same values under all names but one. -/
def SameBut (other : LabelName) (l m : Labels) : Prop :=
  ∀ name, (other == name) = false → Assoc.get? l name = Assoc.get? m name

theorem same_put_iff {l m : Labels} {name : LabelName} {v w : Json} :
    Same (Assoc.put l name v) (Assoc.put m name w) ↔ v = w ∧ SameBut name l m := by
  constructor
  · intro h
    refine ⟨?_, fun other hother => ?_⟩
    · have hname := h name
      rw [Assoc.get?_put_self, Assoc.get?_put_self] at hname
      exact Option.some.inj hname
    · rw [← Assoc.get?_put_of_ne l hother v, h other, Assoc.get?_put_of_ne m hother w]
  · rintro ⟨rfl, h⟩ other
    cases hother : name == other with
    | true =>
      rw [← Assoc.get?_congr _ hother, ← Assoc.get?_congr _ hother, Assoc.get?_put_self,
        Assoc.get?_put_self]
    | false => rw [Assoc.get?_put_of_ne l hother, Assoc.get?_put_of_ne m hother, h other hother]

end Labels

namespace Exposition

/-- Samples of one name and with the same labels. -/
def Sample.Same (x y : Sample) : Prop :=
  x.name = y.name ∧ x.labels.Same y.labels

/-- No sample name is in two families, and no two samples have the same name and labels. -/
def Unambiguous (families : List Family) : Prop :=
  (families.Pairwise fun f g => ∀ x ∈ f.samples, ∀ y ∈ g.samples, x.name ≠ y.name) ∧
    (families.flatMap fun f => f.samples).Pairwise fun x y => ¬x.Same y

/-- Readings whose samples are in two families under one name, or cannot be told apart in one
family. -/
def Collide (r s : Reading) : Prop :=
  ∃ x ∈ r.samples, ∃ y ∈ s.samples, x.name = y.name ∧ (r.family = s.family → x.labels.Same y.labels)

theorem Collide.symm {r s : Reading} (h : Collide r s) : Collide s r := by
  obtain ⟨x, hx, y, hy, hname, hlabels⟩ := h
  exact ⟨y, hy, x, hx, hname.symm, fun hfamily name => (hlabels hfamily.symm name).symm⟩

theorem not_collide_iff_of_eq {r s : Reading} (h : r.family = s.family) :
    ¬Collide r s ↔ ∀ x ∈ r.samples, ∀ y ∈ s.samples, ¬x.Same y := by
  constructor
  · intro hr x hx y hy hsame
    exact hr ⟨x, hx, y, hy, hsame.1, fun _ => hsame.2⟩
  · rintro hr ⟨x, hx, y, hy, hname, hlabels⟩
    exact hr x hx y hy ⟨hname, hlabels h⟩

theorem not_collide_iff_of_ne {r s : Reading} (h : r.family ≠ s.family) :
    ¬Collide r s ↔ ∀ x ∈ r.samples, ∀ y ∈ s.samples, x.name ≠ y.name := by
  constructor
  · intro hr x hx y hy hname
    exact hr ⟨x, hx, y, hy, hname, fun hfamily => absurd hfamily h⟩
  · rintro hr ⟨x, hx, y, hy, hname, -⟩
    exact hr x hx y hy hname

namespace Sink.Exposes

variable {sink : Sink} {rs : List Reading}

theorem apart_iff (h : sink.Exposes rs) :
    (sink.families.Pairwise fun f g => ∀ x ∈ f.samples, ∀ y ∈ g.samples, x.name ≠ y.name) ↔
      ∀ r ∈ rs, ∀ s ∈ rs, r.family ≠ s.family → ¬Collide r s := by
  rw [Sink.families, List.pairwise_map]
  constructor
  · intro hapart r hr s hs hne
    obtain ⟨e, he, her⟩ := h.exists_entry hr
    obtain ⟨e', he', hes⟩ := h.exists_entry hs
    have hsymm : Std.Symm fun e e' : String × Family =>
        ∀ x ∈ e.2.samples, ∀ y ∈ e'.2.samples, x.name ≠ y.name :=
      ⟨fun e e' hee' x hx y hy hxy => hee' y hy x hx hxy.symm⟩
    have hentries : e ≠ e' := by
      rintro rfl
      exact hne (her.symm.trans hes)
    rw [not_collide_iff_of_ne hne]
    intro x hx y hy
    exact hapart.forall he he' hentries x ((h.mem_samples_iff he).mpr ⟨r, hr, her.symm, hx⟩) y
      ((h.mem_samples_iff he').mpr ⟨s, hs, hes.symm, hy⟩)
  · intro hcollide
    have hkeys : sink.Pairwise fun e e' => e.1 ≠ e'.1 := List.pairwise_map.mp h.nodup
    refine hkeys.imp_of_mem fun {e e'} he he' hne x hx y hy => ?_
    obtain ⟨r, hr, her, hx⟩ := (h.mem_samples_iff he).mp hx
    obtain ⟨s, hs, hes, hy⟩ := (h.mem_samples_iff he').mp hy
    have hfamily : r.family ≠ s.family := by rwa [her, hes]
    exact (not_collide_iff_of_ne hfamily).mp (hcollide r hr s hs hfamily) x hx y hy

theorem distinct_iff (h : sink.Exposes rs) {e : String × Family} (he : e ∈ sink) :
    (e.2.samples.Pairwise fun x y => ¬x.Same y) ↔
      (∀ r ∈ rs, r.family = e.1 → r.samples.Pairwise fun x y => ¬x.Same y) ∧
      rs.Pairwise fun r s => r.family = e.1 → s.family = e.1 → ¬Collide r s := by
  rw [(h.isFamilyOf he).samples, List.pairwise_flatMap, List.pairwise_filter]
  simp only [List.mem_filter, decide_eq_true_eq, and_imp]
  refine and_congr_right fun _ => ⟨fun hrs => hrs.imp ?_, fun hrs => hrs.imp ?_⟩
  · intro r s hrs hr hs
    exact (not_collide_iff_of_eq (hr.trans hs.symm)).mpr (hrs hr hs)
  · intro r s hrs hr hs
    exact (not_collide_iff_of_eq (hr.trans hs.symm)).mp (hrs hr hs)

/-- What a sink exposes is unambiguous exactly if no reading and no two readings collide. -/
theorem unambiguous_iff_collide (h : sink.Exposes rs) :
    Unambiguous sink.families ↔
      (∀ r ∈ rs, r.samples.Pairwise fun x y => ¬x.Same y) ∧
      rs.Pairwise fun r s => ¬Collide r s := by
  rw [Unambiguous, List.pairwise_flatMap]
  constructor
  · rintro ⟨hapart, hdistinct, -⟩
    have hfamily : ∀ e ∈ sink, e.2.samples.Pairwise fun x y => ¬x.Same y := fun e he =>
      hdistinct e.2 (List.mem_map_of_mem he)
    refine ⟨fun r hr => ?_, List.pairwise_iff_forall_sublist.mpr fun {r s} hrs => ?_⟩
    · obtain ⟨e, he, her⟩ := h.exists_entry hr
      exact ((h.distinct_iff he).mp (hfamily e he)).1 r hr her.symm
    · have hr : r ∈ rs := hrs.subset (by simp)
      have hs : s ∈ rs := hrs.subset (by simp)
      by_cases hsame : r.family = s.family
      · obtain ⟨e, he, her⟩ := h.exists_entry hr
        have hpair := ((h.distinct_iff he).mp (hfamily e he)).2
        exact List.pairwise_iff_forall_sublist.mp hpair hrs her.symm (hsame.symm.trans her.symm)
      · exact h.apart_iff.mp hapart r hr s hs hsame
  · rintro ⟨hself, hpair⟩
    -- samples of different families have different names, so they are not the same either
    have hsymm : Std.Symm fun r s : Reading => ¬Collide r s := ⟨fun r s hrs hsr => hrs hsr.symm⟩
    have hapart := h.apart_iff.mpr fun r hr s hs hne =>
      hpair.forall hr hs fun hrs => hne (congrArg Reading.family hrs)
    refine ⟨hapart, List.forall_mem_map.mpr fun e he => ?_, hapart.imp ?_⟩
    · exact (h.distinct_iff he).mpr ⟨fun r hr _ => hself r hr, hpair.imp fun hrs _ _ => hrs⟩
    · intro f g hfg x hx y hy hsame
      exact hfg x hx y hy hsame.1

end Sink.Exposes

/-- Two readings collide exactly if they have parts with one sample name, and with the same labels
if their family is the same. -/
theorem collide_iff_parts {r s : Reading} :
    Collide r s ↔ ∃ p ∈ r.parts, ∃ q ∈ s.parts,
      r.family ++ p.1.suffix = s.family ++ q.1.suffix ∧ (r.family = s.family → p.2.Same q.2) := by
  rw [Collide, exists_sample_iff r fun x =>
    ∃ y ∈ s.samples, x.1 = y.name ∧ (r.family = s.family → x.2.Same y.labels)]
  refine exists_congr fun p => and_congr_right fun _ => ?_
  exact exists_sample_iff s fun y => _ = y.1 ∧ (r.family = s.family → p.2.Same y.2)

/-! ### Clashes -/

/-- Readings of one name and with the same labels. -/
def SameMetric (r s : Reading) : Prop :=
  r.name = s.name ∧ r.labels.Same s.labels

/-- The ways in which two readings of different names or labels collide. -/
inductive Clash : Reading → Reading → Prop
  /-- Two counters whose names differ in a trailing `_total` only, with the same labels. -/
  | counters {r s : Scalar} (hr : r.kind.word = "counter") (hs : s.kind.word = "counter")
      (hname : withoutTotal r.name = withoutTotal s.name) (hlabels : r.labels.Same s.labels) :
      Clash (.scalar r) (.scalar s)
  /-- A scalar that is no counter and has the name of a counter's samples. -/
  | total {r s : Scalar} (hr : r.kind.word ≠ "counter") (hs : s.kind.word = "counter")
      (hname : r.name = withoutTotal s.name ++ "_total") : Clash (.scalar r) (.scalar s)
  /-- A scalar that is no counter and has the name of a histogram's buckets. -/
  | bucket {r : Scalar} {s : HistogramReading} (hr : r.kind.word ≠ "counter") (hs : s.buckets ≠ [])
      (hname : r.name = s.name ++ "_bucket") : Clash (.scalar r) (.histogram s)
  /-- A scalar that is no counter and has the name of a histogram's count or sum. -/
  | summary {r : Scalar} {s : HistogramReading} (hr : r.kind.word ≠ "counter")
      (hname : r.name = s.name ++ "_count" ∨ r.name = s.name ++ "_sum") :
      Clash (.scalar r) (.histogram s)
  /-- Two histograms of one name with a bound in common, whose labels agree except for `le`. -/
  | bounds {r s : HistogramReading} {b c : Float × Int} (hname : r.name = s.name)
      (hlabels : Labels.SameBut (LabelName.ofText "le") r.labels s.labels) (hb : b ∈ r.buckets)
      (hc : c ∈ s.buckets) (hbound : Decimal.exposed.render b.1 = Decimal.exposed.render c.1) :
      Clash (.histogram r) (.histogram s)

theorem eq_scalar_of_plain {r : Reading} {p : Part × Labels} (hp : p ∈ r.parts)
    (hpp : p.1 = .plain) :
    ∃ r', r = .scalar r' ∧ r'.kind.word ≠ "counter" ∧ p.2 = r'.labels := by
  cases r with
  | scalar r =>
    by_cases hr : r.kind.word = "counter"
    · rw [(mem_parts_of_counter hr).mp hp] at hpp
      cases hpp
    · exact ⟨r, rfl, hr, congrArg Prod.snd ((mem_parts_of_plain hr).mp hp)⟩
  | histogram r => rcases mem_parts_histogram.mp hp with ⟨b, hb, rfl⟩ | rfl | rfl <;> cases hpp

/-- A scalar that is no counter collides with a reading that has a sample of its name in another
family. -/
theorem collide_of_plain {r : Scalar} (hr : r.kind.word ≠ "counter") {s : Reading}
    {q : Part × Labels} (hq : q ∈ s.parts) (hqp : q.1 ≠ .plain)
    (hname : r.name = s.family ++ q.1.suffix) : Collide (.scalar r) s := by
  refine collide_iff_parts.mpr ⟨_, (mem_parts_of_plain hr).mpr rfl, q, hq, ?_, ?_⟩
  · rw [family_of_plain hr, hname]
    exact String.append_empty
  · rw [family_of_plain hr, hname]
    exact fun h => absurd h (append_ne_self (Part.suffix_ne_empty hqp))

theorem clash_of_plain {r : Scalar} (hr : r.kind.word ≠ "counter") {s : Reading}
    {q : Part × Labels} (hq : q ∈ s.parts) (hqp : q.1 ≠ .plain)
    (hname : r.name = s.family ++ q.1.suffix) : Clash (.scalar r) s := by
  cases s with
  | scalar s =>
    by_cases hs : s.kind.word = "counter"
    · rw [(mem_parts_of_counter hs).mp hq, family_of_counter hs] at hname
      exact .total hr hs hname
    · rw [(mem_parts_of_plain hs).mp hq] at hqp
      exact absurd rfl hqp
  | histogram s =>
    rw [family_histogram] at hname
    rcases mem_parts_histogram.mp hq with ⟨b, hb, rfl⟩ | rfl | rfl
    · exact .bucket hr (List.ne_nil_of_mem hb) hname
    · exact .summary hr (Or.inl hname)
    · exact .summary hr (Or.inr hname)

/-- Readings of one family with the same part clash, unless they have the same name and labels. -/
theorem clash_of_same_part {r s : Reading} {p q : Part × Labels} (hp : p ∈ r.parts)
    (hq : q ∈ s.parts) (hpq : p.1 = q.1) (hpp : p.1 ≠ .plain) (hfamily : r.family = s.family)
    (hlabels : p.2.Same q.2) : SameMetric r s ∨ Clash r s := by
  cases r with
  | scalar r =>
    have hr : r.kind.word = "counter" := by
      by_contra hr
      rw [(mem_parts_of_plain hr).mp hp] at hpp
      exact hpp rfl
    obtain rfl := (mem_parts_of_counter hr).mp hp
    cases s with
    | scalar s =>
      by_cases hs : s.kind.word = "counter"
      · obtain rfl := (mem_parts_of_counter hs).mp hq
        rw [family_of_counter hr, family_of_counter hs] at hfamily
        exact Or.inr (.counters hr hs hfamily hlabels)
      · rw [(mem_parts_of_plain hs).mp hq] at hpq
        cases hpq
    | histogram s => rcases mem_parts_histogram.mp hq with ⟨b, hb, rfl⟩ | rfl | rfl <;> cases hpq
  | histogram r =>
    cases s with
    | scalar s =>
      by_cases hs : s.kind.word = "counter"
      · rw [(mem_parts_of_counter hs).mp hq] at hpq
        rcases mem_parts_histogram.mp hp with ⟨b, hb, rfl⟩ | rfl | rfl <;> cases hpq
      · rw [(mem_parts_of_plain hs).mp hq] at hpq
        exact absurd hpq hpp
    | histogram s =>
      rw [family_histogram, family_histogram] at hfamily
      -- equal parts are two buckets, two counts or two sums
      rcases mem_parts_histogram.mp hp with ⟨b, hb, rfl⟩ | rfl | rfl <;>
        rcases mem_parts_histogram.mp hq with ⟨c, hc, rfl⟩ | rfl | rfl <;>
        first | cases hpq; done | skip
      · obtain ⟨hbound, hbut⟩ := Labels.same_put_iff.mp hlabels
        exact Or.inr (.bounds hfamily hbut hb hc (Json.text.inj hbound))
      · exact Or.inl ⟨hfamily, hlabels⟩
      · exact Or.inl ⟨hfamily, hlabels⟩

theorem Clash.collide {r s : Reading} (h : Clash r s) : Collide r s := by
  cases h with
  | @counters r s hr hs hname hlabels =>
    refine collide_iff_parts.mpr ⟨_, (mem_parts_of_counter hr).mpr rfl, _,
      (mem_parts_of_counter hs).mpr rfl, ?_, fun _ => hlabels⟩
    rw [family_of_counter hr, family_of_counter hs, hname]
  | @total r s hr hs hname =>
    rw [← family_of_counter hs] at hname
    exact collide_of_plain hr ((mem_parts_of_counter hs).mpr rfl) (by simp) hname
  | @bucket r s hr hs hname =>
    obtain ⟨b, hb⟩ := List.exists_mem_of_ne_nil _ hs
    rw [← family_histogram] at hname
    exact collide_of_plain hr (mem_parts_histogram.mpr (Or.inl ⟨b, hb, rfl⟩)) (by simp) hname
  | @summary r s hr hname =>
    rw [← family_histogram] at hname
    rcases hname with hname | hname
    · exact collide_of_plain hr (mem_parts_histogram.mpr (Or.inr (Or.inl rfl))) (by simp) hname
    · exact collide_of_plain hr (mem_parts_histogram.mpr (Or.inr (Or.inr rfl))) (by simp) hname
  | @bounds r s b c hname hlabels hb hc hbound =>
    refine collide_iff_parts.mpr ⟨_, mem_parts_histogram.mpr (Or.inl ⟨b, hb, rfl⟩), _,
      mem_parts_histogram.mpr (Or.inl ⟨c, hc, rfl⟩), ?_, fun _ => ?_⟩
    · rw [family_histogram, family_histogram, hname]
    · exact Labels.same_put_iff.mpr ⟨congrArg Json.text hbound, hlabels⟩

/-- **Two readings of different names or labels collide exactly if they clash.** -/
theorem collide_iff {r s : Reading} (h : ¬SameMetric r s) :
    Collide r s ↔ Clash r s ∨ Clash s r := by
  refine ⟨fun hcollide => ?_, fun hclash => hclash.elim Clash.collide fun h => h.collide.symm⟩
  obtain ⟨p, hp, q, hq, hname, hlabels⟩ := collide_iff_parts.mp hcollide
  have hplain : ∀ {r : Scalar} {s : Reading} {q : Part × Labels}, r.kind.word ≠ "counter" →
      (Reading.scalar r).family ++ Part.plain.suffix = s.family ++ q.1.suffix →
      r.name = s.family ++ q.1.suffix := by
    intro r s q hr h
    rwa [family_of_plain hr, Part.suffix, String.append_empty] at h
  -- either one name has no suffix and is itself a sample name of the other, or the suffixes are
  -- equal
  by_cases hpp : p.1 = .plain
  · obtain ⟨r, rfl, hr, hpl⟩ := eq_scalar_of_plain hp hpp
    rw [hpp] at hname
    by_cases hqp : q.1 = .plain
    · obtain ⟨s, rfl, hs, hql⟩ := eq_scalar_of_plain hq hqp
      rw [hqp, String.append_left_inj] at hname
      have hlabels := hlabels hname
      rw [family_of_plain hr, family_of_plain hs] at hname
      rw [hpl, hql] at hlabels
      exact absurd ⟨hname, hlabels⟩ h
    · exact Or.inl (clash_of_plain hr hq hqp (hplain hr hname))
  · by_cases hqp : q.1 = .plain
    · obtain ⟨s, rfl, hs, -⟩ := eq_scalar_of_plain hq hqp
      rw [hqp] at hname
      exact Or.inr (clash_of_plain hs hp hpp (hplain hs hname.symm))
    · have hpq : p.1 = q.1 := Part.eq_of_append_eq hpp hqp hname
      rw [hpq, String.append_left_inj] at hname
      exact Or.inl ((clash_of_same_part hp hq hpq hpp hname (hlabels hname)).resolve_left h)

/-! ### All readings of a sink -/

theorem pairwise_samples_iff (r : Reading) :
    (r.samples.Pairwise fun x y => ¬x.Same y) ↔
      r.parts.Pairwise fun p q => ¬(p.1.suffix = q.1.suffix ∧ p.2.Same q.2) := by
  have hmap := congrArg (List.Pairwise fun x y => ¬(x.1 = y.1 ∧ x.2.Same y.2)) (map_samples r)
  simpa only [Sample.Same, List.pairwise_map, String.append_right_inj, eq_iff_iff] using hmap

theorem pairwise_samples {r : Reading}
    (h : ∀ r', r = .histogram r' → (r'.buckets.map fun b => Decimal.exposed.render b.1).Nodup) :
    r.samples.Pairwise fun x y => ¬x.Same y := by
  rw [pairwise_samples_iff]
  cases r with
  | scalar r => exact List.pairwise_singleton _ _
  | histogram r =>
    have hbounds : r.buckets.Pairwise fun b c =>
        Decimal.exposed.render b.1 ≠ Decimal.exposed.render c.1 := List.pairwise_map.mp (h r rfl)
    refine List.pairwise_append.mpr ⟨?_, ?_, ?_⟩
    · refine List.pairwise_map.mpr (hbounds.imp fun hbc hsame => hbc ?_)
      exact Json.text.inj (Labels.same_put_iff.mp hsame.2).1
    · exact List.pairwise_pair.mpr fun hsame => absurd hsame.1 (by simp [Part.suffix])
    · intro p hp q hq hsame
      obtain ⟨b, -, rfl⟩ := List.mem_map.mp hp
      rcases List.mem_pair.mp hq with rfl | rfl
      · exact absurd hsame.1 (by simp [Part.suffix])
      · exact absurd hsame.1 (by simp [Part.suffix])

/-- **An exposition is unambiguous exactly if no two of its readings clash.**  Let no two readings
that are added to a new sink have the same name and labels, and let the bounds of each histogram
have distinct texts. -/
theorem unambiguous_iff (rs : List Reading) (hdistinct : rs.Pairwise fun r s => ¬SameMetric r s)
    (hbounds : ∀ r, Reading.histogram r ∈ rs →
      (r.buckets.map fun b => Decimal.exposed.render b.1).Nodup) :
    Unambiguous (Sink.addEach [] rs).families ↔
      (Sink.exposed [] rs).Pairwise fun r s => ¬Clash r s ∧ ¬Clash s r := by
  have hexposed : (Sink.exposed [] rs).Sublist rs := Sink.exposed_sublist [] rs
  have hexposes : (Sink.addEach [] rs).Exposes (Sink.exposed [] rs) := Sink.exposes_nil.addEach rs
  have hself : ∀ r ∈ Sink.exposed [] rs, r.samples.Pairwise fun x y => ¬x.Same y := by
    intro r hr
    refine pairwise_samples fun r' hr' => hbounds r' ?_
    rw [← hr']
    exact hexposed.subset hr
  rw [hexposes.unambiguous_iff_collide, and_iff_right hself]
  have hdistinct := hdistinct.sublist hexposed
  constructor
  · intro hpair
    refine (hdistinct.and hpair).imp fun {r s} hrs => ?_
    rw [← not_or, ← collide_iff hrs.1]
    exact hrs.2
  · intro hpair
    refine (hdistinct.and hpair).imp fun {r s} hrs => ?_
    rw [collide_iff hrs.1, not_or]
    exact hrs.2

/-- A counter without labels. -/
def counterNamed (name : String) : Reading :=
  .scalar { name, help := .null, kind := .counter, labels := [], time := .epoch, value := 1.0 }

/-- A histogram without labels that has one bucket. -/
def histogramNamed (name : String) : Reading :=
  .histogram
    { name, help := .null, kind := .other "histogram", labels := [], time := .epoch, count := 1
      sum := 1.0, buckets := [(1.0, 1)] }

theorem unambiguous_iff_jobs :
    let rs := [counterNamed "jobs_total", histogramNamed "waits"]
    (rs.Pairwise fun r s => ¬SameMetric r s) ∧
      (∀ r, Reading.histogram r ∈ rs →
        (r.buckets.map fun b => Decimal.exposed.render b.1).Nodup) ∧
      Unambiguous (Sink.addEach [] rs).families := by
  intro rs
  have hdistinct : rs.Pairwise fun r s => ¬SameMetric r s :=
    List.pairwise_pair.mpr fun h => absurd h.1 (by decide)
  have hbounds : ∀ r, Reading.histogram r ∈ rs →
      (r.buckets.map fun b => Decimal.exposed.render b.1).Nodup := by
    intro r hr
    rcases List.mem_pair.mp hr with hr | hr
    · cases hr
    · cases hr
      exact List.nodup_singleton _
  refine ⟨hdistinct, hbounds, (unambiguous_iff rs hdistinct hbounds).mpr ?_⟩
  have hexposed : Sink.exposed [] rs = rs := rfl
  rw [hexposed]
  refine List.pairwise_pair.mpr ⟨fun h => ?_, fun h => ?_⟩
  · cases h with
    | bucket hr => exact hr rfl
    | summary hr => exact hr rfl
  · cases h

/-- Two counters whose names differ in the trailing `_total` give two samples that are the same. -/
theorem not_unambiguous_counters :
    let rs := [counterNamed "jobs", counterNamed "jobs_total"]
    (rs.Pairwise fun r s => ¬SameMetric r s) ∧
      (∀ r, Reading.histogram r ∈ rs →
        (r.buckets.map fun b => Decimal.exposed.render b.1).Nodup) ∧
      ¬Unambiguous (Sink.addEach [] rs).families := by
  intro rs
  refine ⟨List.pairwise_pair.mpr fun h => absurd h.1 (by decide), fun r hr => ?_, fun h => ?_⟩
  · rcases List.mem_pair.mp hr with hr | hr <;> cases hr
  · let sample : Sample :=
      { name := "jobs_total", labels := [], value := .real 1.0,
        time := some Time.Instant.epoch.seconds }
    have hsamples : (Sink.addEach [] rs).families.flatMap (fun f => f.samples)
        = [sample, sample] := rfl
    have hpair := h.2
    rw [hsamples] at hpair
    exact List.pairwise_pair.mp hpair ⟨rfl, fun _ => rfl⟩

end Exposition

end MetricRelay
