/-
The samples of a reading by their parts.

A reading becomes one sample or several ones.  The name of each is the name of the reading's family
with the suffix of a part, and each has the labels of the reading; those of a bucket also say its
bound.

* `Part.eq_of_append_eq` — different suffixes make different names;
* `map_samples` — the samples of a reading are its parts.
-/
import Mathlib.Tactic.ByContra
import MetricRelay.Proofs.Exposition.Exposed

namespace MetricRelay

open Intake

namespace Exposition

theorem append_ne {a b s t : String} (hst : ¬s.toList <:+ t.toList) (hts : ¬t.toList <:+ s.toList) :
    a ++ s ≠ b ++ t := by
  intro h
  have hs : s.toList <:+ (a ++ s).toList := ⟨a.toList, String.toList_append.symm⟩
  have ht : t.toList <:+ (a ++ s).toList := by
    rw [h]
    exact ⟨b.toList, String.toList_append.symm⟩
  exact (List.suffix_or_suffix_of_suffix hs ht).elim hst hts

theorem append_ne_self {a s : String} (hs : s ≠ "") : a ++ s ≠ a := by
  intro h
  exact hs ((String.append_right_inj a).mp (h.trans (String.append_empty (s := a)).symm))

/-- What a sample's name adds to the name of its family. -/
inductive Part where
  | plain
  | total
  | bucket
  | count
  | sum
deriving DecidableEq

/-- The suffix of a part. -/
def Part.suffix : Part → String
  | plain => ""
  | total => "_total"
  | bucket => "_bucket"
  | count => "_count"
  | sum => "_sum"

theorem Part.suffix_inj {p q : Part} : p.suffix = q.suffix ↔ p = q := by
  cases p <;> cases q <;> decide

theorem Part.not_suffix {p q : Part} (hp : p ≠ plain) (hpq : p ≠ q) :
    ¬p.suffix.toList <:+ q.suffix.toList := by
  cases p with
  | plain => exact absurd rfl hp
  | _ => cases q <;> first | exact absurd rfl hpq | decide

/-- Two names with suffixes differ if the suffixes do. -/
theorem Part.eq_of_append_eq {p q : Part} (hp : p ≠ plain) (hq : q ≠ plain) {a b : String}
    (h : a ++ p.suffix = b ++ q.suffix) : p = q := by
  by_contra hpq
  exact append_ne (not_suffix hp hpq) (not_suffix hq (Ne.symm hpq)) h

theorem Part.suffix_ne_empty {p : Part} (hp : p ≠ plain) : p.suffix ≠ "" := by
  cases p with
  | plain => exact absurd rfl hp
  | _ => decide

theorem FamilyType.getD_ofWord?_eq_counter_iff (word : String) :
    (ofWord? word).getD .unknown = .counter ↔ word = "counter" := by
  constructor
  · intro h
    unfold ofWord? at h
    split at h
    · cases h
    · cases hfound : all.find? fun t => t.word == word with
      | none =>
        rw [hfound] at h
        cases h
      | some type =>
        rw [hfound] at h
        obtain rfl : type = .counter := h
        have hword := List.find?_some hfound
        exact (eq_of_beq hword).symm
  · rintro rfl
    rfl

end Exposition

/-- The labels of a bucket. -/
def HistogramReading.bucketLabels (r : HistogramReading) (bound : Float) : Labels :=
  Assoc.put r.labels (LabelName.ofText "le") (.text (Decimal.exposed.render bound))

/-- The parts of a reading that become samples, with their labels. -/
def Intake.Reading.parts : Reading → List (Exposition.Part × Labels)
  | .scalar r => [(if r.kind.word = "counter" then .total else .plain, r.labels)]
  | .histogram r =>
    r.buckets.map (fun b => (.bucket, r.bucketLabels b.1)) ++ [(.count, r.labels), (.sum, r.labels)]

namespace Exposition

theorem map_samples (r : Reading) :
    r.samples.map (fun x => (x.name, x.labels)) =
      r.parts.map fun p => (r.family ++ p.1.suffix, p.2) := by
  cases r with
  | scalar r =>
    simp only [Reading.samples, Reading.samplesIn, Sink.scalarSamples, Reading.parts,
      FamilyType.getD_ofWord?_eq_counter_iff, List.map_cons, List.map_nil, Reading.word]
    split
    · rfl
    · rw [Part.suffix, String.append_empty]
  | histogram r =>
    simp only [Reading.samples, Reading.samplesIn, Sink.histogramSamples, Reading.parts,
      List.map_append, List.map_map, List.map_cons, List.map_nil]
    rfl

theorem exists_sample_iff (r : Reading) (P : String × Labels → Prop) :
    (∃ x ∈ r.samples, P (x.name, x.labels)) ↔ ∃ p ∈ r.parts, P (r.family ++ p.1.suffix, p.2) := by
  have hmap := congrArg (fun l => ∃ y ∈ l, P y) (map_samples r)
  simpa only [List.mem_map, exists_exists_and_eq_and, eq_iff_iff] using hmap

theorem exists_part_of_mem {r : Reading} {x : Sample} (hx : x ∈ r.samples) :
    ∃ p ∈ r.parts, x.name = r.family ++ p.1.suffix ∧ x.labels = p.2 := by
  obtain ⟨p, hp, h⟩ := (exists_sample_iff r fun y => (x.name, x.labels) = y).mp ⟨x, hx, rfl⟩
  exact ⟨p, hp, Prod.mk.inj h⟩

theorem exists_sample_of_mem {r : Reading} {p : Part × Labels} (hp : p ∈ r.parts) :
    ∃ x ∈ r.samples, x.name = r.family ++ p.1.suffix ∧ x.labels = p.2 := by
  obtain ⟨x, hx, h⟩ :=
    (exists_sample_iff r fun y => y = (r.family ++ p.1.suffix, p.2)).mpr ⟨p, hp, rfl⟩
  exact ⟨x, hx, Prod.mk.inj h⟩

section

variable {r s : Scalar} {p q : Part × Labels}

theorem mem_parts_of_counter (hr : r.kind.word = "counter") :
    p ∈ (Reading.scalar r).parts ↔ p = (.total, r.labels) := by
  rw [Reading.parts, if_pos hr, List.mem_singleton]

theorem mem_parts_of_plain (hr : r.kind.word ≠ "counter") :
    p ∈ (Reading.scalar r).parts ↔ p = (.plain, r.labels) := by
  rw [Reading.parts, if_neg hr, List.mem_singleton]

theorem family_of_counter (hr : r.kind.word = "counter") :
    (Reading.scalar r).family = withoutTotal r.name :=
  if_pos hr

theorem family_of_plain (hr : r.kind.word ≠ "counter") : (Reading.scalar r).family = r.name :=
  if_neg hr

end

theorem family_histogram (r : HistogramReading) : (Reading.histogram r).family = r.name := by
  rw [Reading.family, Reading.word, familyName, if_neg (by decide), Reading.name]

theorem mem_parts_histogram {r : HistogramReading} {p : Part × Labels} :
    p ∈ (Reading.histogram r).parts ↔
      (∃ b ∈ r.buckets, p = (.bucket, r.bucketLabels b.1)) ∨ p = (.count, r.labels) ∨
        p = (.sum, r.labels) := by
  simp [Reading.parts, eq_comm]

end Exposition

end MetricRelay
