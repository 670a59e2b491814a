/-
What a sink exposes.

Readings are added one after the other.  A sink takes the first reading of a family, which decides
the family's type, and then those of this type; it drops readings of other types and refuses a
family that cannot be.  What it takes is exposed, and nothing else:

* `Exposes` — each family holds the samples of the readings of its name, in the order in which they
  came;
* `Exposes.after` — one more reading;
* `Exposes.addEach`, `Exposes.addAll` — readings up to the last one, and up to the first fault.
-/
import MetricRelay.Proofs.Exposition.Sink

namespace MetricRelay

open Exposition

namespace Exposition

theorem FamilyType.ofWord?_word (type : FamilyType) : FamilyType.ofWord? type.word = some type := by
  cases type <;> rfl

end Exposition

namespace Intake.Reading

/-- The name of a reading's family. -/
def family (r : Reading) : String :=
  familyName r.name r.word

def labels : Reading → Labels
  | .scalar r => r.labels
  | .histogram r => r.labels

/-- The samples of a reading in a family of its name and type. -/
def samples (r : Reading) : List Sample :=
  r.samplesIn
    { name := r.family, help := r.help, type := (FamilyType.ofWord? r.word).getD .unknown }

theorem samplesIn_eq {r : Reading} {f : Family} (hname : f.name = r.family)
    (htype : FamilyType.ofWord? r.word = some f.type) : r.samplesIn f = r.samples := by
  rw [samples, htype, ← hname]
  cases r <;> rfl

end Intake.Reading

namespace Exposition

open Intake

/-- A family that holds the samples of the readings of its name. -/
structure IsFamilyOf (rs : List Reading) (key : String) (f : Family) : Prop where
  name : f.name = key
  type : ∀ r ∈ rs, r.family = key → FamilyType.ofWord? r.word = some f.type
  samples : f.samples = (rs.filter fun r => r.family = key).flatMap Reading.samples

section

variable {rs : List Reading} {r : Reading} {name : String} {f : Family}

theorem IsFamilyOf.of_other (h : IsFamilyOf rs name f) (hr : r.family ≠ name) :
    IsFamilyOf (rs ++ [r]) name f := by
  refine ⟨h.name, fun s hs hname => ?_, ?_⟩
  · rcases List.mem_append.mp hs with hs | hs
    · exact h.type s hs hname
    · rw [List.mem_singleton.mp hs] at hname
      exact absurd hname hr
  · rw [h.samples, List.filter_append, List.filter_cons_of_neg (by simpa using hr), List.filter_nil,
      List.append_nil]

theorem IsFamilyOf.of_own (h : IsFamilyOf rs r.family f)
    (htype : FamilyType.ofWord? r.word = some f.type) :
    IsFamilyOf (rs ++ [r]) r.family { f with samples := f.samples ++ r.samplesIn f } := by
  refine ⟨h.name, fun s hs hname => ?_, ?_⟩
  · rcases List.mem_append.mp hs with hs | hs
    · exact h.type s hs hname
    · rw [List.mem_singleton.mp hs]
      exact htype
  · rw [h.samples, Reading.samplesIn_eq h.name htype, List.filter_append,
      List.filter_cons_of_pos (by simp), List.filter_nil, List.flatMap_append,
      List.flatMap_singleton]

end

namespace Sink

/-- Whether a sink takes a reading. -/
def takes (sink : Sink) (r : Reading) : Bool :=
  match Assoc.get? sink r.family with
  | some family => family.type.word == r.word
  | none => (newFamily r.family r.help r.word).isOk

/-- The sink to which a reading has been added; one that is refused leaves it as it is. -/
def after (sink : Sink) (r : Reading) : Sink :=
  match sink.add r with
  | .ok sink' => sink'
  | .error _ => sink

/-- Adds readings in order; those that are refused do not keep the others from being added. -/
def addEach (sink : Sink) (rs : List Reading) : Sink :=
  rs.foldl after sink

/-- Those of some readings that a sink takes when they are added in order. -/
def exposed : Sink → List Reading → List Reading
  | _, [] => []
  | sink, r :: rs => (if sink.takes r then [r] else []) ++ (sink.after r).exposed rs

/-- Those of some readings that a sink takes when they are added in order up to the first fault. -/
def exposedAll : Sink → List Reading → List Reading
  | _, [] => []
  | sink, r :: rs =>
    match sink.add r with
    | .error _ => []
    | .ok sink' => (if sink.takes r then [r] else []) ++ sink'.exposedAll rs

/-- The families of a sink are those of the readings that it has taken. -/
structure Exposes (sink : Sink) (rs : List Reading) : Prop where
  nodup : (Assoc.keys sink).Nodup
  families : ∀ name f, Assoc.get? sink name = some f → IsFamilyOf rs name f
  keys : ∀ name, name ∈ Assoc.keys sink ↔ ∃ r ∈ rs, r.family = name

variable {sink sink' : Sink} {rs : List Reading} {r : Reading}

theorem Exposes.isFamilyOf (h : sink.Exposes rs) {e : String × Family} (he : e ∈ sink) :
    IsFamilyOf rs e.1 e.2 :=
  h.families e.1 e.2 ((Assoc.get?_eq_some_iff h.nodup).mpr he)

theorem Exposes.mem_samples_iff (h : sink.Exposes rs) {e : String × Family} (he : e ∈ sink)
    {x : Sample} :
    x ∈ e.2.samples ↔ ∃ r ∈ rs, r.family = e.1 ∧ x ∈ r.samples := by
  rw [(h.isFamilyOf he).samples, List.mem_flatMap]
  simp only [List.mem_filter, decide_eq_true_eq, and_assoc]

theorem Exposes.exists_entry (h : sink.Exposes rs) {r : Reading} (hr : r ∈ rs) :
    ∃ e ∈ sink, e.1 = r.family :=
  List.mem_map.mp ((h.keys r.family).mpr ⟨r, hr, rfl⟩)

theorem exposes_nil : Exposes [] [] :=
  ⟨List.nodup_nil, fun _ _ h => (by cases h), fun _ => (by simp)⟩

theorem after_of_ok (h : sink.add r = .ok sink') : sink.after r = sink' := by
  rw [after, h]

theorem after_of_error {fault : Fault} (h : sink.add r = .error fault) : sink.after r = sink := by
  rw [after, h]

theorem newFamily_eq_ok {name word : String} {help : Json} {f : Family}
    (h : newFamily name help word = .ok f) :
    f.name = name ∧ f.help = help ∧ FamilyType.ofWord? word = some f.type ∧ f.samples = [] := by
  unfold newFamily at h
  split at h
  · cases h
  · split at h
    · cases h
    · cases htype : FamilyType.ofWord? word with
      | none =>
        rw [htype] at h
        cases h
      | some type =>
        rw [htype] at h
        cases h
        exact ⟨rfl, rfl, rfl, rfl⟩

theorem Exposes.put (h : Exposes sink rs) {f : Family} (hf : IsFamilyOf rs r.family f)
    (htype : FamilyType.ofWord? r.word = some f.type) :
    Exposes (Assoc.put sink r.family { f with samples := f.samples ++ r.samplesIn f })
      (rs ++ [r]) := by
  refine ⟨Assoc.nodup_keys_put h.nodup _ _, fun name g hg => ?_, fun name => ?_⟩
  · rw [Assoc.get?_put] at hg
    split at hg
    · next hname =>
      rw [← hname, ← Option.some.inj hg]
      exact hf.of_own htype
    · next hname => exact (h.families name g hg).of_other hname
  · rw [← Assoc.has_iff_mem, Assoc.has, Assoc.get?_put]
    split
    · next hname => simp [hname]
    · next hname =>
      rw [← Assoc.has, Assoc.has_iff_mem, h.keys]
      simp [hname]

/-- **One more reading.**  It is exposed if the sink takes it, and else nothing changes. -/
theorem Exposes.after (h : Exposes sink rs) (r : Reading) :
    Exposes (sink.after r) (rs ++ if sink.takes r then [r] else []) := by
  have hadd := add_eq sink r
  rw [addTo] at hadd
  change sink.add r = match Assoc.get? sink r.family with | some f => _ | none => _ at hadd
  unfold takes
  cases hget : Assoc.get? sink r.family with
  | some f =>
    -- the family keeps its type, and only readings of that type get in
    rw [hget] at hadd
    dsimp only at hadd ⊢
    by_cases hword : f.type.word = r.word
    · have htype : FamilyType.ofWord? r.word = some f.type := hword ▸ FamilyType.ofWord?_word f.type
      rw [if_pos hword] at hadd
      rw [after_of_ok hadd, if_pos (by simpa using hword)]
      exact h.put (h.families _ f hget) htype
    · rw [if_neg hword] at hadd
      rw [after_of_ok hadd, if_neg (by simpa using hword), List.append_nil]
      exact h
  | none =>
    rw [hget] at hadd
    dsimp only at hadd ⊢
    cases hnew : newFamily r.family r.help r.word with
    | error fault =>
      have herror : sink.add r = .error fault := by
        rw [hadd]
        exact Except.bind_eq_error_iff.mpr (Or.inl hnew)
      rw [after_of_error herror, if_neg (by simp [Except.isOk, Except.toBool]), List.append_nil]
      exact h
    | ok f =>
      obtain ⟨hname, -, htype, hsamples⟩ := newFamily_eq_ok hnew
      -- nothing of this name has been exposed before
      have hno : ∀ s ∈ rs, s.family ≠ r.family := fun s hs hsame =>
        Assoc.get?_eq_none_iff.mp hget ((h.keys _).mpr ⟨s, hs, hsame⟩)
      have hf : IsFamilyOf rs r.family f := by
        refine ⟨hname, fun s hs hsame => absurd hsame (hno s hs), ?_⟩
        rw [hsamples, List.filter_eq_nil_iff.mpr (by simpa using hno), List.flatMap_nil]
      have hok : sink.add r =
          .ok (Assoc.put sink r.family { f with samples := f.samples ++ r.samplesIn f }) := by
        rw [hadd, hsamples, List.nil_append]
        exact Except.bind_eq_ok_iff.mpr ⟨f, hnew, rfl⟩
      rw [after_of_ok hok]
      exact h.put hf htype

theorem Exposes.addEach (h : Exposes sink rs) (rs' : List Reading) :
    Exposes (sink.addEach rs') (rs ++ sink.exposed rs') := by
  induction rs' generalizing sink rs with
  | nil => simpa [exposed, Sink.addEach] using h
  | cons r rs' ih =>
    have hrest := ih (h.after r)
    rwa [List.append_assoc] at hrest

theorem Exposes.addAll (h : Exposes sink rs) (rs' : List Reading) :
    Exposes (sink.addAll rs').1 (rs ++ sink.exposedAll rs') := by
  induction rs' generalizing sink rs with
  | nil => simpa [exposedAll, Sink.addAll] using h
  | cons r rs' ih =>
    rw [Sink.addAll, exposedAll]
    cases hadd : sink.add r with
    | error fault => simpa using h
    | ok sink' =>
      have hrest := ih (after_of_ok hadd ▸ h.after r)
      rwa [List.append_assoc] at hrest

theorem exposed_sublist (sink : Sink) (rs : List Reading) : (sink.exposed rs).Sublist rs := by
  induction rs generalizing sink with
  | nil => exact List.Sublist.refl []
  | cons r rs ih =>
    rw [exposed]
    split
    · exact (ih _).cons_cons r
    · exact (ih _).cons r

theorem exposedAll_sublist (sink : Sink) (rs : List Reading) : (sink.exposedAll rs).Sublist rs := by
  induction rs generalizing sink with
  | nil => exact List.Sublist.refl []
  | cons r rs ih =>
    rw [exposedAll]
    split
    · exact List.nil_sublist _
    · split
      · exact (ih _).cons_cons r
      · exact (ih _).cons r

end Sink

end Exposition

end MetricRelay
