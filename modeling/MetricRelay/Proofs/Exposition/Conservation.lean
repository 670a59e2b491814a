/-
Sinks only grow.

A reading whose family can be is put behind the samples of its family, or makes a new last family,
or is dropped by a family of another type (`Adds`).  So no family is lost, moved or changed in its
name, type and help text, and no sample is lost or moved (`Keeps`).

* `exists_adds` — adding a reading is one of the three;
* `Adds.isSound`, `Adds.keeps`, `Adds.size_eq` — what one reading preserves, and how many samples it
  adds;
* `addAll_conserves` — readings one after the other.
-/
import MetricRelay.Proofs.Exposition.Unambiguous

namespace MetricRelay

open Exposition

/-! ### Names and samples -/

namespace Exposition

theorem withoutTotal_append (stem : String) : withoutTotal (stem ++ "_total") = stem := by
  have hsuffix : "_total".toList.isSuffixOf (stem ++ "_total").toList = true :=
    List.isSuffixOf_iff_suffix.mpr ⟨stem.toList, String.toList_append.symm⟩
  have hsix : "_total".toList.length = 6 := rfl
  rw [withoutTotal, if_pos hsuffix, String.toList_append, List.length_append, hsix,
    Nat.add_sub_cancel, List.take_left, String.ofList_toList]

theorem withoutTotal_of_not_exists {name : String} (h : ¬∃ stem, name = stem ++ "_total") :
    withoutTotal name = name := by
  refine if_neg fun hsuffix => h ?_
  obtain ⟨stem, hstem⟩ := List.isSuffixOf_iff_suffix.mp hsuffix
  refine ⟨String.ofList stem, String.toList_inj.mp ?_⟩
  rw [String.toList_append, String.toList_ofList, hstem]

end Exposition

namespace Intake.Reading

/-- The name of a reading's family: that of the reading, where a counter loses one trailing
`_total`. -/
def IsUnder (r : Reading) (key : String) : Prop :=
  (r.word = "counter" ∧ r.name = key ++ "_total") ∨
    (r.name = key ∧ ¬(r.word = "counter" ∧ ∃ stem, r.name = stem ++ "_total"))

/-- The samples of a reading, in order. -/
def ownSamples (r : Reading) : List Sample :=
  match r with
  | .scalar s =>
    [⟨if s.kind.word = "counter" then r.family ++ "_total" else r.family, s.labels, .real s.value,
      some s.time.seconds⟩]
  | .histogram s =>
    s.buckets.map (fun b => ⟨r.family ++ "_bucket", s.bucketLabels b.1, .count b.2,
      some s.time.seconds⟩)
      ++ [⟨r.family ++ "_count", s.labels, .count s.count, some s.time.seconds⟩,
        ⟨r.family ++ "_sum", s.labels, .real s.sum, some s.time.seconds⟩]

/-- A family of the reading's name and kind can be. -/
structure IsAcceptable (r : Reading) : Prop where
  name : r.nameFault? = none
  known : r.IsKnown

theorem isUnder_family (r : Reading) : r.IsUnder r.family := by
  have hfamily : r.family = if r.word = "counter" then withoutTotal r.name else r.name := rfl
  rw [hfamily]
  by_cases hword : r.word = "counter"
  · rw [if_pos hword]
    by_cases hstem : ∃ stem, r.name = stem ++ "_total"
    · obtain ⟨stem, hstem⟩ := hstem
      left
      refine ⟨hword, ?_⟩
      rw [hstem, withoutTotal_append]
    · right
      exact ⟨(withoutTotal_of_not_exists hstem).symm, fun h => hstem h.2⟩
  · right
    rw [if_neg hword]
    exact ⟨rfl, fun h => hword h.1⟩

theorem samples_eq (r : Reading) : r.samples = r.ownSamples := by
  cases r with
  | scalar r =>
    simp only [samples, samplesIn, Sink.scalarSamples, ownSamples,
      FamilyType.getD_ofWord?_eq_counter_iff, word]
  | histogram r => rfl

theorem ownSamples_ne_nil (r : Reading) : r.ownSamples ≠ [] := by
  cases r with
  | scalar r => exact List.cons_ne_nil _ _
  | histogram r => exact List.append_ne_nil_of_right_ne_nil _ (List.cons_ne_nil _ _)

end Intake.Reading

namespace Exposition

open Intake

/-! ### Steps -/

/-- A family that has grown at its end, or not at all. -/
structure Family.Keeps (f f' : Family) : Prop where
  name : f'.name = f.name
  type : f'.type = f.type
  help : f'.help = f.help
  samples : f.samples <+: f'.samples

theorem Family.Keeps.refl (f : Family) : f.Keeps f :=
  ⟨rfl, rfl, rfl, List.prefix_refl _⟩

theorem Family.Keeps.trans {f g h : Family} (hfg : f.Keeps g) (hgh : g.Keeps h) : f.Keeps h :=
  ⟨hgh.name.trans hfg.name, hgh.type.trans hfg.type, hgh.help.trans hfg.help,
    hfg.samples.trans hgh.samples⟩

namespace Sink

/-- What adding a reading does to a sink, and whether the sink takes the reading. -/
inductive Adds (r : Reading) : Sink → Bool → Sink → Prop where
  | appended (before after : Sink) (f : Family) (first : r.family ∉ Assoc.keys before)
      (other : r.family ∉ Assoc.keys after) (type : f.type.word = r.word) :
      Adds r (before ++ (r.family, f) :: after) true
        (before ++ (r.family, { f with samples := f.samples ++ r.ownSamples }) :: after)
  | created (sink : Sink) (type : FamilyType) (new : r.family ∉ Assoc.keys sink)
      (known : FamilyType.ofWord? r.word = some type) :
      Adds r sink true (sink ++ [(r.family, ⟨r.family, r.help, type, r.ownSamples⟩)])
  | dropped (sink : Sink) (f : Family) (there : (r.family, f) ∈ sink)
      (type : f.type.word ≠ r.word) :
      Adds r sink false sink

/-- What adding readings one after the other does to a sink, and those that the sink takes. -/
inductive AddsAll : List Reading → Sink → List Reading → Sink → Prop where
  | nil (sink : Sink) : AddsAll [] sink [] sink
  | taken {r : Reading} {rs ts : List Reading} {sink sink' sink'' : Sink}
      (head : Adds r sink true sink') (tail : AddsAll rs sink' ts sink'') :
      AddsAll (r :: rs) sink (r :: ts) sink''
  | dropped {r : Reading} {rs ts : List Reading} {sink sink' sink'' : Sink}
      (head : Adds r sink false sink') (tail : AddsAll rs sink' ts sink'') :
      AddsAll (r :: rs) sink ts sink''

/-- Every name has one family, which is called so and is not empty. -/
structure IsSound (sink : Sink) : Prop where
  nodup : (Assoc.keys sink).Nodup
  named : ∀ e ∈ sink, e.2.name = e.1
  filled : ∀ e ∈ sink, e.2.samples ≠ []

/-- Every family of a sink is still in its place. -/
def Keeps (sink sink' : Sink) : Prop :=
  ∀ (i : Nat) (e : String × Family), sink[i]? = some e →
    ∃ f, sink'[i]? = some (e.1, f) ∧ e.2.Keeps f

variable {r : Reading} {sink sink' : Sink} {taken : Bool}

theorem Keeps.refl (sink : Sink) : sink.Keeps sink :=
  fun _ e he => ⟨e.2, he, .refl e.2⟩

theorem Keeps.trans {sink'' : Sink} (h : sink.Keeps sink') (h' : sink'.Keeps sink'') :
    sink.Keeps sink'' := by
  intro i e he
  obtain ⟨f, hf, hef⟩ := h i e he
  obtain ⟨g, hg, hfg⟩ := h' i _ hf
  exact ⟨g, hg, hef.trans hfg⟩

/-! ### One reading -/

theorem keys_split (before after : Sink) (key : String) (f : Family) :
    Assoc.keys (before ++ (key, f) :: after) = Assoc.keys before ++ key :: Assoc.keys after :=
  List.map_append

/-- Adding a reading whose family can be succeeds, in one of the three ways. -/
theorem exists_adds (hs : sink.IsSound) (hr : r.IsAcceptable) :
    ∃ taken sink', sink.add r = .ok sink' ∧ Adds r sink taken sink' := by
  have hkey : familyName r.name r.word = r.family := rfl
  rw [add_eq, addTo, hkey]
  cases hget : Assoc.get? sink r.family with
  | some f =>
    have hmem := Assoc.mem_of_get? hget
    dsimp only
    split
    · next hword =>
      -- the family is the only one of its name, and it is of the reading's type
      have htype : FamilyType.ofWord? r.word = some f.type := hword ▸ FamilyType.ofWord?_word f.type
      obtain ⟨before, after, rfl, hfirst⟩ := Assoc.exists_split hget
      have hnodup := hs.nodup
      rw [keys_split] at hnodup
      have hother := (List.nodup_cons.mp (List.nodup_append.mp hnodup).2.1).1
      rw [Assoc.put_split hfirst, Reading.samplesIn_eq (hs.named _ hmem) htype, Reading.samples_eq]
      exact ⟨true, _, rfl, .appended before after f hfirst hother hword⟩
    · next hword => exact ⟨false, sink, rfl, .dropped sink f hmem hword⟩
  | none =>
    dsimp only
    cases hnew : newFamily r.family r.help r.word with
    | error fault => cases hr.name.symm.trans ((newFamily_eq_error_iff r.help hr.known).mp hnew)
    | ok f =>
      have hnot := Assoc.get?_eq_none_iff.mp hget
      obtain ⟨hname, hhelp, htype, -⟩ := newFamily_eq_ok hnew
      have hadds := Adds.created sink f.type hnot htype
      refine ⟨true, _, ?_, hadds⟩
      refine Except.bind_eq_ok_iff.mpr ⟨f, rfl, ?_⟩
      rw [Reading.samplesIn_eq hname htype, Reading.samples_eq, Assoc.put_of_not_mem hnot,
        hname, hhelp]

theorem Adds.isSound (h : Adds r sink taken sink') (hs : sink.IsSound) : sink'.IsSound := by
  cases h with
  | appended before after f _ _ _ =>
    obtain ⟨hnodup, hnamed, hfilled⟩ := hs
    rw [List.forall_mem_append, List.forall_mem_cons] at hnamed hfilled
    refine ⟨?_, ?_, ?_⟩
    · rw [keys_split] at hnodup ⊢
      exact hnodup
    · exact List.forall_mem_append.mpr ⟨hnamed.1, List.forall_mem_cons.mpr hnamed.2⟩
    · have hlonger := List.append_ne_nil_of_left_ne_nil hfilled.2.1 r.ownSamples
      exact List.forall_mem_append.mpr ⟨hfilled.1, List.forall_mem_cons.mpr ⟨hlonger, hfilled.2.2⟩⟩
  | created _ type hnew _ =>
    -- a new family has the samples of its reading, which are some
    refine ⟨?_, ?_, ?_⟩
    · rw [← Assoc.put_of_not_mem hnew]
      exact Assoc.nodup_keys_put hs.nodup _ _
    · exact List.forall_mem_append.mpr ⟨hs.named, List.forall_mem_singleton.mpr rfl⟩
    · exact List.forall_mem_append.mpr ⟨hs.filled,
        List.forall_mem_singleton.mpr r.ownSamples_ne_nil⟩
  | dropped => exact hs

/-- The other families stay as they are. -/
theorem keeps_split (before after : Sink) {key : String} {f f' : Family} (h : f.Keeps f') :
    Keeps (before ++ (key, f) :: after) (before ++ (key, f') :: after) := by
  -- a place is in front of the family, its own or behind it
  intro i e he
  rcases Nat.lt_trichotomy i before.length with hlt | rfl | hgt
  · rw [List.getElem?_append_left hlt] at he ⊢
    exact ⟨e.2, he, .refl e.2⟩
  · rw [List.getElem?_append_right (Nat.le_refl _), Nat.sub_self] at he ⊢
    obtain rfl := Option.some.inj he
    exact ⟨f', rfl, h⟩
  · obtain ⟨k, hk⟩ : ∃ k, i - before.length = k + 1 := ⟨i - before.length - 1, by omega⟩
    rw [List.getElem?_append_right (by omega), hk, List.getElem?_cons_succ] at he ⊢
    exact ⟨e.2, he, .refl e.2⟩

theorem Adds.keeps (h : Adds r sink taken sink') : sink.Keeps sink' := by
  cases h with
  | appended before after f _ _ _ =>
    exact keeps_split before after ⟨rfl, rfl, rfl, List.prefix_append _ _⟩
  | created =>
    intro i e he
    have hlt := (List.getElem?_eq_some_iff.mp he).1
    rw [List.getElem?_append_left hlt]
    exact ⟨e.2, he, .refl e.2⟩
  | dropped => exact .refl sink

theorem size_cons (e : String × Family) (sink : Sink) :
    size (e :: sink) = e.2.samples.length + sink.size := rfl

theorem size_append (before after : Sink) : size (before ++ after) = before.size + after.size := by
  induction before with
  | nil => exact (Nat.zero_add _).symm
  | cons e before ih => rw [List.cons_append, size_cons, size_cons, ih, Nat.add_assoc]

theorem Adds.size_eq (h : Adds r sink taken sink') :
    sink'.size = sink.size + if taken then r.ownSamples.length else 0 := by
  cases h with
  | appended before after f _ _ _ =>
    rw [size_append, size_append, size_cons, size_cons, List.length_append, if_pos rfl]
    dsimp only
    omega
  | created _ type _ _ =>
    rw [size_append, size_cons, if_pos rfl]
    rfl
  | dropped => rfl

/-! ### Readings one after the other -/

/-- What readings one after the other preserve, and how many samples they add. -/
theorem AddsAll.conserves {rs ts : List Reading} (h : AddsAll rs sink ts sink')
    (hs : sink.IsSound) :
    sink'.IsSound ∧ sink.Keeps sink' ∧
      sink'.size = sink.size + (ts.flatMap Reading.ownSamples).length := by
  induction h with
  | nil sink => exact ⟨hs, .refl sink, rfl⟩
  | taken hhead _ ih =>
    obtain ⟨hsound, hkeeps, hsize⟩ := ih (hhead.isSound hs)
    refine ⟨hsound, hhead.keeps.trans hkeeps, ?_⟩
    rw [hsize, hhead.size_eq, if_pos rfl, List.flatMap_cons, List.length_append, Nat.add_assoc]
  | dropped hhead _ ih =>
    obtain ⟨hsound, hkeeps, hsize⟩ := ih (hhead.isSound hs)
    refine ⟨hsound, hhead.keeps.trans hkeeps, ?_⟩
    rw [hsize, hhead.size_eq, if_neg Bool.false_ne_true, Nat.add_zero]

theorem exists_addsAll (hs : sink.IsSound) {rs : List Reading} (hrs : ∀ r ∈ rs, r.IsAcceptable) :
    ∃ ts sink', sink.addAll rs = (sink', none) ∧ AddsAll rs sink ts sink' := by
  induction rs generalizing sink with
  | nil => exact ⟨[], sink, rfl, .nil sink⟩
  | cons r rs ih =>
    obtain ⟨hr, hrs⟩ := List.forall_mem_cons.mp hrs
    obtain ⟨taken, sink', hadd, hadds⟩ := exists_adds hs hr
    obtain ⟨ts, sink'', haddAll, haddsAll⟩ := ih (hadds.isSound hs) hrs
    have haddAll' : sink.addAll (r :: rs) = (sink'', none) := by
      rw [addAll, hadd]
      exact haddAll
    cases taken with
    | true => exact ⟨r :: ts, sink'', haddAll', .taken hadds haddsAll⟩
    | false => exact ⟨ts, sink'', haddAll', .dropped hadds haddsAll⟩

theorem isSound_nil : IsSound [] :=
  ⟨List.nodup_nil, fun _ h => absurd h List.not_mem_nil, fun _ h => absurd h List.not_mem_nil⟩

/-- **Conservation.**  Readings whose families can be are added without a fault, each to the family
of its name or not at all.  What a sink holds after some of them is still in its place after further
ones, no family is empty, and there are as many samples as the readings that were taken have. -/
theorem addAll_conserves {rs rs' : List Reading} (h : ∀ r ∈ rs ++ rs', r.IsAcceptable) :
    (∀ r ∈ rs ++ rs', r.IsUnder r.family) ∧
    ∃ ts sink ts' sink', addAll [] rs = (sink, none) ∧ sink.addAll rs' = (sink', none) ∧
      AddsAll rs [] ts sink ∧ AddsAll rs' sink ts' sink' ∧ sink.IsSound ∧ sink.Keeps sink' ∧
      sink.size = (ts.flatMap Reading.ownSamples).length := by
  obtain ⟨hrs, hrs'⟩ := List.forall_mem_append.mp h
  obtain ⟨ts, sink, hadd, hadds⟩ := exists_addsAll isSound_nil hrs
  obtain ⟨hsound, -, hsize⟩ := hadds.conserves isSound_nil
  obtain ⟨ts', sink', hadd', hadds'⟩ := exists_addsAll hsound hrs'
  obtain ⟨-, hkeeps, -⟩ := hadds'.conserves hsound
  refine ⟨fun r _ => r.isUnder_family, ts, sink, ts', sink', hadd, hadd', hadds, hadds', hsound,
    hkeeps, ?_⟩
  rw [hsize]
  exact Nat.zero_add _

/-- A counter, a histogram and again the counter under its other name. -/
theorem addAll_conserves_jobs :
    (∀ r ∈ [counterNamed "jobs_total", histogramNamed "waits"] ++ [counterNamed "jobs"],
        r.IsAcceptable) ∧
      ∃ ts sink,
        addAll [] [counterNamed "jobs_total", histogramNamed "waits"] = (sink, none) ∧
        AddsAll [counterNamed "jobs_total", histogramNamed "waits"] [] ts sink ∧
        sink.size = (ts.flatMap Reading.ownSamples).length := by
  have h : ∀ r ∈ [counterNamed "jobs_total", histogramNamed "waits"] ++ [counterNamed "jobs"],
      r.IsAcceptable := by
    refine List.forall_mem_append.mpr ⟨List.forall_mem_cons.mpr ⟨⟨?_, rfl⟩,
      List.forall_mem_singleton.mpr ⟨?_, rfl⟩⟩, List.forall_mem_singleton.mpr ⟨?_, rfl⟩⟩
    · decide
    · decide
    · decide
  obtain ⟨-, ts, sink, _, _, hadd, -, hadds, -, -, -, hsize⟩ := addAll_conserves h
  exact ⟨h, ts, sink, hadd, hadds, hsize⟩

end Sink

end Exposition

end MetricRelay
