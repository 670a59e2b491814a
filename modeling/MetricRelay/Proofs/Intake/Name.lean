/-
The names of families.

A name is said without the order in which it is made: of a path it has a word for each segment
between the slashes (`IsNameFor`), and the full name joins what is not empty of the namespace, the
resource type and the metric type (`IsFamilyName`).

* `splitOn_eq` — a text is cut as lists are;
* `isNameFor_iff`, `isFamilyName_iff` — there is one such name, and it is the one that is made.
-/
import Mathlib.Data.List.Forall2
import MetricRelay.Intake.Batch
import MetricRelay.Proofs.Except

namespace MetricRelay.Intake

open Monitoring

/-- What a code point becomes in a name: letters and numbers stay, and an underscore stands for
everything else. -/
inductive IsLetterFor (n : Nat) : Char → Prop where
  | kept (h : Text.isAlphanumeric n = true) : IsLetterFor n (Char.ofNat n)
  | masked (h : Text.isAlphanumeric n = false) : IsLetterFor n '_'

/-- The word for a segment is in lower case. -/
def IsWordFor (segment word : List Char) : Prop :=
  ∃ cs, List.Forall₂ IsLetterFor (Text.codes segment) cs ∧ word = Text.toLower cs

/-- The name for a path: the words for the segments between its slashes, with underscores between
them. -/
def IsNameFor (path name : List Char) : Prop :=
  ∃ segments words, segments ≠ [] ∧ (∀ segment ∈ segments, '/' ∉ segment) ∧
    path = ['/'].intercalate segments ∧ List.Forall₂ IsWordFor segments words ∧
    name = ['_'].intercalate words

/-- The name of a series' family: the namespace, the name for the resource type and the one for the
metric type, with underscores between those that are not empty. -/
def IsFamilyName (options : Options) (s : Series) (name : String) : Prop :=
  ∃ resource metric resourceName metricName,
    s.resourceType = .text resource ∧ s.metricType = .text metric ∧
    IsNameFor resource.toList resourceName ∧ IsNameFor metric.toList metricName ∧
    name.toList = ['_'].intercalate
      ([options.metricNamespace.toList, resourceName, metricName].filter fun part => part ≠ [])

/-! ### Words -/

/-- Lists that agree place by place with the images of a function are its images. -/
theorem forall₂_iff_map_eq {α β : Type} {R : α → β → Prop} {f : α → β}
    (h : ∀ a b, R a b ↔ f a = b) {as : List α} {bs : List β} :
    List.Forall₂ R as bs ↔ as.map f = bs := by
  have hR : R = fun a b => f a = b := funext fun a => funext fun b => propext (h a b)
  rw [hR, ← List.forall₂_map_left_iff, List.forall₂_eq_eq_eq]

theorem isLetterFor_iff {n : Nat} {c : Char} :
    IsLetterFor n c ↔ (if Text.isAlphanumeric n then Char.ofNat n else '_') = c := by
  constructor
  · rintro (h | h)
    · rw [if_pos h]
    · rw [h, if_neg Bool.false_ne_true]
  · rintro rfl
    cases h : Text.isAlphanumeric n with
    | true => exact .kept h
    | false => exact .masked h

theorem isWordFor_iff {segment word : List Char} :
    IsWordFor segment word ↔ normalizeWord segment = word := by
  have hletters : ∀ cs, List.Forall₂ IsLetterFor (Text.codes segment) cs ↔
      (Text.codes segment).map (fun n => if Text.isAlphanumeric n then Char.ofNat n else '_')
        = cs :=
    fun _ => forall₂_iff_map_eq @isLetterFor_iff
  simp only [IsWordFor, hletters, exists_eq_left', normalizeWord]
  exact eq_comm

/-! ### Paths -/

/-- A text is cut as lists are. -/
theorem splitOn_eq (sep : Char) (cs : List Char) : Text.splitOn sep cs = cs.splitOn sep := by
  induction cs with
  | nil => exact (List.splitOn_nil sep).symm
  | cons c cs ih =>
    rw [List.splitOn_eq_splitOnP, List.splitOnP_cons_eq_if_modifyHead, ← List.splitOn_eq_splitOnP,
      ← ih, Text.splitOn]
    by_cases h : c = sep
    · simp [h]
    · cases hs : Text.splitOn sep cs with
      | nil => exact absurd hs (Text.splitOn_ne_nil sep cs)
      | cons part parts => simp [h]

/-- No part has the character at which the text is cut. -/
theorem not_mem_of_mem_splitOn {sep : Char} {cs part : List Char} (h : part ∈ Text.splitOn sep cs) :
    sep ∉ part := by
  induction cs generalizing part with
  | nil =>
    obtain rfl := List.mem_singleton.mp h
    exact List.not_mem_nil
  | cons c cs ih =>
    rw [Text.splitOn] at h
    split at h
    · rcases List.mem_cons.mp h with rfl | h
      · exact List.not_mem_nil
      · exact ih h
    · next hne =>
      split at h
      · obtain rfl := List.mem_singleton.mp h
        exact fun hmem => hne (List.mem_singleton.mp hmem).symm
      · next first rest hparts =>
        rw [hparts] at ih
        rcases List.mem_cons.mp h with rfl | h
        · refine fun hmem => (List.mem_cons.mp hmem).elim (fun heq => hne heq.symm) ?_
          exact ih List.mem_cons_self
        · exact ih (List.mem_cons_of_mem first h)

theorem isNameFor_iff {path : String} {name : List Char} :
    IsNameFor path.toList name ↔ String.ofList name = normalizeName path := by
  have hwords : ∀ segments words, List.Forall₂ IsWordFor segments words ↔
      segments.map normalizeWord = words :=
    fun _ _ => forall₂_iff_map_eq @isWordFor_iff
  rw [normalizeName, String.ofList_inj, Text.join]
  constructor
  · rintro ⟨segments, words, hne, hfree, hpath, hforall, rfl⟩
    rw [splitOn_eq, hpath, List.splitOn_intercalate '/' hfree hne,
      (hwords segments words).mp hforall]
  · rintro rfl
    refine ⟨_, _, Text.splitOn_ne_nil '/' _, fun _ => not_mem_of_mem_splitOn, ?_,
      (hwords _ _).mpr rfl, rfl⟩
    rw [splitOn_eq, List.intercalate_splitOn]

theorem letters_eq_ok {v : Json} {s : String} (h : v.letters = .ok s) : v = .text s := by
  cases v with
  | text t => exact congrArg Json.text (Except.ok.inj h)
  | _ => cases h

/-- The full name joins the names for the two types to the namespace. -/
theorem fullName_eq_intercalate {space resource metric : String}
    {resourceName metricName : List Char} (hresource : IsNameFor resource.toList resourceName)
    (hmetric : IsNameFor metric.toList metricName) :
    fullName space resource metric = String.ofList (['_'].intercalate
      ([space.toList, resourceName, metricName].filter fun part => part ≠ [])) := by
  have hparts : [space, normalizeName resource, normalizeName metric]
      = [space.toList, resourceName, metricName].map String.ofList := by
    rw [← isNameFor_iff.mp hresource, ← isNameFor_iff.mp hmetric]
    simp
  have hempty : ∀ part : List Char, (!(String.ofList part).isEmpty) = decide (part ≠ []) := by
    intro part
    cases part <;> simp
  have hfilter : (fun part => !part.isEmpty) ∘ String.ofList
      = fun part : List Char => decide (part ≠ []) := funext hempty
  have htoList : String.toList ∘ String.ofList = id := funext fun _ => String.toList_ofList
  rw [fullName, hparts, List.filter_map, hfilter, Text.joinStrings, List.map_map, htoList,
    List.map_id, Text.join]
  rfl

/-- The name of a series' family is the one that is made. -/
theorem isFamilyName_iff {options : Options} {s : Series} {name : String} :
    IsFamilyName options s name ↔ familyNameOf options s = .ok name := by
  constructor
  · rintro ⟨resource, metric, resourceName, metricName, hr, hm, hresource, hmetric, hname⟩
    rw [familyNameOf, hr, hm]
    show Except.ok (fullName _ _ _) = _
    rw [fullName_eq_intercalate hresource hmetric, ← hname, String.ofList_toList]
  · intro h
    obtain ⟨resource, hr, h⟩ := Except.bind_eq_ok_iff.mp h
    obtain ⟨metric, hm, h⟩ := Except.bind_eq_ok_iff.mp h
    have hresource : IsNameFor resource.toList (normalizeName resource).toList :=
      isNameFor_iff.mpr String.ofList_toList
    have hmetric : IsNameFor metric.toList (normalizeName metric).toList :=
      isNameFor_iff.mpr String.ofList_toList
    refine ⟨resource, metric, _, _, ?_, ?_, hresource, hmetric, ?_⟩
    · exact letters_eq_ok hr
    · exact letters_eq_ok hm
    · rw [← Except.ok.inj h, fullName_eq_intercalate hresource hmetric, String.toList_ofList]

theorem IsFamilyName.unique {options : Options} {s : Series} {name name' : String}
    (h : IsFamilyName options s name) (h' : IsFamilyName options s name') : name = name' :=
  Except.ok.inj ((isFamilyName_iff.mp h).symm.trans (isFamilyName_iff.mp h'))

end MetricRelay.Intake
