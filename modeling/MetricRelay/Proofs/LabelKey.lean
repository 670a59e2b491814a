/-
Which readings share a running total.

The label key of a reading puts the name and the sorted labels together with separators that are not
escaped, so readings of different identity can have one key.  Names and values of labels are
arbitrary texts here.

* `labelKey_eq_iff_sameIdentity` — the readings that are taken for no other, and a class of readings
  that are kept apart;
* `labelKey_not_injective` — two readings that are taken for each other;
* `labelKey_of_sameIdentity` — the order of the labels never counts;
* `joined_injective` — a text of labels is read in one way if its names and values are delimited.
-/
import Mathlib.Data.List.Nodup
import MetricRelay.Proofs.Text.Order
import MetricRelay.Reading

namespace MetricRelay

namespace Labels

/-- The label whose name and value are texts. -/
def ofTextPair (l : String × String) : LabelName × Json := (.ofText l.1, .text l.2)

/-- Labels whose names and values are texts. -/
def ofTexts (ls : List (String × String)) : Labels := ls.map ofTextPair

/-- Names and values are texts, and no name occurs twice. -/
def AreTexts (labels : Labels) : Prop :=
  ∃ ls : List (String × String), (ls.map Prod.fst).Nodup ∧ labels = ofTexts ls

/-- Names and values sorted by name. -/
def sortTexts (ls : List (String × String)) : List (String × String) :=
  ls.mergeSort fun a b => Text.precedes a.1 b.1

/-- The text of a label. -/
def labelText (l : String × String) : List Char := l.1.toList ++ '=' :: l.2.toList

/-- The text of labels. -/
def joined (ls : List (String × String)) : List Char := Text.join [','] (ls.map labelText)

/-- The text of the labels behind a first one. -/
def furtherText (ls : List (String × String)) : List Char := ls.flatMap fun l => ',' :: labelText l

end Labels

/-- Two readings have the same name and the same labels with the same values. -/
structure SameIdentity (r s : Heading) : Prop where
  name : r.name = s.name
  labels : ∀ l, l ∈ r.labels ↔ l ∈ s.labels

open Labels

/-! ### Sorted labels -/

theorem ofTextPair_injective : Function.Injective ofTextPair := by
  rintro ⟨k, v⟩ ⟨k', v'⟩ h
  simp only [ofTextPair, LabelName.ofText, Prod.mk.injEq, LabelName.mk.injEq, Json.text.injEq] at h
  rw [h.1.2, h.2]

theorem mem_ofTexts {ls : List (String × String)} {l : String × String} :
    ofTextPair l ∈ ofTexts ls ↔ l ∈ ls :=
  List.mem_map_of_injective ofTextPair_injective

theorem sorted_ofTexts (ls : List (String × String)) :
    Labels.sorted (ofTexts ls) = ofTexts (sortTexts ls) := by
  rw [Labels.sorted, ofTexts, ofTexts, sortTexts]
  refine (List.map_mergeSort ?_).symm
  intro a _ b _
  rfl

theorem sortTexts_perm (ls : List (String × String)) : (sortTexts ls).Perm ls :=
  List.mergeSort_perm _ _

theorem sortTexts_pairwise (ls : List (String × String)) :
    (sortTexts ls).Pairwise fun a b => Text.precedes a.1 b.1 = true := by
  rw [sortTexts]
  refine List.pairwise_mergeSort ?_ ?_ ls
  · intro a b c hab hbc
    exact Text.precedes_trans hab hbc
  · intro a b
    exact Text.precedes_total a.1 b.1

theorem sortTexts_eq_self {ls : List (String × String)}
    (h : ls.Pairwise fun a b => Text.precedes a.1 b.1 = true) : sortTexts ls = ls :=
  List.mergeSort_of_pairwise h

/-- Names that occur once have one order. -/
theorem sortTexts_eq {ls ms : List (String × String)} (hls : (ls.map Prod.fst).Nodup)
    (hms : (ms.map Prod.fst).Nodup) (h : ∀ l, l ∈ ls ↔ l ∈ ms) : sortTexts ls = sortTexts ms := by
  have hperm : ls.Perm ms :=
    (List.perm_ext_iff_of_nodup hls.of_map hms.of_map).mpr h
  refine List.Perm.eq_of_pairwise (fun a b ha hb hab hba => ?_) (sortTexts_pairwise ls)
    (sortTexts_pairwise ms) ((sortTexts_perm ls).trans (hperm.trans (sortTexts_perm ms).symm))
  have hmem : b ∈ ls := (h b).mpr ((sortTexts_perm ms).mem_iff.mp hb)
  exact List.inj_on_of_nodup_map hls ((sortTexts_perm ls).mem_iff.mp ha) hmem
    (Text.precedes_antisymm hab hba)

theorem sortTexts_eq_nil {ls : List (String × String)} (h : sortTexts ls = []) : ls = [] :=
  List.perm_nil.mp (h ▸ (sortTexts_perm ls).symm)

theorem sortTexts_eq_singleton {ls : List (String × String)} {l : String × String}
    (h : sortTexts ls = [l]) : ls = [l] :=
  List.perm_singleton.mp (h ▸ (sortTexts_perm ls).symm)

theorem sameIdentity_iff {r s : Heading} {ls ms : List (String × String)}
    (hr : r.labels = ofTexts ls) (hs : s.labels = ofTexts ms) :
    SameIdentity r s ↔ r.name = s.name ∧ ∀ l, l ∈ ls ↔ l ∈ ms := by
  constructor
  · rintro ⟨hname, hlabels⟩
    refine ⟨hname, fun l => ?_⟩
    rw [← mem_ofTexts, ← mem_ofTexts, ← hr, ← hs]
    exact hlabels _
  · rintro ⟨hname, hlabels⟩
    refine ⟨hname, fun l => ?_⟩
    rw [hr, hs, ofTexts, ofTexts, List.mem_map, List.mem_map]
    simp only [hlabels]

/-! ### The text of a key -/

theorem joined_cons (l : String × String) (ls : List (String × String)) :
    joined (l :: ls) = l.1.toList ++ '=' :: (l.2.toList ++ furtherText ls) := by
  induction ls generalizing l with
  | nil => simp [joined, Text.join, labelText, furtherText]
  | cons m ls ih =>
    have hjoined : joined (l :: m :: ls) = labelText l ++ ',' :: joined (m :: ls) := by
      simp [joined, Text.join, List.intercalate]
    rw [hjoined, ih m]
    simp [labelText, furtherText]

@[simp] theorem joined_nil : joined [] = [] := by
  simp [joined, Text.join]

@[simp] theorem joined_sortTexts_nil : joined (sortTexts []) = [] := by
  rw [sortTexts_eq_self List.Pairwise.nil, joined_nil]

@[simp] theorem joined_sortTexts_singleton (l : String × String) :
    joined (sortTexts [l]) = l.1.toList ++ '=' :: l.2.toList := by
  rw [sortTexts_eq_self (List.pairwise_singleton _ l), joined_cons, furtherText, List.flatMap_nil,
    List.append_nil]

theorem furtherText_cons (l : String × String) (ls : List (String × String)) :
    furtherText (l :: ls) = ',' :: joined (l :: ls) := by
  rw [joined_cons]
  simp [furtherText, labelText]

theorem tail_furtherText (ls : List (String × String)) : (furtherText ls).tail = joined ls := by
  cases ls with
  | nil => rfl
  | cons l ls => rw [furtherText_cons, List.tail_cons]

theorem toList_labelKey {r : Heading} {ls : List (String × String)} (hr : r.labels = ofTexts ls) :
    r.labelKey.toList = r.name.toList ++ '|' :: joined (sortTexts ls) := by
  have hparts : (Labels.sorted r.labels).map
      (fun l => l.1.written.formatted ++ "=" ++ l.2.formatted)
      = (sortTexts ls).map fun l => l.1 ++ "=" ++ l.2 := by
    rw [hr, sorted_ofTexts, ofTexts, List.map_map]
    rfl
  have hchars : ((sortTexts ls).map fun l => l.1 ++ "=" ++ l.2).map String.toList
      = (sortTexts ls).map labelText := by
    simp [labelText, Function.comp_def]
  rw [Heading.labelKey, hparts, Text.joinStrings, hchars]
  simp [joined]

theorem labelKey_eq_iff_toList {r s : Heading} {ls ms : List (String × String)}
    (hr : r.labels = ofTexts ls) (hs : s.labels = ofTexts ms) :
    r.labelKey = s.labelKey ↔
      r.name.toList ++ '|' :: joined (sortTexts ls)
        = s.name.toList ++ '|' :: joined (sortTexts ms) := by
  rw [← toList_labelKey hr, ← toList_labelKey hs, String.toList_inj]

/-- Readings of one identity have one key, in whatever order their labels came. -/
theorem labelKey_of_sameIdentity {r s : Heading} (hr : r.labels.AreTexts) (hs : s.labels.AreTexts)
    (h : SameIdentity r s) : r.labelKey = s.labelKey := by
  obtain ⟨ls, hls, hr⟩ := hr
  obtain ⟨ms, hms, hs⟩ := hs
  obtain ⟨hname, hlabels⟩ := (sameIdentity_iff hr hs).mp h
  rw [labelKey_eq_iff_toList hr hs, hname, sortTexts_eq hls hms hlabels]

/-! ### Delimited labels -/

/-- A text is cut in one way at a character that the part before it in the other cut has not. -/
theorem append_cons_inj {x y : Char} {a b c d : List Char} (ha : y ∉ a) (hb : x ∉ b)
    (h : a ++ x :: c = b ++ y :: d) : a = b ∧ x = y ∧ c = d := by
  induction a generalizing b with
  | nil =>
    cases b with
    | nil => simpa using h
    | cons z b => exact absurd (List.mem_cons.mpr (.inl (List.cons.inj h).1)) hb
  | cons w a ih =>
    cases b with
    | nil => exact absurd (List.mem_cons.mpr (.inl (List.cons.inj h).1.symm)) ha
    | cons z b =>
      simp only [List.mem_cons, not_or] at ha hb
      simp only [List.cons_append, List.cons.injEq] at h
      obtain ⟨rfl, hx, hc⟩ := ih ha.2 hb.2 h.2
      exact ⟨by rw [h.1], hx, hc⟩

/-- A text is cut in one way at a character that stands in it once. -/
theorem append_cons_inj_of_notMem {x : Char} {a b c d : List Char} (ha : x ∉ a) (hc : x ∉ c)
    (h : a ++ x :: c = b ++ x :: d) : a = b ∧ c = d := by
  by_cases hb : x ∈ b
  · obtain ⟨p, q, rfl, hp⟩ := List.eq_append_cons_of_mem hb
    rw [List.append_assoc, List.cons_append] at h
    have hrest := (append_cons_inj ha hp h).2.2
    exact absurd (by simp [hrest]) hc
  · have hcut := append_cons_inj ha hb h
    exact ⟨hcut.1, hcut.2.2⟩

/-- The name of a label has no separator, and its value has nothing that looks like a further
label. -/
structure IsDelimited (l : String × String) : Prop where
  equals : '=' ∉ l.1.toList
  comma : ',' ∉ l.1.toList
  value : ∀ a b, l.2.toList = a ++ ',' :: b → '=' ∉ b

/-- Further labels do not begin inside a delimited value. -/
theorem eq_nil_of_furtherText {ls ms : List (String × String)} {w : List Char}
    (hls : ∀ l ∈ ls, IsDelimited l) (hw : ∀ a b, w = a ++ ',' :: b → '=' ∉ b)
    (h : furtherText ls = w ++ furtherText ms) : w = [] := by
  cases w with
  | nil => rfl
  | cons c w =>
    cases ls with
    | nil => cases h
    | cons l ls =>
      rw [furtherText_cons, joined_cons, List.cons_append, List.cons.injEq] at h
      obtain ⟨rfl, h⟩ := h
      have hequals : '=' ∉ w := hw [] w rfl
      cases ms with
      | nil =>
        -- what follows would be part of the value, but the further label has an equals sign
        have hmem : '=' ∈ l.1.toList ++ '=' :: (l.2.toList ++ furtherText ls) := by simp
        rw [h, furtherText, List.flatMap_nil, List.append_nil] at hmem
        exact absurd hmem hequals
      | cons m ms =>
        rw [furtherText_cons] at h
        have hsep := (append_cons_inj (hls l List.mem_cons_self).comma hequals h).2.1
        exact absurd hsep (by decide)

/-- A delimited value ends where the further labels begin. -/
theorem value_eq_of_furtherText {l m : String × String} {ls ms : List (String × String)}
    (hl : IsDelimited l) (hm : IsDelimited m) (hls : ∀ x ∈ ls, IsDelimited x)
    (hms : ∀ x ∈ ms, IsDelimited x)
    (h : l.2.toList ++ furtherText ls = m.2.toList ++ furtherText ms) :
    l.2 = m.2 ∧ furtherText ls = furtherText ms := by
  -- one value is the other with something behind it, which is part of the further labels
  rcases List.append_eq_append_iff.mp h with ⟨w, hw, hrest⟩ | ⟨w, hw, hrest⟩
  · have hnil : w = [] := eq_nil_of_furtherText hls
      (fun a b hab => hm.value (l.2.toList ++ a) b (by rw [hw, hab, List.append_assoc])) hrest
    rw [hnil, List.append_nil] at hw
    rw [hnil, List.nil_append] at hrest
    exact ⟨String.toList_inj.mp hw.symm, hrest⟩
  · have hnil : w = [] := eq_nil_of_furtherText hms
      (fun a b hab => hl.value (m.2.toList ++ a) b (by rw [hw, hab, List.append_assoc])) hrest
    rw [hnil, List.append_nil] at hw
    rw [hnil, List.nil_append] at hrest
    exact ⟨String.toList_inj.mp hw, hrest.symm⟩

theorem joined_injective {ls ms : List (String × String)} (hls : ∀ l ∈ ls, IsDelimited l)
    (hms : ∀ m ∈ ms, IsDelimited m) (h : joined ls = joined ms) : ls = ms := by
  induction ls generalizing ms with
  | nil =>
    cases ms with
    | nil => rfl
    | cons m ms =>
      rw [joined_cons] at h
      exact absurd h.symm (List.append_ne_nil_of_right_ne_nil _ (List.cons_ne_nil _ _))
  | cons l ls ih =>
    cases ms with
    | nil =>
      rw [joined_cons] at h
      exact absurd h (List.append_ne_nil_of_right_ne_nil _ (List.cons_ne_nil _ _))
    | cons m ms =>
      obtain ⟨hl, hls⟩ := List.forall_mem_cons.mp hls
      obtain ⟨hm, hms⟩ := List.forall_mem_cons.mp hms
      rw [joined_cons, joined_cons] at h
      obtain ⟨hname, -, hrest⟩ := append_cons_inj hl.equals hm.equals h
      obtain ⟨hvalue, hfurther⟩ := value_eq_of_furtherText hl hm hls hms hrest
      have hjoined : joined ls = joined ms := by
        rw [← tail_furtherText, hfurther, tail_furtherText]
      rw [ih hls hms hjoined, Prod.ext (String.toList_inj.mp hname) hvalue]

/-! ### Readings that are taken for no other -/

namespace Heading

/-- The readings with the key of a reading are those of its identity. -/
def HasOwnKey (r : Heading) : Prop :=
  ∀ s : Heading, s.labels.AreTexts → (r.labelKey = s.labelKey ↔ SameIdentity r s)

/-- A reading has at most one label, and no separator stands where its key could be read
otherwise. -/
inductive Unmistakable (r : Heading) : Prop
  | unlabelled (labels : r.labels = [])
      (name : ∀ a b, r.name.toList = a ++ '|' :: b → '=' ∉ b)
  | labelled (k v : String) (labels : r.labels = ofTexts [(k, v)])
      (name : '|' ∉ r.name.toList) (bar : '|' ∉ k.toList) (equals : '=' ∉ k.toList)
      (value : '=' ∉ v.toList) (ending : v.toList.getLast? ≠ some '|')

variable {r : Heading} {ls : List (String × String)}

/-- A key that can be cut at a bar and an equals sign is the key of a reading with one label. -/
theorem HasOwnKey.eq_of_label (h : r.HasOwnKey) (hr : r.labels = ofTexts ls) {a b c : List Char}
    (hkey : r.name.toList ++ '|' :: joined (sortTexts ls) = a ++ '|' :: (b ++ '=' :: c)) :
    r.name.toList = a ∧ ∀ l, l ∈ ls ↔ l = (String.ofList b, String.ofList c) := by
  let s : Heading :=
    { r with name := String.ofList a, labels := ofTexts [(String.ofList b, String.ofList c)] }
  have hs : s.labels = ofTexts [(String.ofList b, String.ofList c)] := rfl
  have heq : r.labelKey = s.labelKey := by
    rw [labelKey_eq_iff_toList hr hs, hkey]
    simp [s]
  obtain ⟨hname, hlabels⟩ := (sameIdentity_iff hr hs).mp ((h s ⟨_, by simp, hs⟩).mp heq)
  exact ⟨by rw [hname, String.toList_ofList], by simpa using hlabels⟩

/-- A key that ends with a bar is the key of a reading without labels. -/
theorem HasOwnKey.eq_of_bar (h : r.HasOwnKey) (hr : r.labels = ofTexts ls) {a : List Char}
    (hkey : r.name.toList ++ '|' :: joined (sortTexts ls) = a ++ ['|']) : ls = [] := by
  let s : Heading := { r with name := String.ofList a, labels := ofTexts [] }
  have hs : s.labels = ofTexts [] := rfl
  have heq : r.labelKey = s.labelKey := by
    rw [labelKey_eq_iff_toList hr hs, hkey]
    simp [s]
  obtain ⟨-, hlabels⟩ := (sameIdentity_iff hr hs).mp ((h s ⟨_, by simp, hs⟩).mp heq)
  exact List.eq_nil_iff_forall_not_mem.mpr fun l hl => absurd ((hlabels l).mp hl) List.not_mem_nil

theorem HasOwnKey.unmistakable_of_nil (h : r.HasOwnKey) (hr : r.labels = ofTexts []) :
    r.Unmistakable := by
  refine .unlabelled hr fun a b hname hmem => ?_
  obtain ⟨c, d, rfl⟩ := List.append_of_mem hmem
  have hkey : r.name.toList ++ '|' :: joined (sortTexts [])
      = a ++ '|' :: (c ++ '=' :: (d ++ ['|'])) := by
    simp [hname]
  obtain ⟨-, hlabels⟩ := h.eq_of_label hr hkey
  exact List.not_mem_nil ((hlabels _).mpr rfl)

/-- A separator in the wrong place of a single label lets its key be cut there. -/
theorem HasOwnKey.unmistakable_of_singleton (h : r.HasOwnKey) {k v : String}
    (hr : r.labels = ofTexts [(k, v)]) : r.Unmistakable := by
  refine .labelled k v hr ?name ?bar ?equals ?value ?ending
  case name =>
    intro hmem
    obtain ⟨a, b, hname⟩ := List.append_of_mem hmem
    obtain ⟨ha, -⟩ := h.eq_of_label hr (a := a) (b := b ++ '|' :: k.toList) (c := v.toList)
      (by simp [hname])
    simp [ha] at hname
  case bar =>
    intro hmem
    obtain ⟨a, b, hk⟩ := List.append_of_mem hmem
    obtain ⟨ha, -⟩ := h.eq_of_label hr (a := r.name.toList ++ '|' :: a) (b := b) (c := v.toList)
      (by simp [hk])
    simp at ha
  case equals =>
    intro hmem
    obtain ⟨a, b, hk⟩ := List.append_of_mem hmem
    obtain ⟨-, hlabels⟩ := h.eq_of_label hr (a := r.name.toList) (b := a)
      (c := b ++ '=' :: v.toList) (by simp [hk])
    have hka : k = String.ofList a := congrArg Prod.fst ((hlabels (k, v)).mp (by simp))
    simp [hka] at hk
  case value =>
    intro hmem
    obtain ⟨a, b, hv⟩ := List.append_of_mem hmem
    obtain ⟨-, hlabels⟩ := h.eq_of_label hr (a := r.name.toList) (b := k.toList ++ '=' :: a)
      (c := b) (by simp [hv])
    have hka := congrArg (fun l => l.1.toList) ((hlabels (k, v)).mp (by simp))
    simp at hka
  case ending =>
    intro hlast
    obtain ⟨a, hv⟩ := List.getLast?_eq_some_iff.mp hlast
    have hnil := h.eq_of_bar hr (a := r.name.toList ++ '|' :: (k.toList ++ '=' :: a))
      (by simp [hv])
    cases hnil

/-- Two labels can always be read as one, whose value is all that follows the first equals sign. -/
theorem HasOwnKey.length_le_one (h : r.HasOwnKey) (hr : r.labels = ofTexts ls)
    (hls : (ls.map Prod.fst).Nodup) : ls.length ≤ 1 := by
  cases hsorted : sortTexts ls with
  | nil =>
    rw [sortTexts_eq_nil hsorted]
    exact Nat.zero_le 1
  | cons x rest =>
    obtain ⟨-, hlabels⟩ := h.eq_of_label hr (a := r.name.toList) (b := x.1.toList)
      (c := x.2.toList ++ furtherText rest) (by rw [hsorted, joined_cons])
    -- all labels are the one that the key is read as, and none occurs twice
    have hnodup : ls.Nodup := hls.of_map
    exact hnodup.length_le_of_subset fun l hl => List.mem_singleton.mpr ((hlabels l).mp hl)

theorem HasOwnKey.unmistakable (h : r.HasOwnKey) (hr : r.labels = ofTexts ls)
    (hls : (ls.map Prod.fst).Nodup) : r.Unmistakable := by
  have hlength := h.length_le_one hr hls
  match ls, hr with
  | [], hr => exact h.unmistakable_of_nil hr
  | [_], hr => exact h.unmistakable_of_singleton hr
  | _ :: _ :: _, _ => simp at hlength

/-- A key that ends with its only bar is read in one way if no equals sign follows it in the
name. -/
theorem Unmistakable.eq_of_unlabelled {s : Heading} {ms : List (String × String)}
    (hname : ∀ a b, r.name.toList = a ++ '|' :: b → '=' ∉ b)
    (h : r.name.toList ++ ['|'] = s.name.toList ++ '|' :: joined ms) :
    r.name = s.name ∧ ms = [] := by
  cases ms with
  | nil => exact ⟨String.toList_inj.mp (List.append_cancel_right h), rfl⟩
  | cons m ms =>
    rw [joined_cons] at h
    -- the key ends with the bar, so the last label does, and the name has all that comes before
    obtain ⟨c, x, hrest⟩ : ∃ c x, '=' :: (m.2.toList ++ furtherText ms) = c ++ [x] :=
      ⟨_, _, (List.dropLast_append_getLast (List.cons_ne_nil _ _)).symm⟩
    rw [hrest, ← List.append_assoc, ← List.cons_append, ← List.append_assoc] at h
    obtain ⟨hinit, hx⟩ := List.append_inj' h rfl
    obtain rfl : '|' = x := by simpa using hx
    cases c with
    | nil => simp at hrest
    | cons y c =>
      obtain ⟨rfl, -⟩ := List.cons.inj hrest
      exact absurd (by simp) (hname _ _ hinit)

/-- A key with one plain label is read in one way. -/
theorem Unmistakable.eq_of_labelled {s : Heading} {k v : String} {ms : List (String × String)}
    (hname : '|' ∉ r.name.toList) (hbar : '|' ∉ k.toList) (hequals : '=' ∉ k.toList)
    (hvalue : '=' ∉ v.toList) (hending : v.toList.getLast? ≠ some '|')
    (h : r.name.toList ++ '|' :: (k.toList ++ '=' :: v.toList)
      = s.name.toList ++ '|' :: joined ms) : r.name = s.name ∧ ms = [(k, v)] := by
  cases ms with
  | nil =>
    -- without labels a key ends with the bar, and this one ends with the value or an equals sign
    have hlast : v.toList.getLast?.getD '=' = '|' := by
      simpa [List.getLast?_cons] using congrArg List.getLast? h
    cases hv : v.toList.getLast? with
    | none =>
      rw [hv] at hlast
      exact absurd hlast (by decide)
    | some c =>
      rw [hv] at hlast hending
      exact absurd (congrArg some hlast) hending
  | cons m ms =>
    rw [joined_cons] at h
    by_cases hs : '|' ∈ s.name.toList
    · -- the first bar ends this name, so a later one would be part of the label's name
      obtain ⟨p, q, hpq, hp⟩ := List.eq_append_cons_of_mem hs
      rw [hpq, List.append_assoc, List.cons_append] at h
      have hrest := (append_cons_inj hname hp h).2.2
      rw [← List.cons_append, ← List.append_assoc] at hrest
      have hk := (append_cons_inj_of_notMem hequals hvalue hrest).1
      exact absurd (by simp [hk]) hbar
    · obtain ⟨hn, -, hrest⟩ := append_cons_inj hname hs h
      obtain ⟨hk, hv⟩ := append_cons_inj_of_notMem hequals hvalue hrest
      cases ms with
      | nil =>
        rw [furtherText, List.flatMap_nil, List.append_nil] at hv
        have hm : m = (k, v) :=
          Prod.ext (String.toList_inj.mp hk.symm) (String.toList_inj.mp hv.symm)
        exact ⟨String.toList_inj.mp hn, by rw [hm]⟩
      | cons l ms =>
        -- a further label has an equals sign, which the value has not
        rw [furtherText_cons, joined_cons] at hv
        exact absurd (by simp [hv]) hvalue

theorem Unmistakable.hasOwnKey (h : r.Unmistakable) : r.HasOwnKey := by
  rintro s ⟨ms, hms, hs⟩
  cases h with
  | unlabelled hlabels hname =>
    have hr : r.labels = ofTexts [] := hlabels
    refine ⟨fun hkey => ?_, labelKey_of_sameIdentity ⟨[], List.nodup_nil, hr⟩ ⟨ms, hms, hs⟩⟩
    rw [labelKey_eq_iff_toList hr hs] at hkey
    obtain ⟨hn, hnil⟩ := eq_of_unlabelled hname (by simpa using hkey)
    obtain rfl := sortTexts_eq_nil hnil
    exact (sameIdentity_iff hr hs).mpr ⟨hn, fun l => Iff.rfl⟩
  | labelled k v hr hname hbar hequals hvalue hending =>
    refine ⟨fun hkey => ?_, labelKey_of_sameIdentity ⟨[(k, v)], by simp, hr⟩ ⟨ms, hms, hs⟩⟩
    rw [labelKey_eq_iff_toList hr hs] at hkey
    obtain ⟨hn, hsingle⟩ :=
      eq_of_labelled hname hbar hequals hvalue hending (by simpa using hkey)
    obtain rfl := sortTexts_eq_singleton hsingle
    exact (sameIdentity_iff hr hs).mpr ⟨hn, fun l => Iff.rfl⟩

/-- The name has no bar and the labels are delimited. -/
structure Delimited (r : Heading) : Prop where
  name : '|' ∉ r.name.toList
  labels : ∀ l, ofTextPair l ∈ r.labels → IsDelimited l

theorem Delimited.labelKey_inj {s : Heading} (hr : r.labels.AreTexts) (hs : s.labels.AreTexts)
    (hrd : r.Delimited) (hsd : s.Delimited) (h : r.labelKey = s.labelKey) : SameIdentity r s := by
  obtain ⟨ls, -, hr⟩ := hr
  obtain ⟨ms, -, hs⟩ := hs
  rw [labelKey_eq_iff_toList hr hs] at h
  obtain ⟨hname, -, hjoined⟩ := append_cons_inj hrd.name hsd.name h
  have hsorted : sortTexts ls = sortTexts ms := by
    refine joined_injective (fun l hl => hrd.labels l ?_) (fun l hl => hsd.labels l ?_) hjoined
    · rw [hr]
      exact mem_ofTexts.mpr ((sortTexts_perm ls).mem_iff.mp hl)
    · rw [hs]
      exact mem_ofTexts.mpr ((sortTexts_perm ms).mem_iff.mp hl)
  refine (sameIdentity_iff hr hs).mpr ⟨String.toList_inj.mp hname, fun l => ?_⟩
  rw [← (sortTexts_perm ls).mem_iff, hsorted, (sortTexts_perm ms).mem_iff]

end Heading

/-- **When a key tells a reading's identity.**  Readings of one identity always have one key.  The
readings with the key of a reading are those of its identity exactly if it is unmistakable, which no
reading with two labels is.  Among delimited readings one key means one identity, however many
labels there are. -/
theorem labelKey_eq_iff_sameIdentity (r : Heading) (hr : r.labels.AreTexts) :
    (∀ s : Heading, s.labels.AreTexts → SameIdentity r s → r.labelKey = s.labelKey) ∧
    ((∀ s : Heading, s.labels.AreTexts → (r.labelKey = s.labelKey ↔ SameIdentity r s))
      ↔ r.Unmistakable) ∧
    (r.Delimited → ∀ s : Heading, s.labels.AreTexts → s.Delimited →
      (r.labelKey = s.labelKey ↔ SameIdentity r s)) := by
  refine ⟨fun s hs => labelKey_of_sameIdentity hr hs, ⟨fun h => ?_, fun h => h.hasOwnKey⟩,
    fun hrd s hs hsd => ⟨Heading.Delimited.labelKey_inj hr hs hrd hsd,
      labelKey_of_sameIdentity hr hs⟩⟩
  obtain ⟨ls, hls, hr⟩ := hr
  exact Heading.HasOwnKey.unmistakable h hr hls

/-- A reading of jobs with labels. -/
def jobs (ls : List (String × String)) : Heading :=
  { name := "jobs", help := .null, kind := .counter, labels := ofTexts ls, time := ⟨0⟩ }

theorem labelKey_eq_iff_sameIdentity_jobs :
    (jobs [("a", "1"), ("b", "2")]).labels.AreTexts ∧
    (∀ s : Heading, s.labels.AreTexts → SameIdentity (jobs [("a", "1"), ("b", "2")]) s →
      (jobs [("a", "1"), ("b", "2")]).labelKey = s.labelKey) ∧
    ((∀ s : Heading, s.labels.AreTexts →
        ((jobs [("a", "1"), ("b", "2")]).labelKey = s.labelKey ↔
          SameIdentity (jobs [("a", "1"), ("b", "2")]) s))
      ↔ (jobs [("a", "1"), ("b", "2")]).Unmistakable) ∧
    ((jobs [("a", "1"), ("b", "2")]).Delimited → ∀ s : Heading, s.labels.AreTexts → s.Delimited →
      ((jobs [("a", "1"), ("b", "2")]).labelKey = s.labelKey ↔
        SameIdentity (jobs [("a", "1"), ("b", "2")]) s)) :=
  have hgiven : (jobs [("a", "1"), ("b", "2")]).labels.AreTexts := ⟨_, by decide, rfl⟩
  ⟨hgiven, labelKey_eq_iff_sameIdentity (jobs [("a", "1"), ("b", "2")]) hgiven⟩

/-- **A key does not tell a reading's identity.**  One label whose value looks like the end of a
label and a second one gives the key of two labels. -/
theorem labelKey_not_injective :
    ¬ ∀ r s : Heading, r.labels.AreTexts → s.labels.AreTexts →
      (r.labelKey = s.labelKey ↔ SameIdentity r s) := by
  intro h
  have hkey : (jobs [("a", "1,b=2")]).labelKey = (jobs [("a", "1"), ("b", "2")]).labelKey := by
    rw [labelKey_eq_iff_toList rfl rfl, sortTexts_eq_self (List.pairwise_singleton _ _),
      sortTexts_eq_self (by decide +kernel)]
    decide +kernel
  have hsame := (h (jobs [("a", "1,b=2")]) (jobs [("a", "1"), ("b", "2")]) ⟨_, by decide, rfl⟩
    ⟨_, by decide, rfl⟩).mp hkey
  have hmem := (((sameIdentity_iff rfl rfl).mp hsame).2 ("b", "2")).mpr
  exact absurd (hmem (by decide)) (by decide)

end MetricRelay
