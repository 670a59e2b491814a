/-
The order of texts by their code points.

* `codesPrecede_iff` — the comparison of code points is the lexicographic order;
* `precedes_total`, `precedes_trans`, `precedes_antisymm` — texts are ordered linearly, as no two
  have the same code points;
* `prefix_of_le_of_le` — what stands between two texts that start alike starts so too;
* `isStem_of_startsWith` — of a text that comes later, the characters at the front decide.
-/
import MetricRelay.Text.Split
import MetricRelay.Text.Surrogate

namespace MetricRelay.Text

theorem codesPrecede_iff {ns ms : List Nat} : codesPrecede ns ms = true ↔ List.le ns ms := by
  induction ns generalizing ms with
  | nil => exact iff_of_true rfl (List.nil_le ms)
  | cons n ns ih =>
    cases ms with
    | nil => exact iff_of_false Bool.false_ne_true fun h => List.cons_ne_nil n ns (List.le_nil.mp h)
    | cons m ms =>
      have hcons : codesPrecede (n :: ns) (m :: ms) = true ↔ n < m ∨ n = m ∧ List.le ns ms := by
        rw [codesPrecede, ← ih]
        simp
      exact hcons.trans List.cons_le_cons_iff.symm

theorem codes_injective {cs ds : List Char} (h : codes cs = codes ds) : cs = ds := by
  rw [← ofCodes_codes cs, h, ofCodes_codes]

theorem precedes_iff {s t : String} :
    precedes s t = true ↔ List.le (codes s.toList) (codes t.toList) :=
  codesPrecede_iff

theorem precedes_total (s t : String) : (precedes s t || precedes t s) = true := by
  rw [Bool.or_eq_true, precedes_iff, precedes_iff]
  exact List.le_total _ _

theorem precedes_trans {s t u : String} (hst : precedes s t = true) (htu : precedes t u = true) :
    precedes s u = true :=
  precedes_iff.mpr (List.le_trans (precedes_iff.mp hst) (precedes_iff.mp htu))

theorem precedes_antisymm {s t : String} (hst : precedes s t = true) (hts : precedes t s = true) :
    s = t :=
  String.toList_inj.mp
    (codes_injective (List.le_antisymm (precedes_iff.mp hst) (precedes_iff.mp hts)))

/-! ### Texts that start with others -/

/-- A text starts with another, by their code points. -/
def IsStem (stem s : String) : Prop :=
  codes stem.toList <+: codes s.toList

instance (stem s : String) : Decidable (IsStem stem s) :=
  inferInstanceAs (Decidable (_ <+: _))

theorem startsWith_of_isStem {stem s : String} (h : IsStem stem s) : startsWith s stem = true := by
  obtain ⟨rest, hrest⟩ := h
  rw [startsWith, List.isPrefixOf_iff_prefix]
  refine ⟨ofCodes rest, ?_⟩
  rw [← ofCodes_codes s.toList, ← hrest, ofCodes, ofCodes, List.flatMap_append]
  exact congrArg (· ++ _) (ofCodes_codes stem.toList).symm

theorem le_of_starts {ns ms : List Nat} (h : ns <+: ms) : List.le ns ms := by
  induction ns generalizing ms with
  | nil => exact List.nil_le ms
  | cons n ns ih =>
    obtain ⟨rest, rfl⟩ := h
    exact List.cons_le_cons_iff.mpr (Or.inr ⟨rfl, ih (List.prefix_append ns rest)⟩)

theorem prefix_of_le_of_le {ns ks ms : List Nat} (h : ns <+: ms) (hn : List.le ns ks)
    (hm : List.le ks ms) : ns <+: ks := by
  induction ns generalizing ks ms with
  | nil => exact List.nil_prefix
  | cons n ns ih =>
    obtain ⟨rest, rfl⟩ := h
    cases ks with
    | nil => exact absurd (List.le_nil.mp hn) (List.cons_ne_nil n ns)
    | cons k ks =>
      -- the first code lies between two that are equal
      rcases List.cons_le_cons_iff.mp hn with hlt | ⟨rfl, hns⟩
      · rcases List.cons_le_cons_iff.mp hm with hgt | ⟨heq, -⟩ <;> omega
      · rcases List.cons_le_cons_iff.mp hm with hgt | ⟨-, hms⟩
        · omega
        · exact List.cons_prefix_cons.mpr ⟨rfl, ih (List.prefix_append ns rest) hns hms⟩

theorem precedes_of_isStem {stem s : String} (h : IsStem stem s) : precedes stem s = true :=
  precedes_iff.mpr (le_of_starts h)

/-- What stands between a text and one that starts with it starts with it too. -/
theorem IsStem.between {stem s t : String} (h : IsStem stem t) (hs : precedes stem s = true)
    (ht : precedes s t = true) : IsStem stem s :=
  prefix_of_le_of_le h (precedes_iff.mp hs) (precedes_iff.mp ht)

theorem IsStem.trans {stem s t : String} (hs : IsStem stem s) (ht : IsStem s t) : IsStem stem t :=
  List.IsPrefix.trans hs ht

/-- A mark with what fits it is a lower code point than a mark that nothing fits. -/
theorem lt_soleCode_of_marked? {c d : Char} {n : Nat} (h : marked? c d = some n) :
    n < soleCode c := by
  simp only [marked?] at h
  split at h
  · next hc =>
    rw [soleCode, if_pos hc]
    split at h
    · rw [← Option.some.inj h, markCode, looseMark]
      omega
    · split at h
      · next hu =>
        rw [← Option.some.inj h, looseMark]
        simp only [isSurrogate, Bool.and_eq_true, decide_eq_true_eq] at hu
        omega
      · cases h
  · cases h

/-- Further characters change the code points of a text only if they fit a mark at its end, and then
the longer text comes before the shorter one. -/
theorem codes_prefix_or_lt (cs ds : List Char) :
    codes cs <+: codes (cs ++ ds) ∨ codes (cs ++ ds) < codes cs := by
  fun_induction codes cs with
  | case1 => exact Or.inl List.nil_prefix
  | case2 c =>
    cases ds with
    | nil => exact Or.inl (List.prefix_refl _)
    | cons d ds =>
      rw [List.singleton_append, codes]
      split
      · next n h => exact Or.inr (List.Lex.rel (lt_soleCode_of_marked? h))
      · exact Or.inl (List.prefix_append [soleCode c] _)
  | case3 c d cs n h ih =>
    have hmore : codes (c :: d :: cs ++ ds) = n :: codes (cs ++ ds) := by
      rw [List.cons_append, List.cons_append, codes, h]
    rw [hmore]
    exact ih.imp (fun hp => List.cons_prefix_cons.mpr ⟨rfl, hp⟩) List.Lex.cons
  | case4 c d cs h ih =>
    have hmore : codes (c :: d :: cs ++ ds) = soleCode c :: codes (d :: cs ++ ds) := by
      rw [List.cons_append, List.cons_append, codes, h]
    rw [hmore]
    exact ih.imp (fun hp => List.cons_prefix_cons.mpr ⟨rfl, hp⟩) List.Lex.cons

theorem isStem_of_startsWith {stem s : String} (h : startsWith s stem = true)
    (hle : precedes stem s = true) : IsStem stem s := by
  rw [startsWith, List.isPrefixOf_iff_prefix] at h
  obtain ⟨rest, hrest⟩ := h
  rw [precedes_iff, ← hrest] at hle
  rw [IsStem, ← hrest]
  exact (codes_prefix_or_lt stem.toList rest).resolve_right hle

/-- A text that starts with another one is longer, or it is the same. -/
theorem IsStem.length_lt {stem s : String} (h : IsStem stem s) (hne : stem ≠ s) :
    (codes stem.toList).length < (codes s.toList).length := by
  refine Nat.lt_of_le_of_ne (List.IsPrefix.length_le h) fun hlength => hne ?_
  exact String.toList_inj.mp (codes_injective (List.IsPrefix.eq_of_length h hlength))

theorem codes_lt_iff {s t : String} :
    codes s.toList < codes t.toList ↔ precedes s t = true ∧ s ≠ t := by
  constructor
  · intro h
    refine ⟨precedes_iff.mpr (List.le_of_lt h), fun heq => ?_⟩
    rw [heq] at h
    exact List.lt_irrefl _ h
  · rintro ⟨hle, hne⟩
    exact List.not_le.mp fun hge => hne (precedes_antisymm hle (precedes_iff.mpr hge))

end MetricRelay.Text
