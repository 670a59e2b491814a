/-
The minimal cover of prefixes.

A list of prefixes asks for all texts that start with one of them.  The prefixes that start with no
other one of the list ask for the same texts, and for each text once.  Sorting and one pass find
exactly these:

* `mem_dropCovered_iff` — what the pass keeps;
* `mem_minimalPrefixes_iff` — the minimal prefixes are those that no other one covers;
* `isCover_minimalPrefixes` — they are the minimal cover, and depend on nothing but the set of
  prefixes.
-/
import Mathlib.Data.List.Nodup
import Mathlib.Tactic.Tauto
import MetricRelay.Proofs.Settings.Prefixes

namespace MetricRelay.Settings

open Text

/-- Prefixes in strictly ascending order, by their code points. -/
def Ascends (ps : List String) : Prop :=
  ps.Pairwise fun p q => codes p.toList < codes q.toList

/-- Some prefixes are the minimal cover of others. -/
structure IsCover (ps cover : List String) : Prop where
  ascending : Ascends cover
  /-- They are the prefixes that start with no other one. -/
  mem_iff : ∀ p, p ∈ cover ↔ p ∈ ps ∧ ∀ q ∈ ps, IsStem q p → q = p
  /-- They ask for the same texts. -/
  covers : ∀ s, (∃ p ∈ cover, IsStem p s) ↔ ∃ p ∈ ps, IsStem p s
  /-- They ask for each text once. -/
  once : ∀ s, ∀ p ∈ cover, ∀ q ∈ cover, IsStem p s → IsStem q s → p = q

/-! ### What is kept -/

/-- Of sorted prefixes that come after the last one kept, those are kept that neither this one nor
another one of them covers. -/
theorem mem_dropCovered_iff {last : Option String} {ps : List String}
    (hlast : ∀ l ∈ last, ∀ p ∈ ps, precedes l p = true)
    (hps : ps.Pairwise fun p q => precedes p q = true) (p : String) :
    p ∈ dropCovered last ps ↔
      p ∈ ps ∧ (∀ l ∈ last, ¬IsStem l p) ∧ ∀ q ∈ ps, IsStem q p → q = p := by
  induction ps generalizing last with
  | nil => simp [dropCovered]
  | cons q ps ih =>
    obtain ⟨hq, hps⟩ := List.pairwise_cons.mp hps
    rw [dropCovered]
    by_cases hcovered : last.any (startsWith q) = true
    · -- what the first prefix covers, the last one kept covers as well
      obtain ⟨l, hl, hstarts⟩ := (Option.any_eq_true _ _).mp hcovered
      have hlq : IsStem l q := isStem_of_startsWith hstarts (hlast l hl q List.mem_cons_self)
      rw [if_pos hcovered, ih (fun l hl p hp => hlast l hl p (List.mem_cons_of_mem q hp)) hps]
      constructor
      · rintro ⟨hp, hnot, hmin⟩
        refine ⟨List.mem_cons_of_mem q hp, hnot, List.forall_mem_cons.mpr ⟨fun h => ?_, hmin⟩⟩
        exact absurd (hlq.trans h) (hnot l hl)
      · rintro ⟨hp, hnot, hmin⟩
        refine ⟨?_, hnot, (List.forall_mem_cons.mp hmin).2⟩
        refine (List.mem_cons.mp hp).resolve_left fun heq => hnot l hl ?_
        rw [heq]
        exact hlq
    · have hkept : ∀ l ∈ last, ¬IsStem l q := fun l hl h =>
        hcovered ((Option.any_eq_true _ _).mpr ⟨l, hl, startsWith_of_isStem h⟩)
      rw [if_neg hcovered, List.mem_cons, ih (fun l hl => by cases hl; exact hq) hps]
      constructor
      · rintro (rfl | ⟨hp, hnot, hmin⟩)
        · -- a later prefix that covers the first one is the same
          refine ⟨List.mem_cons_self, hkept, List.forall_mem_cons.mpr ⟨fun _ => rfl, ?_⟩⟩
          exact fun q' hq' h => precedes_antisymm (precedes_of_isStem h) (hq q' hq')
        · have hqp : ¬IsStem q p := hnot q rfl
          refine ⟨List.mem_cons_of_mem q hp, fun l hl h => hkept l hl ?_,
            List.forall_mem_cons.mpr ⟨fun h => absurd h hqp, hmin⟩⟩
          exact h.between (hlast l hl q List.mem_cons_self) (hq p hp)
      · rintro ⟨hp, -, hmin⟩
        obtain ⟨hfirst, hmin⟩ := List.forall_mem_cons.mp hmin
        by_cases heq : p = q
        · exact Or.inl heq
        · refine Or.inr ⟨(List.mem_cons.mp hp).resolve_left heq, fun l hl h => ?_, hmin⟩
          cases hl
          exact heq (hfirst h).symm

theorem mem_minimalPrefixes_iff {ps : List String} {p : String} :
    p ∈ minimalPrefixes ps ↔ p ∈ ps ∧ ∀ q ∈ ps, IsStem q p → q = p := by
  rw [minimalPrefixes, mem_dropCovered_iff (fun _ h => by cases h) (pairwise_sorted ps)]
  simp

theorem ascends_minimalPrefixes (ps : List String) : Ascends (minimalPrefixes ps) := by
  have hsorted := (pairwise_sorted ps).sublist (dropCovered_sublist none _)
  refine hsorted.imp₂ (fun p q hle hapart => codes_lt_iff.mpr ⟨hle, fun heq => ?_⟩)
    (pairwise_minimalPrefixes ps)
  exact hapart.left (heq ▸ List.prefix_refl _)

/-! ### What is covered -/

/-- Each prefix starts with a minimal one. -/
theorem exists_mem_minimalPrefixes {ps : List String} {p : String} (hp : p ∈ ps) :
    ∃ q ∈ minimalPrefixes ps, IsStem q p := by
  -- on the length of the prefix: one that is not minimal starts with a shorter one
  induction hn : (codes p.toList).length using Nat.strongRecOn generalizing p with
  | ind n ih =>
    by_cases hmin : ∀ q ∈ ps, IsStem q p → q = p
    · exact ⟨p, mem_minimalPrefixes_iff.mpr ⟨hp, hmin⟩, List.prefix_refl _⟩
    · push Not at hmin
      obtain ⟨q, hq, hstem, hne⟩ := hmin
      obtain ⟨r, hr, hrq⟩ := ih _ (hn ▸ hstem.length_lt hne) hq rfl
      exact ⟨r, hr, hrq.trans hstem⟩

/-- Ascending prefixes are determined by their set. -/
theorem Ascends.eq_of_mem_iff {ps qs : List String} (hp : Ascends ps) (hq : Ascends qs)
    (h : ∀ p, p ∈ ps ↔ p ∈ qs) : ps = qs := by
  have hnodup : ∀ {rs : List String}, Ascends rs → rs.Nodup := fun hr =>
    hr.imp fun hlt => (codes_lt_iff.mp hlt).2
  refine List.Perm.eq_of_pairwise (fun p q _ _ hpq hqp => ?_) hp hq
    ((List.perm_ext_iff_of_nodup (hnodup hp) (hnodup hq)).mpr h)
  exact absurd hqp (List.lt_asymm hpq)

/-- **The minimal prefixes of a list are its minimal cover.**  Neither the order of the list nor
repetitions matter, and the cover of the cover is the cover. -/
theorem isCover_minimalPrefixes (ps : List String) :
    IsCover ps (minimalPrefixes ps) ∧
      (∀ qs, (∀ p, p ∈ qs ↔ p ∈ ps) → minimalPrefixes qs = minimalPrefixes ps) ∧
      minimalPrefixes (minimalPrefixes ps) = minimalPrefixes ps := by
  refine ⟨⟨ascends_minimalPrefixes ps, fun p => mem_minimalPrefixes_iff, fun s => ?_,
    fun s p hp q hq hps hqs => ?_⟩, fun qs hqs => ?_, ?_⟩
  · constructor
    · rintro ⟨p, hp, hs⟩
      exact ⟨p, (mem_minimalPrefixes_iff.mp hp).1, hs⟩
    · rintro ⟨p, hp, hs⟩
      obtain ⟨q, hq, hqp⟩ := exists_mem_minimalPrefixes hp
      exact ⟨q, hq, hqp.trans hs⟩
  · -- of two stems of one text, one is a stem of the other
    obtain ⟨hp, hpmin⟩ := mem_minimalPrefixes_iff.mp hp
    obtain ⟨hq, hqmin⟩ := mem_minimalPrefixes_iff.mp hq
    rcases List.prefix_or_prefix_of_prefix hps hqs with h | h
    · exact hqmin p hp h
    · exact (hpmin q hq h).symm
  · refine (ascends_minimalPrefixes qs).eq_of_mem_iff (ascends_minimalPrefixes ps) fun p => ?_
    simp only [mem_minimalPrefixes_iff, hqs]
  · refine (ascends_minimalPrefixes _).eq_of_mem_iff (ascends_minimalPrefixes ps) fun p => ?_
    rw [mem_minimalPrefixes_iff]
    refine ⟨fun h => h.1, fun h => ⟨h, fun q hq => ?_⟩⟩
    exact (mem_minimalPrefixes_iff.mp h).2 q (mem_minimalPrefixes_iff.mp hq).1

theorem isCover_minimalPrefixes_jobs :
    (∀ p, p ∈ ["jobs/done", "jobs", "jobs/done"] ↔ p ∈ ["jobs", "jobs/done"]) ∧
    minimalPrefixes ["jobs/done", "jobs", "jobs/done"] = minimalPrefixes ["jobs", "jobs/done"] := by
  have hsame : ∀ p, p ∈ ["jobs/done", "jobs", "jobs/done"] ↔ p ∈ ["jobs", "jobs/done"] := by
    intro p
    simp only [List.mem_cons, List.not_mem_nil, or_false]
    tauto
  exact ⟨hsame, (isCover_minimalPrefixes ["jobs", "jobs/done"]).2.1 _ hsame⟩

end MetricRelay.Settings
