/-
Configured prefixes are apart.

Sorting puts the prefixes that start with another one right after it, since what stands between two
texts that start alike starts so too.  So none of the prefixes that are kept starts with another,
and no text starts with two of them:

* `pairwise_minimalPrefixes` — the minimal prefixes are pairwise apart;
* `pairwise_prefixes_of_checkCollection` — so are the prefixes of every configuration that passes.
-/
import MetricRelay.Proofs.Settings.Check
import MetricRelay.Proofs.Text.Order
import MetricRelay.Settings.Load

namespace MetricRelay.Settings

open Text

/-- Neither of two prefixes starts with the other. -/
structure Apart (stem stem' : String) : Prop where
  left : ¬IsStem stem stem'
  right : ¬IsStem stem' stem

/-- No text starts with two prefixes that are apart. -/
theorem Apart.not_isStem {stem stem' s : String} (h : Apart stem stem') (hs : IsStem stem s) :
    ¬IsStem stem' s := fun hs' =>
  (List.prefix_or_prefix_of_prefix hs hs').elim h.left h.right

theorem dropCovered_sublist (last : Option String) (ps : List String) :
    (dropCovered last ps).Sublist ps := by
  induction ps generalizing last with
  | nil => exact List.Sublist.refl _
  | cons p ps ih =>
    rw [dropCovered]
    split
    · exact (ih last).cons p
    · exact (ih (some p)).cons_cons p

/-- Of sorted prefixes, none that is kept after another one starts with it. -/
theorem not_isStem_of_mem_dropCovered {last : String} {ps : List String}
    (hlast : ∀ p ∈ ps, precedes last p = true)
    (hps : ps.Pairwise fun p q => precedes p q = true) :
    ∀ p ∈ dropCovered (some last) ps, ¬IsStem last p := by
  induction ps with
  | nil => exact fun p h => absurd h List.not_mem_nil
  | cons q ps ih =>
    obtain ⟨hq, hrest⟩ := List.forall_mem_cons.mp hlast
    obtain ⟨hqs, hps⟩ := List.pairwise_cons.mp hps
    rw [dropCovered]
    by_cases hcovered : (some last).any (startsWith q) = true
    · rw [if_pos hcovered]
      exact ih hrest hps
    · rw [if_neg hcovered]
      have hkept : ¬IsStem last q := fun h => hcovered (startsWith_of_isStem h)
      refine List.forall_mem_cons.mpr ⟨hkept, fun p hp h => hkept ?_⟩
      -- the prefix that is kept stands between the two
      exact h.between hq (hqs p ((dropCovered_sublist (some q) ps).subset hp))

theorem pairwise_dropCovered {last : Option String} {ps : List String}
    (hps : ps.Pairwise fun p q => precedes p q = true) : (dropCovered last ps).Pairwise Apart := by
  induction ps generalizing last with
  | nil => exact List.Pairwise.nil
  | cons p ps ih =>
    obtain ⟨hp, hps⟩ := List.pairwise_cons.mp hps
    rw [dropCovered]
    split
    · exact ih hps
    · refine List.pairwise_cons.mpr ⟨fun q hq => ?_, ih hps⟩
      have hnot : ¬IsStem p q := not_isStem_of_mem_dropCovered hp hps q hq
      have hle : precedes p q = true := hp q ((dropCovered_sublist (some p) ps).subset hq)
      refine ⟨hnot, fun h => hnot ?_⟩
      -- one that starts with a later one is the same
      rw [precedes_antisymm hle (precedes_of_isStem h)]
      exact List.prefix_refl _

theorem pairwise_sorted (ps : List String) :
    (ps.mergeSort precedes).Pairwise fun p q => precedes p q = true := by
  refine List.pairwise_mergeSort ?_ precedes_total ps
  exact fun _ _ _ => precedes_trans

theorem pairwise_minimalPrefixes (ps : List String) : (minimalPrefixes ps).Pairwise Apart :=
  pairwise_dropCovered (pairwise_sorted ps)

/-- The prefixes of a configuration that passes are apart. -/
theorem pairwise_prefixes_of_checkCollection {v : Json} {c : Collection}
    (h : checkCollection v = .valid c) : c.prefixes.Pairwise Apart := by
  have hprefixes : ∀ v, (checkPrefixes v).Ensures fun stems => stems.Pairwise Apart := by
    intro v
    refine (Checked.ensures_true _).andThen fun ps _ => ?_
    split
    · exact Checked.ensures_problem _ _
    · exact Checked.ensures_valid (pairwise_minimalPrefixes _)
  have hcollection : ∀ v, (checkCollection v).Ensures fun c => c.prefixes.Pairwise Apart := by
    refine Checked.Ensures.model fun ms => ?_
    -- the members after the prefixes do not matter
    iterate 12 refine Checked.Ensures.seq ?_ (Checked.ensures_true _)
    refine Checked.Ensures.seq ?_ ((hprefixes _).below _)
    refine (Checked.ensures_true _).map fun _ _ stems hstems => ?_
    intros
    exact hstems
  exact hcollection v c h

end MetricRelay.Settings
