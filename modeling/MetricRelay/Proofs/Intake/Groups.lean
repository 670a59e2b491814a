/-
Readings in groups.

A batch keeps its readings in lists under their names.  The lists of all readings that have been
added are the groups of one name each, in the order in which the names first occur
(`values_appendAll`), so that none is lost and none comes twice:

* `flatten_groupsBy_perm` — groups hold what they are made of;
* `arranged` — readings in the order in which a batch hands them out, in groups of one form and
  name.
-/
import MetricRelay.Proofs.Intake.Filled

namespace MetricRelay.Intake

/-! ### Groups of one key -/

section GroupsBy

variable {α β : Type}

/-- The elements of a list in groups of one key each, in the order in which the keys first occur. -/
def groupsBy (key : α → String) (as : List α) : List (List α) :=
  (as.map key).eraseDups.map fun k => as.filter fun a => key a = k

theorem groupsBy_map (key : α → String) (f : β → α) (bs : List β) :
    groupsBy key (bs.map f) = (groupsBy (fun b => key (f b)) bs).map (List.map f) := by
  rw [groupsBy, groupsBy, List.map_map, List.map_map]
  refine List.map_congr_left fun k _ => ?_
  rw [List.filter_map]
  rfl

/-- Elements that are looked for under keys that differ are found once. -/
theorem flatMap_filter_perm {key : α → String} {ks : List String} (hks : ks.Nodup) {as : List α}
    (has : ∀ a ∈ as, key a ∈ ks) :
    (ks.flatMap fun k => as.filter fun a => key a = k).Perm as := by
  induction ks generalizing as with
  | nil =>
    cases as with
    | nil => exact List.Perm.refl _
    | cons a as => exact absurd (has a List.mem_cons_self) List.not_mem_nil
  | cons k ks ih =>
    obtain ⟨hk, hks⟩ := List.nodup_cons.mp hks
    -- what is not under the first key is found under the others
    have hrest : (ks.flatMap fun l => as.filter fun a => key a = l)
        = ks.flatMap fun l => (as.filter fun a => !decide (key a = k)).filter fun a =>
          key a = l := by
      refine List.flatMap_congr fun l hl => ?_
      rw [List.filter_filter]
      refine List.filter_congr fun a _ => ?_
      by_cases ha : key a = l
      · have hne : l ≠ k := fun h => hk (h ▸ hl)
        simp [ha, hne]
      · simp [ha]
    rw [List.flatMap_cons, hrest]
    refine ((ih hks fun a ha => ?_).append_left _).trans (List.filter_append_perm _ as)
    obtain ⟨ha, hne⟩ := List.mem_filter.mp ha
    exact (List.mem_cons.mp (has a ha)).resolve_left (by simpa using hne)

theorem appendAll_concat (key : α → String) (m : Assoc String (List α)) (as : List α) (a : α) :
    appendAll key m (as ++ [a]) = append (appendAll key m as) (key a) a :=
  List.foldl_concat ..

theorem keys_appendAll (key : α → String) (as : List α) :
    Assoc.keys (appendAll key [] as) = (as.map key).eraseDups := by
  induction as using List.reverseRecOn with
  | nil => rfl
  | append_singleton as a ih =>
    rw [appendAll_concat, append, Assoc.keys_put, Assoc.has_eq_any, ih, Assoc.any_eraseDups,
      List.map_append, Assoc.eraseDups_append, List.map_singleton, List.filter_cons,
      List.filter_nil]
    cases (as.map key).any fun k => k == key a <;> simp [List.eraseDups_cons]

theorem getD_appendAll (key : α → String) (as : List α) (k : String) :
    (Assoc.get? (appendAll key [] as) k).getD [] = as.filter fun a => key a = k := by
  induction as using List.reverseRecOn with
  | nil => rfl
  | append_singleton as a ih =>
    rw [appendAll_concat, append, Assoc.get?_put, List.filter_append, ← ih]
    by_cases hk : key a = k <;> simp [hk]

theorem flatten_groupsBy_perm (key : α → String) (as : List α) :
    (groupsBy key as).flatten.Perm as := by
  have hnodup : (as.map key).eraseDups.Nodup :=
    keys_appendAll key as ▸ (grouped_nil.appendAll as).nodup
  rw [groupsBy, ← List.flatMap_def]
  exact flatMap_filter_perm hnodup fun a ha => List.mem_eraseDups.mpr (List.mem_map_of_mem ha)

/-- The lists under all names are the groups of what has been added. -/
theorem values_appendAll (key : α → String) (as : List α) :
    (appendAll key [] as).map Prod.snd = groupsBy key as := by
  have hnodup : (Assoc.keys (appendAll key [] as)).Nodup := (grouped_nil.appendAll as).nodup
  rw [groupsBy, ← keys_appendAll, Assoc.keys, List.map_map]
  refine List.map_congr_left fun e he => ?_
  rw [Function.comp_apply, ← getD_appendAll, (Assoc.get?_eq_some_iff hnodup).mpr he,
    Option.getD_some]

end GroupsBy

/-! ### Groups of readings -/

/-- Whether a reading has one value. -/
def Reading.isScalar : Reading → Bool
  | .scalar _ => true
  | .histogram _ => false

/-- Readings in groups of one form and name: scalars before histograms, and the names of each form
in the order in which they first occur. -/
def arranged (rs : List Reading) : List (List Reading) :=
  groupsBy Reading.name (rs.filter fun r => r.isScalar) ++
    groupsBy Reading.name (rs.filter fun r => !r.isScalar)

theorem flatten_arranged_perm (rs : List Reading) : (arranged rs).flatten.Perm rs := by
  rw [arranged, List.flatten_append]
  exact ((flatten_groupsBy_perm _ _).append (flatten_groupsBy_perm _ _)).trans
    (List.filter_append_perm _ rs)

/-- Readings whose scalars and whose histograms are known, each in their order. -/
structure AreMadeOf (rs : List Reading) (scalars : List Scalar)
    (histograms : List HistogramReading) :
    Prop where
  scalars : (rs.filter fun r => r.isScalar) = scalars.map .scalar
  histograms : (rs.filter fun r => !r.isScalar) = histograms.map .histogram

theorem AreMadeOf.append {rs rs' : List Reading} {ss ss' : List Scalar}
    {hs hs' : List HistogramReading} (h : AreMadeOf rs ss hs) (h' : AreMadeOf rs' ss' hs') :
    AreMadeOf (rs ++ rs') (ss ++ ss') (hs ++ hs') where
  scalars := by rw [List.filter_append, h.scalars, h'.scalars, List.map_append]
  histograms := by rw [List.filter_append, h.histograms, h'.histograms, List.map_append]

theorem areMadeOf_map (ss : List Scalar) (hs : List HistogramReading) :
    AreMadeOf (ss.map .scalar ++ hs.map .histogram) ss hs where
  scalars := by simp [List.filter_map, Function.comp_def, Reading.isScalar]
  histograms := by simp [List.filter_map, Function.comp_def, Reading.isScalar]

theorem AreMadeOf.arranged_eq {rs : List Reading} {ss : List Scalar} {hs : List HistogramReading}
    (h : AreMadeOf rs ss hs) :
    arranged rs = (groupsBy (fun r => r.name) ss).map (List.map .scalar) ++
      (groupsBy (fun r => r.name) hs).map (List.map .histogram) := by
  rw [arranged, h.scalars, h.histograms, groupsBy_map, groupsBy_map]
  rfl

end MetricRelay.Intake
