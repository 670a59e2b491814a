/-
Maps whose keys are distinct.

A map in which no key occurs twice is what its lookups say.  Where `==` is equality:

* `get?_eq_some_iff` — a key has a value exactly if the entry is in the map;
* `get?_filterMap`, `get?_filter` — a lookup after entries are changed or left out;
* `nodup_keys_put`, `nodup_keys_filterMap` — keys stay distinct;
* `eq_of_get?` — keys in order and lookups determine a map;
* `keys_ofEntries_append` — how the keys of entries continue those of earlier ones.

Keys with an equivalence only, such as doubles, need no more for `get?_of_mem`, `get?_ofEntries`,
`keys_ofEntries` and `eraseDups_append`: of entries that are written one after the other the last
one of a key gives its value, and the first one its place.  `forall_mem_put` needs nothing: what all
values and a new one have, all values of the new map have.
-/
import Mathlib.Data.List.Induction
import Mathlib.Data.List.Nodup
import MetricRelay.Assoc

namespace MetricRelay.Assoc

variable {κ α β : Type} [BEq κ]

theorem get?_put [LawfulBEq κ] [DecidableEq κ] (m : Assoc κ α) (k l : κ) (v : α) :
    get? (put m k v) l = if k = l then some v else get? m l := by
  by_cases h : k = l
  · rw [if_pos h, ← h, get?_put_self]
  · rw [if_neg h, get?_put_of_ne _ (by simpa using h)]

theorem get?_congr [PartialEquivBEq κ] (m : Assoc κ α) {k l : κ} (h : (k == l) = true) :
    get? m k = get? m l := by
  induction m with
  | nil => rfl
  | cons e m ih => rw [get?_cons, get?_cons, BEq.congr_right h, ih]

theorem has_put [PartialEquivBEq κ] (m : Assoc κ α) (k l : κ) (v : α) :
    has (put m k v) l = ((k == l) || has m l) := by
  rw [has_eq_any, keys_put]
  split
  · next h =>
    rw [← has_eq_any]
    cases hkl : k == l with
    | false => rw [Bool.false_or]
    | true => rw [Bool.true_or, has, ← get?_congr m hkl, ← has, h]
  · rw [List.any_append, ← has_eq_any, List.any_cons, List.any_nil, Bool.or_false, Bool.or_comm]

theorem put_eq_append {m : Assoc κ α} {k : κ} (h : has m k = false) (v : α) :
    put m k v = m ++ [(k, v)] := by
  induction m with
  | nil => rfl
  | cons e m ih =>
    rw [has_eq_any, keys_cons, List.any_cons, Bool.or_eq_false_iff, ← has_eq_any] at h
    rw [put, if_neg (by simp [h.1]), ih h.2, List.cons_append]

theorem get?_put_eq [PartialEquivBEq κ] (m : Assoc κ α) (k l : κ) (v : α) :
    get? (put m k v) l = if k == l then some v else get? m l := by
  cases hkl : k == l with
  | false => rw [get?_put_of_ne m hkl, if_neg (by decide)]
  | true =>
    -- a key that another one equals is equal to itself
    rw [if_pos rfl]
    induction m with
    | nil => rw [put, get?_cons, if_pos hkl]
    | cons e m ih =>
      rw [put]
      split
      · next he => rw [get?_cons, if_pos (PartialEquivBEq.trans he hkl)]
      · next he =>
        have hne : ¬(e.1 == l) = true := fun h =>
          he (PartialEquivBEq.trans h (PartialEquivBEq.symm hkl))
        rw [get?_cons, if_neg hne, ih]

theorem get?_of_mem [PartialEquivBEq κ] {m : Assoc κ α}
    (hm : (keys m).Pairwise fun k l => (k == l) = false) {e : κ × α} (he : e ∈ m) {l : κ}
    (hl : (e.1 == l) = true) : get? m l = some e.2 := by
  induction m with
  | nil => cases he
  | cons d m ih =>
    rw [keys_cons, List.pairwise_cons] at hm
    rw [get?_cons]
    rcases List.mem_cons.mp he with rfl | he
    · rw [if_pos hl]
    · -- the first key differs from this one and so from all that are equal to it
      have hd : (d.1 == e.1) = false := hm.1 e.1 (List.mem_map_of_mem (f := Prod.fst) he)
      have hdl : ¬(d.1 == l) = true := by
        intro h
        rw [PartialEquivBEq.trans h (PartialEquivBEq.symm hl)] at hd
        cases hd
      rw [if_neg hdl]
      exact ih hm.2 he

theorem get?_eq_none {m : Assoc κ α} {l : κ} (h : ∀ k ∈ keys m, (k == l) = false) :
    get? m l = none := by
  induction m with
  | nil => rfl
  | cons d m ih =>
    rw [get?_cons, if_neg (by simp [h d.1 List.mem_cons_self])]
    exact ih fun k hk => h k (List.mem_cons_of_mem _ hk)

theorem mem_put {m : Assoc κ α} {k : κ} {v : α} {e : κ × α} (h : e ∈ put m k v) :
    e ∈ m ∨ e.2 = v := by
  induction m with
  | nil => exact Or.inr (by simp_all [put])
  | cons d m ih =>
    simp only [put] at h
    split at h
    · rcases List.mem_cons.mp h with rfl | h
      · exact Or.inr rfl
      · exact Or.inl (List.mem_cons_of_mem _ h)
    · rcases List.mem_cons.mp h with rfl | h
      · exact Or.inl List.mem_cons_self
      · exact (ih h).imp (List.mem_cons_of_mem _) id

theorem forall_mem_put {p : α → Prop} {m : Assoc κ α} {k : κ} {v : α} (hm : ∀ e ∈ m, p e.2)
    (hv : p v) : ∀ e ∈ put m k v, p e.2 := by
  intro e he
  rcases mem_put he with h | h
  · exact hm e h
  · rw [h]
    exact hv

theorem mem_of_get? [LawfulBEq κ] {m : Assoc κ α} {k : κ} {v : α} (h : get? m k = some v) :
    (k, v) ∈ m := by
  induction m with
  | nil => simp at h
  | cons e m ih =>
    rw [get?_cons] at h
    split at h
    · next hk =>
      rw [← eq_of_beq hk, ← Option.some.inj h]
      exact List.mem_cons_self
    · exact List.mem_cons_of_mem _ (ih h)

theorem get?_eq_some_iff [LawfulBEq κ] {m : Assoc κ α} (hm : (keys m).Nodup) {k : κ} {v : α} :
    get? m k = some v ↔ (k, v) ∈ m := by
  refine ⟨mem_of_get?, fun h => ?_⟩
  induction m with
  | nil => simp at h
  | cons e m ih =>
    rw [keys_cons, List.nodup_cons] at hm
    rcases List.mem_cons.mp h with rfl | h
    · rw [get?_cons, if_pos (by simp)]
    · -- the first key is another one, since it does not occur again
      have hk : e.1 ≠ k := by
        intro hk
        rw [hk] at hm
        exact hm.1 (List.mem_map_of_mem (f := Prod.fst) h)
      rw [get?_cons, if_neg (by simpa using hk)]
      exact ih hm.2 h

theorem nodup_keys_put [LawfulBEq κ] {m : Assoc κ α} (hm : (keys m).Nodup) (k : κ) (v : α) :
    (keys (put m k v)).Nodup := by
  rw [keys_put]
  split
  · exact hm
  · next h =>
    rw [has_iff_mem] at h
    rw [List.nodup_append]
    refine ⟨hm, List.nodup_singleton k, fun a ha b hb => ?_⟩
    rw [List.mem_singleton.mp hb]
    exact fun hab => h (hab ▸ ha)

section FilterMap

variable {f : κ × α → Option (κ × β)} (hf : ∀ e d, f e = some d → d.1 = e.1)
include hf

omit [BEq κ] in
/-- Changed entries that keep their keys keep the order of the keys. -/
theorem keys_filterMap_sublist (m : Assoc κ α) :
    (keys (m.filterMap f : Assoc κ β)).Sublist (keys m) := by
  induction m with
  | nil => exact List.Sublist.refl _
  | cons e m ih =>
    rw [List.filterMap_cons]
    split
    · exact ih.cons _
    · next d hd =>
      rw [keys_cons, keys_cons, hf e d hd]
      exact ih.cons_cons _

omit [BEq κ] in
theorem nodup_keys_filterMap {m : Assoc κ α} (hm : (keys m).Nodup) :
    (keys (m.filterMap f : Assoc κ β)).Nodup :=
  hm.sublist (keys_filterMap_sublist hf m)

theorem get?_filterMap [LawfulBEq κ] {m : Assoc κ α} (hm : (keys m).Nodup) (k : κ) :
    get? (m.filterMap f : Assoc κ β) k = (get? m k).bind fun v => (f (k, v)).map Prod.snd := by
  have hn := nodup_keys_filterMap hf hm
  refine Option.ext fun w => ?_
  rw [get?_eq_some_iff hn, List.mem_filterMap]
  simp only [Option.bind_eq_some_iff, Option.map_eq_some_iff]
  constructor
  · rintro ⟨⟨l, v⟩, he, hw⟩
    obtain rfl : k = l := hf _ _ hw
    exact ⟨v, (get?_eq_some_iff hm).mpr he, (k, w), hw, rfl⟩
  · rintro ⟨v, hv, ⟨l, u⟩, hu, rfl⟩
    obtain rfl : l = k := hf _ _ hu
    exact ⟨(l, v), mem_of_get? hv, hu⟩

end FilterMap

omit [BEq κ] in
theorem nodup_keys_filter {m : Assoc κ α} (hm : (keys m).Nodup) (p : κ × α → Bool) :
    (keys (m.filter p : Assoc κ α)).Nodup :=
  hm.sublist (List.filter_sublist.map _)

theorem get?_filter [LawfulBEq κ] {m : Assoc κ α} (hm : (keys m).Nodup) (p : α → Bool) (k : κ) :
    get? (m.filter fun e => p e.2 : Assoc κ α) k = (get? m k).filter p := by
  refine Option.ext fun v => ?_
  rw [get?_eq_some_iff (nodup_keys_filter hm _), List.mem_filter, Option.filter_eq_some_iff,
    get?_eq_some_iff hm]

theorem put_eq_self [LawfulBEq κ] {m : Assoc κ α} {k : κ} {v : α} (h : get? m k = some v) :
    put m k v = m := by
  induction m with
  | nil => simp at h
  | cons e m ih =>
    rw [get?_cons] at h
    rw [put]
    by_cases hk : e.1 == k
    · rw [if_pos hk] at h
      rw [if_pos hk, ← Option.some.inj h]
    · rw [if_neg hk] at h
      rw [if_neg hk, ih h]

/-- A map that gives equal keys equal values. -/
theorem get?_map_keys [PartialEquivBEq κ] {f : κ → α} {l : κ}
    (hf : ∀ k, (k == l) = true → f k = f l) (ks : List κ) :
    get? (ks.map fun k => (k, f k) : Assoc κ α) l = if ks.any (fun k => k == l) then some (f l)
    else none := by
  induction ks with
  | nil => rfl
  | cons k ks ih =>
    rw [List.map_cons, get?_cons, ih, List.any_cons]
    cases hk : k == l with
    | false => simp
    | true => simp [hf k hk]

theorem get?_append (m n : Assoc κ α) (k : κ) :
    get? (m ++ n : Assoc κ α) k = (get? m k).or (get? n k) := by
  induction m with
  | nil => rfl
  | cons e m ih =>
    rw [List.cons_append, get?_cons, get?_cons]
    split
    · rfl
    · exact ih

theorem get?_putNew [PartialEquivBEq κ] (m : Assoc κ α) (k l : κ) (v : α) :
    get? (putNew m k v) l = (get? m l).or (if k == l then some v else none) := by
  rw [putNew]
  split
  · next h =>
    by_cases hk : (k == l) = true
    · rw [has, get?_congr m hk] at h
      rw [Option.or_of_isSome h]
    · rw [if_neg hk, Option.or_none]
  · rw [get?_append, get?_cons, get?_nil]

/-- Entries that are left out by their keys do not matter to the other keys. -/
theorem get?_filter_key [LawfulBEq κ] (m : Assoc κ α) {p : κ → Bool} {k : κ} (hk : p k = true) :
    get? (m.filter fun e => p e.1 : Assoc κ α) k = get? m k := by
  induction m with
  | nil => rfl
  | cons e m ih =>
    rw [List.filter_cons]
    by_cases he : e.1 == k
    · rw [if_pos (by rw [eq_of_beq he, hk]), get?_cons, get?_cons, if_pos he, if_pos he]
    · split
      · rw [get?_cons, get?_cons, if_neg he, if_neg he, ih]
      · rw [get?_cons, if_neg he, ih]

theorem get?_eq_none_iff [LawfulBEq κ] {m : Assoc κ α} {k : κ} : get? m k = none ↔ k ∉ keys m := by
  rw [← has_iff_mem, has, Option.isSome_iff_ne_none, not_not]

/-- What is found under a key is its first entry. -/
theorem exists_split [LawfulBEq κ] {m : Assoc κ α} {k : κ} {v : α} (h : get? m k = some v) :
    ∃ before after, m = before ++ (k, v) :: after ∧ k ∉ keys before := by
  induction m with
  | nil => cases h
  | cons e m ih =>
    rw [get?_cons] at h
    split at h
    · next he =>
      obtain rfl := Option.some.inj h
      exact ⟨[], m, by rw [← eq_of_beq he]; rfl, List.not_mem_nil⟩
    · next he =>
      obtain ⟨before, after, rfl, hnot⟩ := ih h
      have hne : k ≠ e.1 := fun heq => he (beq_iff_eq.mpr heq.symm)
      exact ⟨e :: before, after, rfl, List.not_mem_cons_of_ne_of_not_mem hne hnot⟩

theorem get?_split [LawfulBEq κ] {before : Assoc κ α} {k : κ} (h : k ∉ keys before) (v : α)
    (after : Assoc κ α) : get? (before ++ (k, v) :: after : Assoc κ α) k = some v := by
  rw [get?_append, get?_eq_none_iff.mpr h, Option.none_or, get?_cons, if_pos BEq.rfl]

/-- A key is written in its place. -/
theorem put_split [LawfulBEq κ] {before : Assoc κ α} {k : κ} (h : k ∉ keys before) (v w : α)
    (after : Assoc κ α) :
    put (before ++ (k, v) :: after : Assoc κ α) k w = before ++ (k, w) :: after := by
  induction before with
  | nil => rw [List.nil_append, put, if_pos BEq.rfl, List.nil_append]
  | cons e before ih =>
    have hne : ¬(e.1 == k) = true := fun he => List.ne_of_not_mem_cons h (eq_of_beq he).symm
    rw [List.cons_append, put, if_neg hne, ih (List.not_mem_of_not_mem_cons h), List.cons_append]

/-- A key that is not there is written last. -/
theorem put_of_not_mem [LawfulBEq κ] {m : Assoc κ α} {k : κ} (h : k ∉ keys m) (v : α) :
    put m k v = m ++ [(k, v)] :=
  put_eq_append (by rw [has, get?_eq_none_iff.mpr h, Option.isSome_none]) v

/-! ### Maps with the same lookups -/

/-- Maps with the same keys in one order, no two of them equal, are the same if the lookups of keys
and the entries are the same whose key is not even equal to itself. -/
theorem eq_of_get?_of_filter [PartialEquivBEq κ] {m n : Assoc κ α}
    (hm : (keys m).Pairwise fun k l => (k == l) = false) (hkeys : keys m = keys n)
    (hget : ∀ k ∈ keys m, (k == k) = true → get? m k = get? n k)
    (hrest : (m.filter fun e => !(e.1 == e.1)) = n.filter fun e => !(e.1 == e.1)) : m = n := by
  induction m generalizing n with
  | nil => exact (List.map_eq_nil_iff.mp hkeys.symm).symm
  | cons e m ih =>
    obtain ⟨d, n, rfl⟩ : ∃ d n', n = d :: n' :=
      List.exists_cons_of_ne_nil fun hn => by simp [hn] at hkeys
    rw [keys_cons, keys_cons] at hkeys
    obtain ⟨hkey, hkeys⟩ := List.cons.inj hkeys
    rw [keys_cons, List.pairwise_cons] at hm
    have hlater : ∀ k ∈ keys m, (k == k) = true → get? m k = get? n k := by
      intro k hk hself
      have hne : ¬(e.1 == k) = true := by rw [hm.1 k hk]; exact Bool.false_ne_true
      have h := hget k (List.mem_cons_of_mem _ hk) hself
      rwa [get?_cons, get?_cons, if_neg hne, if_neg (hkey ▸ hne)] at h
    rw [List.filter_cons, List.filter_cons, ← hkey] at hrest
    -- the first entries are found by their key, or they are the first of the others
    cases hself : e.1 == e.1 with
    | true =>
      have hfirst := hget e.1 List.mem_cons_self hself
      rw [get?_cons, get?_cons, if_pos hself, if_pos (hkey ▸ hself)] at hfirst
      rw [hself] at hrest
      rw [ih hm.2 hkeys hlater hrest, Prod.ext hkey (Option.some.inj hfirst)]
    | false =>
      rw [hself] at hrest
      obtain ⟨hed, hrest⟩ := List.cons.inj hrest
      rw [ih hm.2 hkeys hlater hrest, hed]

/-- Maps with the same distinct keys in one order are the same if their lookups are. -/
theorem eq_of_get? [LawfulBEq κ] {m n : Assoc κ α} (hm : (keys m).Nodup) (hkeys : keys m = keys n)
    (h : ∀ k, get? m k = get? n k) : m = n := by
  have hnone : ∀ es : Assoc κ α, (es.filter fun e => !(e.1 == e.1)) = [] := fun es =>
    List.filter_eq_nil_iff.mpr fun e _ => by simp
  refine eq_of_get?_of_filter ?_ hkeys (fun k _ _ => h k) ((hnone m).trans (hnone n).symm)
  exact hm.imp fun hne => beq_eq_false_iff_ne.mpr hne

/-! ### Keys without repetitions -/

theorem eraseDups_sublist (ks : List κ) : ks.eraseDups.Sublist ks := by
  induction hn : ks.length using Nat.strongRecOn generalizing ks with
  | ind n ih =>
    cases ks with
    | nil => exact List.Sublist.refl _
    | cons k ks =>
      have hshorter : (ks.filter fun l => !l == k).length < n :=
        hn ▸ Nat.lt_succ_of_le (List.length_filter_le _ ks)
      rw [List.eraseDups_cons]
      exact ((ih _ hshorter _ rfl).trans List.filter_sublist).cons_cons k

/-- Of the keys that are left no two are equal. -/
theorem pairwise_eraseDups [PartialEquivBEq κ] (ks : List κ) :
    ks.eraseDups.Pairwise fun k l => (k == l) = false := by
  induction hn : ks.length using Nat.strongRecOn generalizing ks with
  | ind n ih =>
    cases ks with
    | nil => exact List.Pairwise.nil
    | cons k ks =>
      have hshorter : (ks.filter fun l => !l == k).length < n :=
        hn ▸ Nat.lt_succ_of_le (List.length_filter_le _ ks)
      rw [List.eraseDups_cons]
      refine List.pairwise_cons.mpr ⟨fun l hl => ?_, ih _ hshorter _ rfl⟩
      have hne := (List.mem_filter.mp ((eraseDups_sublist _).subset hl)).2
      rw [BEq.comm]
      simpa using hne

/-- Of later keys those are added that are equal to none of the earlier ones. -/
theorem eraseDups_append [PartialEquivBEq κ] (ks ls : List κ) :
    (ks ++ ls).eraseDups
      = ks.eraseDups ++ (ls.filter fun l => !ks.any fun k => k == l).eraseDups := by
  induction hn : ks.length using Nat.strongRecOn generalizing ks ls with
  | ind n ih =>
    cases ks with
    | nil => simp
    | cons k ks =>
      have hshorter : (ks.filter fun l => !l == k).length < n :=
        hn ▸ Nat.lt_succ_of_le (List.length_filter_le _ ks)
      rw [List.cons_append, List.eraseDups_cons, List.filter_append, ih _ hshorter _ _ rfl,
        List.eraseDups_cons, List.filter_filter, List.cons_append]
      congr 4
      funext l
      rw [List.any_filter, List.any_cons, Bool.eq_iff_iff]
      simp only [Bool.and_eq_true, Bool.not_eq_true', Bool.or_eq_false_iff, List.any_eq_false,
        Bool.not_eq_true]
      rw [BEq.comm (a := l), and_comm, and_congr_right_iff]
      intro hkl
      refine forall₂_congr fun j _ => ?_
      cases hjk : j == k with
      | false => simp
      | true =>
        -- what is equal to the first key is not equal to a key that differs from it
        have hjl : (j == l) = false := (BEq.congr_left hjk).trans hkl
        simp [hjl]

theorem any_eraseDups [PartialEquivBEq κ] (ks : List κ) (l : κ) :
    (ks.eraseDups.any fun k => k == l) = ks.any fun k => k == l := by
  induction ks using List.reverseRecOn with
  | nil => simp
  | append_singleton ks k ih =>
    rw [eraseDups_append, List.any_append, List.any_append, ih, List.filter_cons, List.filter_nil]
    cases hk : ks.any fun j => j == k with
    | false => simp [List.eraseDups_cons]
    | true =>
      -- the key is left out because an equal one is there
      cases hkl : k == l with
      | false => simp [hkl]
      | true =>
        obtain ⟨j, hj, hjk⟩ := List.any_eq_true.mp hk
        have hany : (ks.any fun j => j == l) = true :=
          List.any_eq_true.mpr ⟨j, hj, PartialEquivBEq.trans hjk hkl⟩
        simp [hany]

/-- A key that is new behind some keys is the last of all keys exactly if no later one is new. -/
theorem getLast?_eraseDups_eq_iff [PartialEquivBEq κ] {front back : List κ} {k : κ}
    (hself : (k == k) = true) (hfront : (front.any fun l => l == k) = false) :
    (front ++ k :: back).eraseDups.getLast? = some k ↔
      ∀ l ∈ back, ((front ++ [k]).any fun j => j == l) = true := by
  have hlast : (front ++ [k]).eraseDups.getLast? = some k := by
    rw [eraseDups_append, List.filter_cons_of_pos (by rw [hfront]; rfl), List.filter_nil,
      List.eraseDups_cons, List.filter_nil, List.eraseDups_nil, List.getLast?_concat]
  rw [List.append_cons, eraseDups_append, List.getLast?_append, hlast]
  constructor
  · intro h l hl
    by_contra hnot
    have hl : l ∈ back.filter fun l => !(front ++ [k]).any fun j => j == l :=
      List.mem_filter.mpr ⟨hl, by simpa using hnot⟩
    obtain ⟨z, zs, hz⟩ := List.exists_cons_of_ne_nil (List.ne_nil_of_mem hl)
    have hne : (back.filter fun l => !(front ++ [k]).any fun j => j == l).eraseDups ≠ [] := by
      rw [hz, List.eraseDups_cons]
      exact List.cons_ne_nil _ _
    -- the last of the new keys would be the key in question, which is not new
    have hmem := (List.mem_filter.mp ((eraseDups_sublist _).subset (List.getLast_mem hne))).2
    rw [List.getLast?_eq_some_getLast hne, Option.some_or] at h
    rw [Option.some.inj h, List.any_append, List.any_cons, hself] at hmem
    simp at hmem
  · intro h
    have hnone : (back.filter fun l => !(front ++ [k]).any fun j => j == l) = [] :=
      List.filter_eq_nil_iff.mpr fun l hl => by simp [h l hl]
    rw [hnone]
    rfl

/-! ### Entries written one after the other -/

section OfEntries

theorem ofEntries_append (es fs : List (κ × α)) :
    ofEntries (es ++ fs) = fs.foldl (fun m e => put m e.1 e.2) (ofEntries es) :=
  List.foldl_append

theorem ofEntries_concat (es : List (κ × α)) (e : κ × α) :
    ofEntries (es ++ [e]) = put (ofEntries es) e.1 e.2 :=
  ofEntries_append es [e]

section

variable [PartialEquivBEq κ]

/-- The last entry of a key counts. -/
theorem get?_ofEntries (es : List (κ × α)) (k : κ) :
    get? (ofEntries es) k = get? es.reverse k := by
  induction es using List.reverseRecOn with
  | nil => rfl
  | append_singleton es e ih =>
    rw [ofEntries_concat, get?_put_eq, ih, List.reverse_append, List.reverse_singleton,
      List.singleton_append, get?_cons]

theorem get?_ofEntries_of_last {front back : List (κ × α)} {e : κ × α} {k : κ}
    (he : (e.1 == k) = true) (hback : ∀ d ∈ back, (d.1 == k) = false) :
    get? (ofEntries (front ++ e :: back)) k = some e.2 := by
  have hnone : get? (back.reverse : Assoc κ α) k = none := by
    refine get?_eq_none fun l hl => ?_
    obtain ⟨d, hd, rfl⟩ := List.mem_map.mp hl
    exact hback d (List.mem_reverse.mp hd)
  rw [get?_ofEntries, List.reverse_append, List.reverse_cons, List.append_assoc, get?_append, hnone,
    Option.none_or, List.singleton_append, get?_cons, if_pos he]

theorem keys_foldl_put (m : Assoc κ α) (es : List (κ × α)) :
    keys (es.foldl (fun m e => put m e.1 e.2) m)
      = keys m ++ ((keys es).filter fun k => !has m k).eraseDups := by
  induction es generalizing m with
  | nil => simp [List.eraseDups_nil]
  | cons e es ih =>
    rw [List.foldl_cons, ih, keys_put, keys_cons]
    by_cases h : has m e.1 = true
    · rw [if_pos h, List.filter_cons_of_neg (by simp [h])]
      congr 3
      funext k
      rw [has_put]
      cases hk : e.1 == k with
      | false => rfl
      | true => rw [Bool.true_or, ← h, has, has, get?_congr m hk]
    · rw [if_neg h, List.filter_cons_of_pos (by simp [h]), List.eraseDups_cons, List.filter_filter,
        List.append_assoc, List.singleton_append]
      congr 4
      funext k
      rw [has_put, Bool.not_or, BEq.comm]

/-- The keys are those of the entries, each at its first place. -/
theorem keys_ofEntries (es : List (κ × α)) :
    keys (ofEntries es) = (keys es).eraseDups := by
  rw [ofEntries, keys_foldl_put, keys_nil, List.nil_append]
  congr 1
  exact List.filter_eq_self.mpr fun k _ => rfl

/-- An entry whose key is not equal to itself is put behind all others. -/
theorem filter_put (m : Assoc κ α) (k : κ) (v : α) :
    ((put m k v).filter fun e => !(e.1 == e.1))
      = (m.filter fun e => !(e.1 == e.1)) ++ [(k, v)].filter fun e => !(e.1 == e.1) := by
  induction m with
  | nil => rfl
  | cons e m ih =>
    rw [put]
    split
    · next he =>
      have hself : (e.1 == e.1) = true := PartialEquivBEq.trans he (PartialEquivBEq.symm he)
      have hkself : (k == k) = true := PartialEquivBEq.trans (PartialEquivBEq.symm he) he
      simp [hself, hkself]
    · rw [← List.singleton_append, List.filter_append, ih, ← List.append_assoc,
        ← List.filter_append, List.singleton_append]

/-- Entries whose key is not equal to itself are all kept. -/
theorem filter_ofEntries (es : List (κ × α)) :
    ((ofEntries es).filter fun e => !(e.1 == e.1)) = es.filter fun e => !(e.1 == e.1) := by
  induction es using List.reverseRecOn with
  | nil => rfl
  | append_singleton es e ih => rw [ofEntries_concat, filter_put, ih, List.filter_append]

end

theorem ofEntries_eq_self {es : List (κ × α)}
    (h : (keys es).Pairwise fun k l => (k == l) = false) : ofEntries es = es := by
  induction es using List.reverseRecOn with
  | nil => rfl
  | append_singleton es e ih =>
    rw [keys, List.map_append, List.pairwise_append] at h
    obtain ⟨hes, -, hlast⟩ := h
    rw [ofEntries_concat, ih hes, put_eq_append]
    rw [has_eq_any, List.any_eq_false]
    intro k hk
    simp [hlast k hk e.1 (by simp)]

variable [LawfulBEq κ]

theorem nodup_keys_ofEntries (es : List (κ × α)) : (keys (ofEntries es)).Nodup := by
  induction es using List.reverseRecOn with
  | nil => exact List.nodup_nil
  | append_singleton es e ih =>
    rw [ofEntries_concat]
    exact nodup_keys_put ih e.1 e.2

theorem mem_of_mem_ofEntries {es : List (κ × α)} {e : κ × α} (h : e ∈ ofEntries es) : e ∈ es := by
  have hget : get? (ofEntries es) e.1 = some e.2 :=
    (get?_eq_some_iff (nodup_keys_ofEntries es)).mpr h
  rw [get?_ofEntries] at hget
  exact List.mem_reverse.mp (mem_of_get? hget)

theorem mem_keys_ofEntries {es : List (κ × α)} {k : κ} : k ∈ keys (ofEntries es) ↔ k ∈ keys es := by
  rw [← has_iff_mem, has, get?_ofEntries, ← has, has_iff_mem, keys, List.map_reverse,
    List.mem_reverse, keys]

/-- The keys of later entries come after the earlier ones, except those that are there already. -/
theorem keys_ofEntries_append (es fs : List (κ × α)) :
    keys (ofEntries (es ++ fs)) =
      keys (ofEntries es) ++ keys (ofEntries (fs.filter fun e => !(keys es).contains e.1)) := by
  -- on the later entries, the last one apart: its key is among the earlier ones, or later ones, or
  -- new
  induction fs using List.reverseRecOn with
  | nil => simp [ofEntries]
  | append_singleton fs e ih =>
    have hmem : has (ofEntries (es ++ fs)) e.1 = true ↔ e.1 ∈ keys es ∨ e.1 ∈ keys fs := by
      rw [has_iff_mem, mem_keys_ofEntries, keys, List.map_append, List.mem_append]
      rfl
    rw [← List.append_assoc, ofEntries_concat, keys_put, ih, List.filter_append]
    by_cases hes : e.1 ∈ keys es
    · rw [if_pos (hmem.mpr (Or.inl hes)), List.filter_cons_of_neg (by simpa using hes),
        List.filter_nil, List.append_nil]
    · have hnew : has (ofEntries (fs.filter fun e => !(keys es).contains e.1)) e.1 = true ↔
          e.1 ∈ keys fs := by
        rw [has_iff_mem, mem_keys_ofEntries]
        constructor
        · exact fun h => List.filter_sublist.map _ |>.subset h
        · intro h
          obtain ⟨f, hf, hk⟩ := List.mem_map.mp h
          refine List.mem_map.mpr ⟨f, List.mem_filter.mpr ⟨hf, ?_⟩, hk⟩
          rw [hk]
          simpa using hes
      rw [List.filter_cons_of_pos (by simpa using hes), List.filter_nil, ofEntries_concat, keys_put]
      by_cases hfs : e.1 ∈ keys fs
      · rw [if_pos (hmem.mpr (Or.inr hfs)), if_pos (hnew.mpr hfs)]
      · rw [if_neg fun h => (hmem.mp h).elim hes hfs, if_neg fun h => hfs (hnew.mp h),
          List.append_assoc]

end OfEntries

end MetricRelay.Assoc
