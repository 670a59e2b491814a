/-
Descriptors under the names of their types.

Descriptors get names if all their types can be names, and of those with one name the first gives
the place and the last is the one that counts:

* `keyed_eq_ok_iff` — when descriptors have names, and which;
* `unique_eq_ok_iff` — what is left when each name occurs once;
* `nodup_typeKeys_of_unique`, `mem_typeKeys_of_unique` — the same names are left, each one once.
-/
import MetricRelay.Proofs.Assoc
import MetricRelay.Proofs.Except
import MetricRelay.Scrape.Unit

namespace MetricRelay

theorem Json.asKey_eq_ok_iff {v : Json} {key : Json.Key} :
    v.asKey = .ok key ↔ v.key? = some key := by
  rw [Json.asKey]
  cases v.key? <;> simp

namespace Scrape

open Monitoring

/-- The names that the types of descriptors are. -/
def typeKeys (ds : List Descriptor) : List Json.Key :=
  ds.filterMap fun d => d.type.key?

theorem typeKeys_cons {d : Descriptor} {type : Json.Key} (hd : d.type.asKey = .ok type)
    (ds : List Descriptor) : typeKeys (d :: ds) = type :: typeKeys ds :=
  List.filterMap_cons_some (f := fun d : Descriptor => d.type.key?) (Json.asKey_eq_ok_iff.mp hd)

theorem typeKeys_append (ds es : List Descriptor) :
    typeKeys (ds ++ es) = typeKeys ds ++ typeKeys es :=
  List.filterMap_append

theorem mem_typeKeys {ds : List Descriptor} {type : Json.Key} :
    type ∈ typeKeys ds ↔ ∃ d ∈ ds, d.type.asKey = .ok type := by
  rw [typeKeys, List.mem_filterMap]
  simp only [Json.asKey_eq_ok_iff]

/-- Descriptors among whose names a name is not have other names. -/
theorem exists_other_of_not_mem {ds : List Descriptor} {type : Json.Key} (h : type ∉ typeKeys ds)
    (hds : ∀ d ∈ ds, ∃ other, d.type.asKey = .ok other) :
    ∀ d ∈ ds, ∃ other, d.type.asKey = .ok other ∧ type ≠ other := by
  intro d hd
  obtain ⟨other, hother⟩ := hds d hd
  refine ⟨other, hother, ?_⟩
  rintro rfl
  exact h (mem_typeKeys.mpr ⟨d, hd, hother⟩)

/-- Descriptors whose names are distinct have distinct types. -/
theorem nodup_types {ds : List Descriptor} (hds : ∀ d ∈ ds, ∃ type, d.type.asKey = .ok type)
    (h : (typeKeys ds).Nodup) : (ds.map Descriptor.type).Nodup := by
  refine List.pairwise_map.mpr
    ((List.pairwise_filterMap.mp h).imp_of_mem fun {d e} hd _ hne heq => ?_)
  obtain ⟨type, htype⟩ := hds d hd
  rw [Json.asKey_eq_ok_iff] at htype
  exact hne type htype type (heq ▸ htype) rfl

/-- Every entry has the name of its descriptor's type. -/
def IsNamed (entries : List (Json.Key × Descriptor)) : Prop :=
  ∀ e ∈ entries, e.2.type.asKey = .ok e.1

theorem keyed_cons_eq_ok_iff {d : Descriptor} {ds : List Descriptor}
    {entries : List (Json.Key × Descriptor)} :
    keyed (d :: ds) = .ok entries ↔
      ∃ type rest, d.type.asKey = .ok type ∧ keyed ds = .ok rest ∧ entries = (type, d) :: rest := by
  rw [keyed, List.mapM_cons, Except.bind_eq_ok_iff]
  simp only [Except.bind_eq_ok_iff]
  cases d.type.asKey with
  | error fault => simp [Except.map]
  | ok type =>
    constructor
    · rintro ⟨_, hd, rest, hrest, h⟩
      cases hd
      exact ⟨type, rest, rfl, hrest, (Except.ok.inj h).symm⟩
    · rintro ⟨_, rest, hd, hrest, rfl⟩
      cases hd
      exact ⟨_, rfl, rest, hrest, rfl⟩

/-- Descriptors have names if all their types can be names. -/
theorem keyed_eq_ok_iff {ds : List Descriptor} {entries : List (Json.Key × Descriptor)} :
    keyed ds = .ok entries ↔ entries.map Prod.snd = ds ∧ IsNamed entries := by
  induction ds generalizing entries with
  | nil =>
    constructor
    · intro h
      cases h
      exact ⟨rfl, fun e he => absurd he List.not_mem_nil⟩
    · rintro ⟨h, -⟩
      rw [List.map_eq_nil_iff.mp h]
      rfl
  | cons d ds ih =>
    rw [keyed_cons_eq_ok_iff]
    constructor
    · rintro ⟨type, rest, hd, hrest, rfl⟩
      obtain ⟨rfl, hnamed⟩ := ih.mp hrest
      exact ⟨rfl, List.forall_mem_cons.mpr ⟨hd, hnamed⟩⟩
    · rintro ⟨h, hnamed⟩
      obtain ⟨⟨type, _⟩, rest, rfl, rfl, hrest⟩ := List.map_eq_cons_iff.mp h
      obtain ⟨hd, hnamed⟩ := List.forall_mem_cons.mp hnamed
      exact ⟨type, rest, hd, ih.mpr ⟨hrest, hnamed⟩, rfl⟩

theorem exists_keyed_eq_ok {ds : List Descriptor}
    (h : ∀ d ∈ ds, ∃ type, d.type.asKey = .ok type) : ∃ entries, keyed ds = .ok entries := by
  induction ds with
  | nil => exact ⟨[], rfl⟩
  | cons d ds ih =>
    obtain ⟨⟨type, hd⟩, h⟩ := List.forall_mem_cons.mp h
    obtain ⟨rest, hrest⟩ := ih h
    exact ⟨(type, d) :: rest, keyed_cons_eq_ok_iff.mpr ⟨type, rest, hd, hrest, rfl⟩⟩

/-- The names of named descriptors are those of their types. -/
theorem IsNamed.typeKeys {entries : List (Json.Key × Descriptor)} (h : IsNamed entries) :
    typeKeys (entries.map Prod.snd) = Assoc.keys entries := by
  induction entries with
  | nil => rfl
  | cons e entries ih =>
    obtain ⟨he, h⟩ := List.forall_mem_cons.mp h
    rw [List.map_cons, typeKeys_cons he, ih h, Assoc.keys_cons]

theorem IsNamed.ofEntries {entries : List (Json.Key × Descriptor)} (h : IsNamed entries) :
    IsNamed (Assoc.ofEntries entries) :=
  fun e he => h e (Assoc.mem_of_mem_ofEntries he)

theorem IsNamed.append {entries more : List (Json.Key × Descriptor)} (h : IsNamed entries)
    (hmore : IsNamed more) : IsNamed (entries ++ more) :=
  List.forall_mem_append.mpr ⟨h, hmore⟩

theorem IsNamed.filter {entries : List (Json.Key × Descriptor)} (h : IsNamed entries)
    (p : Json.Key × Descriptor → Bool) : IsNamed (entries.filter p) :=
  fun e he => h e (List.mem_of_mem_filter he)

/-! ### Each name once -/

theorem unique_eq_ok_iff {ds us : List Descriptor} :
    unique ds = .ok us ↔
      ∃ entries, keyed ds = .ok entries ∧ us = (Assoc.ofEntries entries).map Prod.snd := by
  rw [unique]
  cases keyed ds with
  | error fault => simp [Except.map]
  | ok entries => simp [Except.map, eq_comm]

section

variable {ds us : List Descriptor} (h : unique ds = .ok us)
include h

theorem nodup_typeKeys_of_unique : (typeKeys us).Nodup := by
  obtain ⟨entries, hentries, rfl⟩ := unique_eq_ok_iff.mp h
  rw [((keyed_eq_ok_iff.mp hentries).2.ofEntries).typeKeys]
  exact Assoc.nodup_keys_ofEntries entries

theorem mem_typeKeys_of_unique {type : Json.Key} : type ∈ typeKeys us ↔ type ∈ typeKeys ds := by
  obtain ⟨entries, hentries, rfl⟩ := unique_eq_ok_iff.mp h
  obtain ⟨rfl, hnamed⟩ := keyed_eq_ok_iff.mp hentries
  rw [hnamed.ofEntries.typeKeys, hnamed.typeKeys]
  exact Assoc.mem_keys_ofEntries

theorem mem_of_mem_unique {d : Descriptor} (hd : d ∈ us) : d ∈ ds := by
  obtain ⟨entries, hentries, rfl⟩ := unique_eq_ok_iff.mp h
  obtain ⟨rfl, -⟩ := keyed_eq_ok_iff.mp hentries
  obtain ⟨e, he, rfl⟩ := List.mem_map.mp hd
  exact List.mem_map_of_mem (Assoc.mem_of_mem_ofEntries he)

theorem exists_asKey_of_unique {d : Descriptor} (hd : d ∈ us) :
    ∃ type, d.type.asKey = .ok type := by
  obtain ⟨entries, hentries, rfl⟩ := unique_eq_ok_iff.mp h
  obtain ⟨e, he, rfl⟩ := List.mem_map.mp hd
  exact ⟨e.1, (keyed_eq_ok_iff.mp hentries).2.ofEntries e he⟩

end

end Scrape

end MetricRelay
