/-
Each metric type is fetched once.

Within one prefix, a listing reports a type when it first meets it, and a cached list is reported
without its duplicates.  Across prefixes, the types under one are not under another, since the
prefixes of a configuration that passes are apart:

* `prefixEvents_cases` — a prefix is listed or taken from the cache;
* `Trace.lookup_eq` — the cache keeps what it has for other prefixes;
* `nodup_units_prefixesEvents`, `mem_units_prefixesEvents` — no type has two units, and each type
  that the scrape gets hold of has one;
* `nodup_types_runEvents` — the units of a scrape, for a configuration that passes.
-/
import MetricRelay.Proofs.Scrape.Listing
import MetricRelay.Proofs.Settings.Prefixes

namespace MetricRelay

open Monitoring Scrape

/-- Whatever a cache has for a prefix is under it. -/
def DescriptorCache.Honours (cache : DescriptorCache) (stem : String) : Prop :=
  ∀ now ds, cache.lookup now stem = some ds → ∀ d ∈ ds, IsUnder stem d

theorem DescriptorCache.lookup_store_of_ne (cache : DescriptorCache) {stem other : String}
    (hne : stem ≠ other) (now before : Float) (ds : List Descriptor) :
    (cache.store before stem ds).lookup now other = cache.lookup now other := by
  rw [store]
  split
  · simp only [lookup, keeps]
    rw [Assoc.get?_put_of_ne _ (by simpa using hne)]
    rfl
  · rfl

namespace Scrape

variable {src : Source} {p : Plan} {stem : String} {w w' : Work}

/-! ### The cache in the course of a scrape -/

theorem runUnit_cache (within : Window) (d : Descriptor) (w : Work) :
    (runUnit src p within d w).2.cache = w.cache := by
  rw [runUnit]
  split
  · rfl
  · next q hq =>
    obtain ⟨asked, meters, totals, hkeeps⟩ := addPages_keeps src src.limit q (.start p.options d) w
    dsimp only
    rw [finish]
    split <;> simp only [hkeeps]

/-- Events that offer nothing for a prefix to the cache change nothing that it has for it. -/
theorem Trace.lookup_eq {es : List Event} (h : Trace src p w es w')
    (hes : ∀ other ds, .stored other ds ∈ es → other ≠ stem) (now : Float) :
    w'.cache.lookup now stem = w.cache.lookup now stem := by
  induction h with
  | nil => rfl
  | cons hstep _ ih =>
    rw [ih fun other ds hmem => hes other ds (List.mem_cons_of_mem _ hmem)]
    cases hstep with
    | page => rfl
    | hit => rfl
    | unit => rw [runUnit_cache]
    | stored other ds =>
      exact DescriptorCache.lookup_store_of_ne _ (hes other ds List.mem_cons_self) now _ ds

/-- A listing offers descriptors for its own prefix only. -/
theorem Lists.stored {q : Query} {seen : List Json.Key} {listed : List Descriptor} {es : List Event}
    (h : Lists src p stem q seen listed es) : ∀ other ds, .stored other ds ∈ es → other = stem := by
  have hall : ∀ e ∈ es, ∀ other ds, e = .stored other ds → other = stem :=
    h.forall_mem (fun _ _ _ _ _ heq => by cases heq) (fun _ _ _ _ _ _ heq => by cases heq)
      (fun _ _ _ heq => by cases heq; rfl)
  exact fun other ds hmem => hall _ hmem other ds rfl

/-! ### The units of one prefix -/

/-- A prefix is listed, or taken from the cache and reported at once. -/
theorem prefixEvents_cases (src : Source) (p : Plan) (stem : String) (w : Work) :
    Lists src p stem ((descriptorQuery p.collection stem).forPage (.text "")) [] []
        (prefixEvents src p stem w) ∨
      ∃ ds, w.cache.lookup (src.clock w.asked) stem = some ds ∧
        prefixEvents src p stem w = .hit stem ds :: reportEvents src p ds w := by
  rw [prefixEvents]
  cases w.cache.lookup (src.clock w.asked) stem with
  | none => exact Or.inl (lists_listEvents src.limit (descriptorQuery p.collection stem) {} w)
  | some ds => exact Or.inr ⟨ds, rfl, rfl⟩

/-- The units of a report, if it has any, are for its descriptors, each type once. -/
theorem units_reportEvents (src : Source) (p : Plan) (ds : List Descriptor) (w : Work) :
    received (reportEvents src p ds w) = [] ∧
      (units (reportEvents src p ds w) = [] ∨
        unique ds = .ok (units (reportEvents src p ds w))) := by
  rcases report_cases src p ds w with ⟨us, within, hus, -, hevents, -⟩ | ⟨-, hevents, -⟩
  · rw [hevents, received_map_unit, units_map_unit]
    exact ⟨rfl, Or.inr hus⟩
  · rw [hevents]
    exact ⟨rfl, Or.inl rfl⟩

theorem prefixEvents_stored :
    ∀ other ds, .stored other ds ∈ prefixEvents src p stem w → other = stem := by
  rcases prefixEvents_cases src p stem w with h | ⟨ds, -, h⟩
  · exact h.stored
  · rw [h]
    intro other ds' hmem
    rcases List.mem_cons.mp hmem with hmem | hmem
    · cases hmem
    · rw [reportEvents] at hmem
      split at hmem
      · exact absurd hmem (stored_not_mem_units _ _ other ds')
      · exact absurd hmem List.not_mem_nil

theorem nodup_units_prefixEvents : (typeKeys (units (prefixEvents src p stem w))).Nodup := by
  rcases prefixEvents_cases src p stem w with h | ⟨ds, -, h⟩
  · exact h.nodup
  · rw [h]
    show (typeKeys (units (reportEvents src p ds w))).Nodup
    rcases (units_reportEvents src p ds w).2 with h | h
    · rw [h]
      exact List.nodup_nil
    · exact nodup_typeKeys_of_unique h

theorem units_prefixEvents_subset :
    units (prefixEvents src p stem w) ⊆ received (prefixEvents src p stem w) := by
  rcases prefixEvents_cases src p stem w with h | ⟨ds, -, h⟩
  · exact h.units_subset
  · rw [h]
    show units (reportEvents src p ds w) ⊆ ds ++ received (reportEvents src p ds w)
    rcases (units_reportEvents src p ds w).2 with h | h
    · rw [h]
      exact List.nil_subset _
    · exact fun d hd => List.mem_append_left _ (mem_of_mem_unique h hd)

theorem isUnder_prefixEvents (hsrc : src.Honours p.collection stem)
    (hcache : w.cache.Honours stem) :
    ∀ d ∈ received (prefixEvents src p stem w), IsUnder stem d := by
  rcases prefixEvents_cases src p stem w with h | ⟨ds, hlookup, h⟩
  · exact h.isUnder hsrc
  · rw [h]
    show ∀ d ∈ ds ++ received (reportEvents src p ds w), IsUnder stem d
    rw [(units_reportEvents src p ds w).1, List.append_nil]
    exact hcache _ ds hlookup

theorem mem_units_prefixEvents (hsrc : src.Honours p.collection stem)
    (hcache : w.cache.Honours stem) (hwindow : src.HasWindow p.collection) :
    ∀ type ∈ typeKeys (received (prefixEvents src p stem w)),
      type ∈ typeKeys (units (prefixEvents src p stem w)) := by
  rcases prefixEvents_cases src p stem w with h | ⟨ds, hlookup, h⟩
  · exact fun type htype => h.mem_units hsrc hwindow type htype List.not_mem_nil
  · obtain ⟨entries, hentries⟩ := exists_keyed_eq_ok fun d hd => (hcache _ ds hlookup d hd).asKey
    obtain ⟨hds, hnamed⟩ := keyed_eq_ok_iff.mp hentries
    obtain ⟨us, hus⟩ := exists_unique_eq_ok hnamed
    obtain ⟨within, hwithin⟩ := hwindow w.asked
    have hevents : reportEvents src p ds w = us.map (.unit within) := by
      rw [hds] at hus
      simp only [reportEvents, hus, hwithin]
    rw [h, hevents]
    show ∀ type ∈ typeKeys (ds ++ received (us.map (.unit within))),
      type ∈ typeKeys (units (us.map (.unit within)))
    rw [received_map_unit, List.append_nil, units_map_unit]
    intro type htype
    rw [← hds] at htype
    exact (mem_typeKeys_of_unique hus).mpr htype

/-! ### The units of a scrape -/

/-- What the cache has for another prefix stays while one is scraped. -/
theorem honours_runPrefix {other : String} (hne : stem ≠ other) (h : w.cache.Honours other) :
    (runPrefix src p stem w).2.cache.Honours other := by
  intro now ds hlookup
  have hsame : (runPrefix src p stem w).2.cache.lookup now other = w.cache.lookup now other :=
    (trace_runPrefix stem w).lookup_eq
      (fun first ds hmem => (prefixEvents_stored first ds hmem).trans_ne hne) now
  exact h now ds (hsame.symm.trans hlookup)

theorem ne_of_apart {stem other : String} (h : Settings.Apart stem other) : stem ≠ other := by
  rintro rfl
  exact h.left (List.prefix_refl _)

/-- What a scrape needs of its source and its cache: whatever these have for a prefix is under
it. -/
structure Honoured (src : Source) (p : Plan) (stems : List String) (w : Work) : Prop where
  source : ∀ stem ∈ stems, src.Honours p.collection stem
  cache : ∀ stem ∈ stems, w.cache.Honours stem

section

variable {stems : List String}

theorem Honoured.next (h : Honoured src p (stem :: stems) w)
    (hapart : (stem :: stems).Pairwise Settings.Apart) :
    Honoured src p stems (runPrefix src p stem w).2 where
  source other hother := h.source other (List.mem_cons_of_mem stem hother)
  cache other hother := honours_runPrefix
    (ne_of_apart ((List.pairwise_cons.mp hapart).1 other hother))
    (h.cache other (List.mem_cons_of_mem stem hother))

theorem units_prefixesEvents_subset :
    units (prefixesEvents src p stems w) ⊆ received (prefixesEvents src p stems w) := by
  induction stems generalizing w with
  | nil => exact List.Subset.refl _
  | cons stem stems ih =>
    rw [prefixesEvents, units_append, received_append]
    exact List.append_subset.mpr
      ⟨fun d hd => List.mem_append_left _ (units_prefixEvents_subset hd),
        fun d hd => List.mem_append_right _ (ih hd)⟩

/-- What is received for prefixes is under them. -/
theorem isUnder_prefixesEvents (hapart : stems.Pairwise Settings.Apart)
    (h : Honoured src p stems w) :
    ∀ d ∈ received (prefixesEvents src p stems w), ∃ stem ∈ stems, IsUnder stem d := by
  induction stems generalizing w with
  | nil => exact fun d hd => absurd hd List.not_mem_nil
  | cons stem stems ih =>
    rw [prefixesEvents, received_append]
    refine List.forall_mem_append.mpr ⟨fun d hd => ⟨stem, List.mem_cons_self, ?_⟩, fun d hd => ?_⟩
    · exact isUnder_prefixEvents (h.source stem List.mem_cons_self)
        (h.cache stem List.mem_cons_self) d hd
    · obtain ⟨other, hother, hd⟩ := ih hapart.of_cons (h.next hapart) d hd
      exact ⟨other, List.mem_cons_of_mem stem hother, hd⟩

/-- No type has two units, as no text starts with two prefixes. -/
theorem nodup_units_prefixesEvents (hapart : stems.Pairwise Settings.Apart)
    (h : Honoured src p stems w) : (typeKeys (units (prefixesEvents src p stems w))).Nodup := by
  induction stems generalizing w with
  | nil => exact List.nodup_nil
  | cons stem stems ih =>
    rw [prefixesEvents, units_append, typeKeys_append]
    refine List.nodup_append.mpr ⟨nodup_units_prefixEvents, ih hapart.of_cons (h.next hapart), ?_⟩
    rintro type hfirst _ hlater rfl
    obtain ⟨d, hd, hdtype⟩ := mem_typeKeys.mp hfirst
    obtain ⟨e, he, hetype⟩ := mem_typeKeys.mp hlater
    obtain ⟨s, hs, hstem⟩ := isUnder_prefixEvents (h.source stem List.mem_cons_self)
      (h.cache stem List.mem_cons_self) d (units_prefixEvents_subset hd)
    obtain ⟨other, hother, t, ht, hotherstem⟩ := isUnder_prefixesEvents hapart.of_cons
      (h.next hapart) e (units_prefixesEvents_subset he)
    -- the two descriptors have one text as their type
    have hst : s = t := by
      rw [hs] at hdtype
      rw [ht, ← hdtype] at hetype
      cases hetype
      rfl
    exact ((List.pairwise_cons.mp hapart).1 other hother).not_isStem hstem (hst ▸ hotherstem)

/-- Each type that is received has a unit. -/
theorem mem_units_prefixesEvents (hapart : stems.Pairwise Settings.Apart)
    (h : Honoured src p stems w) (hwindow : src.HasWindow p.collection) :
    ∀ type ∈ typeKeys (received (prefixesEvents src p stems w)),
      type ∈ typeKeys (units (prefixesEvents src p stems w)) := by
  induction stems generalizing w with
  | nil => exact fun type h => h
  | cons stem stems ih =>
    rw [prefixesEvents, received_append, units_append, typeKeys_append, typeKeys_append]
    intro type htype
    rcases List.mem_append.mp htype with htype | htype
    · exact List.mem_append_left _ (mem_units_prefixEvents (h.source stem List.mem_cons_self)
        (h.cache stem List.mem_cons_self) hwindow type htype)
    · exact List.mem_append_right _ (ih hapart.of_cons (h.next hapart) type htype)

end

theorem key?_eq_text_iff {v : Json} {s : String} : v.key? = some (.text s) ↔ v = .text s := by
  cases v with
  | real x =>
    simp only [Json.key?, Json.realKey]
    split
    · split <;> simp
    · simp
  | _ => simp [Json.key?]

/-- All units of a scrape are for types under its prefixes. -/
theorem isUnder_units_runEvents (hapart : p.collection.prefixes.Pairwise Settings.Apart)
    (h : Honoured src p p.collection.prefixes w) :
    ∀ d ∈ units (runEvents src p w), ∃ stem ∈ p.collection.prefixes, IsUnder stem d :=
  fun d hd => isUnder_prefixesEvents hapart h d (units_prefixesEvents_subset hd)

/-- **Each metric type is fetched once.**  Take a configuration that passes, a source and a cache
that have for each prefix only types that start with it, and a time now that always has a window.
The events of a scrape lead from the state in which it begins to the one that it leaves.  Among them
no type has two units, and the types that have one are just those on the pages that came and in the
cached lists that were taken. -/
theorem nodup_types_runEvents (src : Source) (p : Plan) (w : Work) (v : Json)
    (hv : Settings.checkCollection v = .valid p.collection)
    (h : Honoured src p p.collection.prefixes w) (hwindow : src.HasWindow p.collection) :
    Trace src p w (runEvents src p w) (run src p w).2 ∧
      ((units (runEvents src p w)).map Descriptor.type).Nodup ∧
      ∀ type, type ∈ (units (runEvents src p w)).map Descriptor.type ↔
        type ∈ (received (runEvents src p w)).map Descriptor.type := by
  have hapart := Settings.pairwise_prefixes_of_checkCollection hv
  have hsubset : units (runEvents src p w) ⊆ received (runEvents src p w) :=
    units_prefixesEvents_subset
  have hunder : ∀ d ∈ received (runEvents src p w), ∃ stem ∈ p.collection.prefixes,
      IsUnder stem d :=
    isUnder_prefixesEvents hapart h
  refine ⟨trace_run src p w, nodup_types (fun d hd => ?_) (nodup_units_prefixesEvents hapart h), ?_⟩
  · obtain ⟨stem, -, hstem⟩ := isUnder_units_runEvents hapart h d hd
    exact hstem.asKey
  · intro type
    constructor
    · exact fun htype => List.map_subset _ hsubset htype
    · intro htype
      obtain ⟨d, hd, rfl⟩ := List.mem_map.mp htype
      obtain ⟨stem, -, s, hs, -⟩ := hunder d hd
      have hkey : .text s ∈ typeKeys (units (runEvents src p w)) :=
        mem_units_prefixesEvents hapart h hwindow _ (mem_typeKeys.mpr ⟨d, hd, by rw [hs]; rfl⟩)
      obtain ⟨e, he, hetype⟩ := mem_typeKeys.mp hkey
      rw [Json.asKey_eq_ok_iff, key?_eq_text_iff] at hetype
      exact List.mem_map.mpr ⟨e, he, hetype.trans hs.symm⟩

/-- A configuration in which one prefix covers another. -/
def coveredConfig : Json :=
  .object [("metrics_prefixes", .list [.text "jobs/", .text "jobs/a", .text "net"])]

/-- The plan of that configuration. -/
def coveredPlan : Plan :=
  { collection := { prefixes := ["jobs/", "net"] }, metricNamespace := "stackdriver" }

theorem checkCollection_coveredConfig :
    Settings.checkCollection coveredConfig = .valid coveredPlan.collection := by
  have hsorted : ["jobs/", "jobs/a", "net"].Pairwise fun s t =>
      Text.precedes s t = true := by decide
  have hminimal : Settings.minimalPrefixes ["jobs/", "jobs/a", "net"] = ["jobs/", "net"] := by
    rw [Settings.minimalPrefixes, List.mergeSort_of_pairwise hsorted]
    decide
  have hpass : Settings.checkCollection coveredConfig =
    .valid { prefixes := Settings.minimalPrefixes ["jobs/", "jobs/a", "net"] } := rfl
  rw [hpass, hminimal]
  rfl

/-- A descriptor of which nothing but the type is known. -/
def bare (type : String) : Descriptor :=
  { type := .text type }

/-- A source that lists types of jobs on two pages, some of them twice, and nothing else. -/
def twiceSource : Source where
  descriptors _ q :=
    match q.subject, q.token with
    | .descriptors "jobs/", .text "" =>
      .ok ⟨[bare "jobs/a", bare "jobs/b", bare "jobs/a"], .text "rest"⟩
    | .descriptors "jobs/", _ => .ok ⟨[bare "jobs/b", bare "jobs/c"], .text ""⟩
    | _, _ => .error (.api "metricDescriptors" .notJson)
  series _ _ := .ok ⟨[], .text ""⟩
  clock _ := 0
  now _ := .ok .epoch
  wall _ := 0
  limit := 5

/-- A scrape that begins with no totals and no cache. -/
def freshWork : Work :=
  { meters := { stem := "" }, totals := ⟨{ ttl := 1800 }, { ttl := 1800 }⟩
    cache := .empty 0 true }

theorem honoured_twiceSource :
    Honoured twiceSource coveredPlan coveredPlan.collection.prefixes freshWork where
  source stem _ asked token page hpage := by
    have hunder : ∀ s, Text.IsStem "jobs/" s → IsUnder "jobs/" (bare s) := fun s h => ⟨s, rfl, h⟩
    simp only [twiceSource, descriptorQuery, Query.forPage] at hpage
    split at hpage
    · next hsubject =>
      cases hsubject
      cases hpage
      intro d hd
      simp only [List.mem_cons, List.not_mem_nil, or_false] at hd
      rcases hd with rfl | rfl | rfl <;> exact hunder _ (by decide)
    · next hsubject _ =>
      cases hsubject
      cases hpage
      intro d hd
      simp only [List.mem_cons, List.not_mem_nil, or_false] at hd
      rcases hd with rfl | rfl <;> exact hunder _ (by decide)
    · cases hpage
  cache stem _ now ds hlookup := by cases hlookup

theorem nodup_types_runEvents_twice :
    Settings.checkCollection coveredConfig = .valid coveredPlan.collection ∧
    Honoured twiceSource coveredPlan coveredPlan.collection.prefixes freshWork ∧
    twiceSource.HasWindow coveredPlan.collection ∧
    (units (runEvents twiceSource coveredPlan freshWork)).map Descriptor.type =
      [.text "jobs/a", .text "jobs/b", .text "jobs/c"] ∧
    ((units (runEvents twiceSource coveredPlan freshWork)).map Descriptor.type).Nodup := by
  have hwindow : twiceSource.HasWindow coveredPlan.collection := fun _ => ⟨_, rfl⟩
  exact ⟨checkCollection_coveredConfig, honoured_twiceSource, hwindow, rfl,
    (nodup_types_runEvents twiceSource coveredPlan freshWork coveredConfig
      checkCollection_coveredConfig honoured_twiceSource hwindow).2.1⟩

end Scrape

end MetricRelay
