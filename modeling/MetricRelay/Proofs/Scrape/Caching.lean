/-
What a scrape writes to the cache of descriptors.

A listing adds the units of each page to the scrape before it asks for the next page, and only at
its end it knows whether it is whole.  The cache sees nothing before that end:

* `Course.cache` — a listing that halts leaves the cache alone; any other one writes it once, with
  the descriptors of all its pages, whatever has become of their units;
* `cachesWhole` — so does the scrape of a prefix, and a hit leaves the cache alone too;
* `run_cachesWhole` — in a whole scrape nothing else touches the entry of the prefix.
-/
import MetricRelay.Proofs.DescriptorCache
import MetricRelay.Proofs.Scrape.Course
import MetricRelay.Proofs.Scrape.Hit

namespace MetricRelay.Scrape

open Monitoring

/-- The writes to the cache: prefixes with descriptors. -/
def writes (es : List Event) : List (String × List Descriptor) :=
  es.filterMap fun
    | .stored stem ds => some (stem, ds)
    | _ => none

theorem writes_append (es fs : List Event) : writes (es ++ fs) = writes es ++ writes fs :=
  List.filterMap_append

@[simp] theorem writes_map_unit (within : Window) (us : List Descriptor) :
    writes (us.map (.unit within)) = [] := by
  induction us with
  | nil => rfl
  | cons u us ih => exact ih

theorem writes_page (q : Query) (answer : Except Fault DescriptorPage) (within : Window)
    (us : List Descriptor) (es : List Event) :
    writes (.page q answer :: (us.map (.unit within) ++ es)) = writes es := by
  show writes (us.map (.unit within) ++ es) = writes es
  rw [writes_append, writes_map_unit, List.nil_append]

variable {src : Source} {p : Plan} {stem : String} {w w' : Work}

theorem runUnits_cache (within : Window) (us : List Descriptor) (w : Work) :
    (runUnits src p within us w).2.cache = w.cache := by
  induction us generalizing w with
  | nil => rfl
  | cons d us ih => exact (ih (runUnit src p within d w).2).trans (runUnit_cache within d w)

/-- A listing either halts and leaves the cache alone, or reaches its last page and writes the
descriptors of all pages at once. -/
theorem Course.cache {q : Query} {listed : List Descriptor} {es : List Event} {os : List Occurrence}
    (h : Course src p stem q listed w es os w') :
    (Scrape.halted os = true → writes es = [] ∧ w'.cache = w.cache) ∧
    (Scrape.halted os = false →
      writes es = [(stem, listed ++ (pages es).flatten)] ∧
      w'.cache = w.cache.store (src.clock w'.asked) stem (listed ++ (pages es).flatten) ∧
      ∃ r page, (Scrape.requests es).getLast? = some (r, .ok page) ∧
        following? page.nextToken = none) := by
  induction h with
  | stopped => exact ⟨fun _ => ⟨rfl, rfl⟩, fun h => by cases h⟩
  | refused => exact ⟨fun _ => ⟨rfl, rfl⟩, fun h => by cases h⟩
  | raised => exact ⟨fun _ => ⟨rfl, rfl⟩, fun h => by cases h⟩
  | @last q listed us w v page within h hwithin hunits hnext =>
    rw [halted_lastPage]
    refine ⟨nofun, fun _ => ?_⟩
    have hcache : v.cache = w.cache := hunits ▸ runUnits_cache within us (w.ask q)
    have hpages : listed ++ (pages (.page q (.ok page) ::
        (us.map (.unit within) ++ [.stored stem (listed ++ page.descriptors)]))).flatten
        = listed ++ page.descriptors := by
      rw [pages_page]
      exact congrArg (listed ++ ·) (List.append_nil _)
    rw [hpages, writes_page, requests_page, ← hcache]
    exact ⟨rfl, rfl, q, page, rfl, hnext⟩
  | @next q listed us w v w' page within token es os h hwithin hunits hnext hrest ih =>
    have hcache : v.cache = w.cache := hunits ▸ runUnits_cache within us (w.ask q)
    rw [halted_page, writes_page, pages_page, requests_page, List.flatten_cons, ← List.append_assoc,
      ← hcache]
    refine ⟨ih.1, fun hhalted => ?_⟩
    obtain ⟨hwrites, hstore, r, last, hlast, hnone⟩ := ih.2 hhalted
    refine ⟨hwrites, hstore, r, last, ?_, hnone⟩
    rw [List.getLast?_cons, hlast]
    rfl

/-! ### Prefixes -/

/-- The scrape of a prefix writes the whole listing to the cache, or nothing. -/
structure CachesWhole (src : Source) (p : Plan) (stem : String) (w : Work) : Prop where
  /-- The events lead to the state that the scrape of the prefix leaves. -/
  trace : Trace src p w (prefixEvents src p stem w) (runPrefix src p stem w).2
  /-- The pages that are asked for are the requests that occur. -/
  answers : (requests (prefixEvents src p stem w)).map Prod.snd
    = (prefixOccurrences src p stem w).filterMap Occurrence.answer?
  /-- A hit writes nothing. -/
  hit : (w.cache.lookup (src.clock w.asked) stem).isSome = true →
    writes (prefixEvents src p stem w) = [] ∧ (runPrefix src p stem w).2.cache = w.cache
  /-- A listing of which a request or a page fails writes nothing. -/
  halted : halted (prefixOccurrences src p stem w) = true →
    writes (prefixEvents src p stem w) = [] ∧ (runPrefix src p stem w).2.cache = w.cache
  /-- Any other one ends with its last page and then writes the descriptors of all pages. -/
  whole : w.cache.lookup (src.clock w.asked) stem = none →
    Scrape.halted (prefixOccurrences src p stem w) = false →
    (∃ q page, (requests (prefixEvents src p stem w)).getLast? = some (q, .ok page) ∧
      following? page.nextToken = none) ∧
    writes (prefixEvents src p stem w) = [(stem, (pages (prefixEvents src p stem w)).flatten)] ∧
    (runPrefix src p stem w).2.cache =
      w.cache.store (src.clock (runPrefix src p stem w).2.asked) stem
        (pages (prefixEvents src p stem w)).flatten
  /-- The entries of other prefixes stay. -/
  others : ∀ other, other ≠ stem →
    Assoc.get? (runPrefix src p stem w).2.cache.entries other = Assoc.get? w.cache.entries other

theorem reportEvents_writes (src : Source) (p : Plan) (ds : List Descriptor) (w : Work) :
    writes (reportEvents src p ds w) = [] ∧ requests (reportEvents src p ds w) = [] ∧
      (reportOccurrences src p ds w).filterMap Occurrence.answer? = [] ∧
      (report src p ds w).2.cache = w.cache := by
  rw [reportEvents_eq, report_eq, reportOccurrences]
  cases src.outset p ds w.asked with
  | error fault => exact ⟨rfl, rfl, rfl, rfl⟩
  | ok out =>
    exact ⟨writes_map_unit out.2 out.1, requests_map_unit out.2 out.1,
      answers_unitOccurrences src p out.2 out.1 w, runUnits_cache out.2 out.1 w⟩

theorem runPrefix_snd_of_hit {ds : List Descriptor}
    (hhit : w.cache.lookup (src.clock w.asked) stem = some ds) :
    (runPrefix src p stem w).2 = (report src p ds w).2 := by
  simp only [runPrefix, hhit]
  split <;> simp only [*]

/-- Entries of prefixes for which nothing is written stay. -/
theorem Trace.get?_entries {es : List Event} (h : Trace src p w es w') {other : String}
    (hother : ∀ x ∈ writes es, x.1 ≠ other) :
    Assoc.get? w'.cache.entries other = Assoc.get? w.cache.entries other := by
  induction h with
  | nil => rfl
  | cons hstep _ ih =>
    cases hstep with
    | page => exact ih hother
    | hit => exact ih hother
    | unit within d => rw [ih hother, runUnit_cache]
    | stored stem ds =>
      obtain ⟨hne, hrest⟩ := List.forall_mem_cons.mp hother
      rw [ih hrest, DescriptorCache.get?_store_of_ne _ _ hne.symm]

/-- The course of a prefix that is not answered from the cache. -/
theorem course_runPrefix (hmiss : w.cache.lookup (src.clock w.asked) stem = none) :
    Course src p stem (descriptorQuery p.collection stem) [] w (prefixEvents src p stem w)
      (prefixOccurrences src p stem w) (runPrefix src p stem w).2 := by
  simp only [prefixEvents, prefixOccurrences, runPrefix, hmiss]
  exact course_listPages src.limit (descriptorQuery p.collection stem) {} w

theorem cachesWhole (src : Source) (p : Plan) (stem : String) (w : Work) :
    CachesWhole src p stem w ∧ ∀ x ∈ writes (prefixEvents src p stem w), x.1 = stem := by
  have htrace := @trace_runPrefix src p stem w
  cases hlookup : w.cache.lookup (src.clock w.asked) stem with
  | some ds =>
    obtain ⟨hwrites, hrequests, hanswers, hcache⟩ := reportEvents_writes src p ds w
    have hes : prefixEvents src p stem w = .hit stem ds :: reportEvents src p ds w := by
      simp only [prefixEvents, hlookup]
    have hos : prefixOccurrences src p stem w = reportOccurrences src p ds w := by
      simp only [prefixOccurrences, hlookup]
    have hnone : writes (prefixEvents src p stem w) = [] := by
      rw [hes]
      exact hwrites
    have hsame : (runPrefix src p stem w).2.cache = w.cache :=
      (congrArg Work.cache (runPrefix_snd_of_hit hlookup)).trans hcache
    refine ⟨⟨htrace, ?_, fun _ => ⟨hnone, hsame⟩, fun _ => ⟨hnone, hsame⟩, ?_, ?_⟩, ?_⟩
    · rw [hos, hanswers, hes]
      exact congrArg (List.map Prod.snd) hrequests
    · exact fun hmiss => absurd (hlookup.symm.trans hmiss) (by simp)
    · exact fun other _ => by rw [hsame]
    · rw [hnone]
      exact fun x hx => absurd hx List.not_mem_nil
  | none =>
    have hcourse : Course src p stem _ [] w _ _ _ := course_runPrefix hlookup
    obtain ⟨hhalted, hwhole⟩ := hcourse.cache
    rw [List.nil_append] at hwhole
    have hstem : ∀ x ∈ writes (prefixEvents src p stem w), x.1 = stem := by
      intro x hx
      cases hh : halted (prefixOccurrences src p stem w) with
      | true =>
        rw [(hhalted hh).1] at hx
        cases hx
      | false =>
        rw [(hwhole hh).1] at hx
        rw [List.mem_singleton.mp hx]
    refine ⟨⟨htrace, hcourse.requests, fun hhit => ?_, hhalted, fun _ hh => ?_, ?_⟩, hstem⟩
    · rw [hlookup] at hhit
      cases hhit
    · obtain ⟨hwrites, hstore, hlast⟩ := hwhole hh
      exact ⟨hlast, hwrites, hstore⟩
    · exact fun other hne => htrace.get?_entries fun x hx => by rw [hstem x hx]; exact hne.symm

/-! ### Scrapes -/

theorem writes_prefixesEvents (stems : List String) (w : Work) :
    ∀ x ∈ writes (prefixesEvents src p stems w), x.1 ∈ stems := by
  induction stems generalizing w with
  | nil => exact fun x hx => absurd hx List.not_mem_nil
  | cons stem stems ih =>
    intro x hx
    rw [prefixesEvents, writes_append] at hx
    rcases List.mem_append.mp hx with hx | hx
    · rw [(cachesWhole src p stem w).2 x hx]
      exact List.mem_cons_self
    · exact List.mem_cons_of_mem stem (ih _ x hx)

theorem ne_of_writes {stems : List String} (h : stem ∉ stems) :
    ∀ x ∈ writes (prefixesEvents src p stems w), x.1 ≠ stem :=
  fun x hx heq => h (heq ▸ writes_prefixesEvents stems w x hx)

theorem prefixesEvents_append (stems stems' : List String) (w : Work) :
    prefixesEvents src p (stems ++ stems') w =
      prefixesEvents src p stems w ++
        prefixesEvents src p stems' (runPrefixes src p stems w).2 := by
  induction stems generalizing w with
  | nil => rfl
  | cons stem stems ih =>
    rw [List.cons_append, prefixesEvents, prefixesEvents, ih, List.append_assoc]
    rfl

theorem runPrefixes_append_snd (stems stems' : List String) (w : Work) :
    (runPrefixes src p (stems ++ stems') w).2
      = (runPrefixes src p stems' (runPrefixes src p stems w).2).2 := by
  induction stems generalizing w with
  | nil => rfl
  | cons stem stems ih => exact ih (runPrefix src p stem w).2

/-- **Only whole listings reach the cache.**  In every scrape a prefix is answered from the cache,
or its listing halts, or all of its pages are listed; what is written for it are, in the last case
alone, the descriptors of all pages, once.  If the prefix occurs only once among those of the
scrape, its entry is as it was until then and stays as it is afterwards. -/
theorem run_cachesWhole {src : Source} {p : Plan} {before after : List String} {stem : String}
    (hprefixes : p.collection.prefixes = before ++ stem :: after) (w : Work) :
    let begun := (runPrefixes src p before w).2
    let ended := (runPrefix src p stem begun).2
    CachesWhole src p stem begun ∧
    (stem ∉ before → stem ∉ after →
      (writes (runEvents src p w)).filter (fun x => x.1 = stem)
        = writes (prefixEvents src p stem begun) ∧
      Assoc.get? begun.cache.entries stem = Assoc.get? w.cache.entries stem ∧
      Assoc.get? (run src p w).2.cache.entries stem = Assoc.get? ended.cache.entries stem) := by
  intro begun ended
  obtain ⟨hwhole, hstem⟩ := cachesWhole src p stem begun
  refine ⟨hwhole, fun hbefore hafter => ⟨?_, ?_, ?_⟩⟩
  · have hnone {stems : List String} (h : stem ∉ stems) (v : Work) :
        (writes (prefixesEvents src p stems v)).filter (fun x => x.1 = stem) = [] :=
      List.filter_eq_nil_iff.mpr fun x hx => by simpa using ne_of_writes h x hx
    have hall : (writes (prefixEvents src p stem begun)).filter (fun x => x.1 = stem)
        = writes (prefixEvents src p stem begun) :=
      List.filter_eq_self.mpr fun x hx => by simpa using hstem x hx
    rw [runEvents, hprefixes, prefixesEvents_append, prefixesEvents, writes_append, writes_append,
      List.filter_append, List.filter_append, hnone hbefore, hnone hafter, hall, List.nil_append,
      List.append_nil]
  · exact (trace_runPrefixes before w).get?_entries (ne_of_writes hbefore)
  · have hrest : (run src p w).2 = (runPrefixes src p after ended).2 := by
      rw [run, hprefixes, runPrefixes_append_snd]
      rfl
    rw [hrest]
    exact (trace_runPrefixes after ended).get?_entries (ne_of_writes hafter)

/-- A source that lists types of jobs on two pages and has no time series for any of them. -/
def mutedSource : Source :=
  { twiceSource with series := fun _ _ => .error .notObject }

/-- All units fail, and yet both pages are cached; the other prefix cannot be listed and is not. -/
theorem run_cachesWhole_muted :
    let begun := (runPrefix mutedSource coveredPlan "jobs/" cachingWork).2
    coveredPlan.collection.prefixes = [] ++ "jobs/" :: ["net"] ∧
    coveredPlan.collection.prefixes = ["jobs/"] ++ "net" :: [] ∧
    (writes (runEvents mutedSource coveredPlan cachingWork)).filter (fun x => x.1 = "jobs/")
      = [("jobs/", [bare "jobs/a", bare "jobs/b", bare "jobs/a", bare "jobs/b", bare "jobs/c"])] ∧
    (runPrefix mutedSource coveredPlan "net" begun).2.cache = begun.cache := by
  intro begun
  have hjobs : coveredPlan.collection.prefixes = [] ++ "jobs/" :: ["net"] := rfl
  have hnet : coveredPlan.collection.prefixes = ["jobs/"] ++ "net" :: [] := rfl
  refine ⟨hjobs, hnet, ?_, ?_⟩
  · obtain ⟨hwhole, honce⟩ := @run_cachesWhole mutedSource _ _ _ _ hjobs cachingWork
    rw [(honce (by decide) (by decide)).1, (hwhole.whole rfl rfl).2.1]
    rfl
  · exact ((@run_cachesWhole mutedSource _ _ _ _ hnet cachingWork).1.halted rfl).2

end MetricRelay.Scrape
