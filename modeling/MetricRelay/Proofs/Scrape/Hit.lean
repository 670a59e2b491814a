/-
A hit of the cache and the listing that it stands for.

A listing reports a type when it first meets it, with the last descriptor of the type on that page.
The cache holds the descriptors of all pages, of which a hit reports the last one of each type.  So
the two have the same types in the same order, but not always with the same descriptors:

* `Lists.completes` — what a listing that reaches its last page reports and offers;
* `keys_reported`, `get?_reported` — which types a listing reports, and with which descriptors;
* `Trace.sameWork` — the same units ask for the same and collect the same;
* `lists_of_stored`, `prefixEvents_hit` — what fills the cache, and what a hit runs;
* `units_of_hit` — when a hit has the units of the listing, and what follows;
* `units_of_hit_ne` — a listing whose pages have two descriptors of one type.
-/
import MetricRelay.Proofs.Scrape.Rescrape

namespace MetricRelay

open Monitoring

/-- What a cache has for a prefix for which it has been offered descriptors is these descriptors. -/
theorem DescriptorCache.eq_of_lookup_store {cache : DescriptorCache} {stem : String}
    {now before : Float} {ds ds' : List Descriptor}
    (h : (cache.store before stem ds).lookup now stem = some ds') : ds' = ds := by
  by_cases hkeeps : cache.keeps stem = true
  · rw [store, if_pos hkeeps] at h
    simp only [lookup, Assoc.get?_put_self] at h
    split at h
    · split at h
      · cases h
      · cases h
        rfl
    · cases h
  · rw [store, if_neg hkeeps, lookup, if_neg hkeeps] at h
    cases h

namespace Scrape

/-- The last descriptor of a type. -/
def lastOf (type : Json.Key) (ds : List Descriptor) : Option Descriptor :=
  ds.reverse.find? fun d => d.type.key? = some type

/-- The descriptors on the pages that come without a fault, page by page. -/
def pages (es : List Event) : List (List Descriptor) :=
  es.filterMap fun
    | .page _ (.ok page) => some page.descriptors
    | _ => none

/-- What a listing reports of the named descriptors on its pages: on each page the types that it has
not seen before. -/
def reported (seen : List Json.Key) :
    List (List (Json.Key × Descriptor)) → Assoc Json.Key Descriptor
  | [] => []
  | page :: rest =>
    Assoc.ofEntries (page.filter fun e => !seen.contains e.1) ++
      reported (seen ++ Assoc.keys page) rest

variable {src : Source} {p : Plan} {stem : String}

/-! ### What a listing reports -/

/-- The types in the order in which the pages have them. -/
theorem keys_reported (seen : List Json.Key) (rest : List (List (Json.Key × Descriptor))) :
    Assoc.keys (reported seen rest)
      = Assoc.keys (Assoc.ofEntries (rest.flatten.filter fun e => !seen.contains e.1)) := by
  induction rest generalizing seen with
  | nil => rfl
  | cons page rest ih =>
    -- what is new after this page was neither seen before nor is it on this page
    have hnew : (rest.flatten.filter fun e => !(seen ++ Assoc.keys page).contains e.1) =
        (rest.flatten.filter fun e => !seen.contains e.1).filter fun e =>
          !(Assoc.keys (page.filter fun e => !seen.contains e.1)).contains e.1 := by
      rw [List.filter_filter]
      refine List.filter_congr fun e _ => ?_
      by_cases hseen : e.1 ∈ seen
      · simp [hseen]
      · simp [hseen, Assoc.keys]
    rw [reported, Assoc.keys, List.map_append, ← Assoc.keys, ← Assoc.keys, ih, hnew,
      List.flatten_cons, List.filter_append, Assoc.keys_ofEntries_append]

/-- The descriptor of a type is the last one on the first page that has the type. -/
theorem get?_reported {seen : List Json.Key} {type : Json.Key} (hseen : type ∉ seen)
    (rest : List (List (Json.Key × Descriptor))) :
    Assoc.get? (reported seen rest) type = rest.findSome? fun page =>
    Assoc.get? page.reverse type := by
  induction rest generalizing seen with
  | nil => rfl
  | cons page rest ih =>
    have hpage : Assoc.get? (Assoc.ofEntries (page.filter fun e => !seen.contains e.1)) type
        = Assoc.get? page.reverse type := by
      rw [Assoc.get?_ofEntries, ← List.filter_reverse]
      exact Assoc.get?_filter_key page.reverse (p := fun key => !seen.contains key)
        (by simpa using hseen)
    rw [reported, Assoc.get?_append, hpage, List.findSome?_cons]
    cases hget : Assoc.get? page.reverse type with
    | some d => rfl
    | none =>
      rw [Option.none_or]
      refine ih fun hmem => (List.mem_append.mp hmem).elim hseen fun hpage => ?_
      rw [Assoc.get?_eq_none_iff, Assoc.keys, List.map_reverse, List.mem_reverse] at hget
      exact hget hpage

theorem isNamed_reported (seen : List Json.Key) {rest : List (List (Json.Key × Descriptor))}
    (h : ∀ page ∈ rest, IsNamed page) : IsNamed (reported seen rest) := by
  induction rest generalizing seen with
  | nil => exact fun e he => absurd he List.not_mem_nil
  | cons page rest ih =>
    obtain ⟨hpage, hrest⟩ := List.forall_mem_cons.mp h
    exact (hpage.filter _).ofEntries.append (ih _ hrest)

/-- The value of a name is the last descriptor of the type. -/
theorem IsNamed.get?_reverse {entries : List (Json.Key × Descriptor)} (h : IsNamed entries)
    (type : Json.Key) :
    Assoc.get? entries.reverse type = lastOf type (entries.map Prod.snd) := by
  have hreverse : ∀ es : List (Json.Key × Descriptor), IsNamed es →
      Assoc.get? es type = (es.map Prod.snd).find? fun d => d.type.key? = some type := by
    intro es hes
    induction es with
    | nil => rfl
    | cons e es ih =>
      obtain ⟨he, hes⟩ := List.forall_mem_cons.mp hes
      rw [Assoc.get?_cons, List.map_cons, List.find?_cons, ih hes, Json.asKey_eq_ok_iff.mp he]
      by_cases hk : e.1 = type <;> simp [hk]
  rw [lastOf, ← List.map_reverse]
  exact hreverse _ fun e he => h e (List.mem_reverse.mp he)

/-- The value of a name on the first page that has it. -/
theorem findSome?_lastOf {rest : List (List (Json.Key × Descriptor))}
    (h : ∀ page ∈ rest, IsNamed page) (type : Json.Key) :
    (rest.map (List.map Prod.snd)).findSome? (lastOf type)
      = rest.findSome? fun page => Assoc.get? page.reverse type := by
  induction rest with
  | nil => rfl
  | cons page rest ih =>
    obtain ⟨hpage, hrest⟩ := List.forall_mem_cons.mp h
    rw [List.map_cons, List.findSome?_cons, List.findSome?_cons, hpage.get?_reverse, ih hrest]

theorem IsNamed.flatten {rest : List (List (Json.Key × Descriptor))}
    (h : ∀ page ∈ rest, IsNamed page) :
    IsNamed rest.flatten := by
  intro e he
  obtain ⟨page, hpage, he⟩ := List.mem_flatten.mp he
  exact h page hpage e he

theorem IsNamed.map_snd_inj {es fs : List (Json.Key × Descriptor)} (hes : IsNamed es)
    (hfs : IsNamed fs) : es.map Prod.snd = fs.map Prod.snd ↔ es = fs := by
  refine ⟨fun h => ?_, fun h => h ▸ rfl⟩
  have hkeyed : keyed (es.map Prod.snd) = .ok es := keyed_eq_ok_iff.mpr ⟨rfl, hes⟩
  rw [h, keyed_eq_ok_iff.mpr ⟨rfl, hfs⟩] at hkeyed
  exact (Except.ok.inj hkeyed).symm

theorem pages_page (q : Query) (page : DescriptorPage) (within : Window) (us : List Descriptor)
    (es : List Event) :
    pages (.page q (.ok page) :: (us.map (.unit within) ++ es)) = page.descriptors :: pages es := by
  have hunits : pages (us.map (.unit within)) = [] := by
    induction us with
    | nil => rfl
    | cons u us ih => exact ih
  show page.descriptors :: pages (us.map (.unit within) ++ es) = page.descriptors :: pages es
  rw [pages, List.filterMap_append, ← pages, ← pages, hunits, List.nil_append]

section

variable {q : Query} {seen : List Json.Key} {listed : List Descriptor} {es : List Event}

/-- A listing reaches its last page: what it reports of its pages, and that it ends with offering
all descriptors to the cache. -/
structure Completes (stem : String) (seen : List Json.Key) (listed ds : List Descriptor)
    (es : List Event) (rest : List (List (Json.Key × Descriptor))) : Prop where
  named : ∀ page ∈ rest, IsNamed page
  pages : pages es = rest.map (List.map Prod.snd)
  offered : ds = listed ++ rest.flatten.map Prod.snd
  units : units es = (reported seen rest).map Prod.snd
  ends : ∃ before, es = before ++ [.stored stem ds]

/-- A listing that offers descriptors has reached its last page. -/
theorem Lists.completes (h : Lists src p stem q seen listed es) {other : String}
    {ds : List Descriptor} (hds : .stored other ds ∈ es) :
    ∃ rest, Completes stem seen listed ds es rest := by
  induction h with
  | stopped => exact absurd hds List.not_mem_nil
  | ended => cases List.mem_singleton.mp hds
  | @last _ _ _ _ _ page entries _ h =>
    obtain ⟨hnamed, hpage, hus⟩ := h.units_eq
    rcases List.mem_cons.mp hds with hds | hds
    · cases hds
    · cases List.mem_singleton.mp
        ((List.mem_append.mp hds).resolve_left (stored_not_mem_units _ _ other ds))
      refine ⟨[entries], List.forall_mem_singleton.mpr hnamed, ?_, ?_, ?_, ⟨_ :: _, rfl⟩⟩
      · rw [pages_page, hpage]
        rfl
      · rw [hpage, List.flatten_singleton]
      · rw [units_page, hus, reported, reported, List.append_nil]
        exact List.append_nil _
  | @next _ _ _ _ _ page entries _ _ _ h _ ih =>
    obtain ⟨hnamed, hpage, hus⟩ := h.units_eq
    have hlater :=
      (List.mem_append.mp ((List.mem_cons.mp hds).resolve_left fun h => by cases h)).resolve_left
      (stored_not_mem_units _ _ other ds)
    obtain ⟨rest, hrest⟩ := ih hlater
    obtain ⟨before, hbefore⟩ := hrest.ends
    refine ⟨entries :: rest, List.forall_mem_cons.mpr ⟨hnamed, hrest.named⟩, ?_, ?_, ?_,
      ⟨_ :: (_ ++ before), by rw [hbefore, List.cons_append, List.append_assoc]⟩⟩
    · rw [pages_page, hpage, hrest.pages, List.map_cons]
    · rw [hrest.offered, hpage, List.flatten_cons, List.map_append, List.append_assoc]
    · rw [units_page, hus, hrest.units, reported, List.map_append]

end

/-- The types that a listing reports, and their descriptors, as its pages have them. -/
theorem Completes.reported_eq_iff {ds : List Descriptor} {es : List Event}
    {rest : List (List (Json.Key × Descriptor))} (h : Completes stem [] [] ds es rest) :
    Assoc.keys (reported [] rest) = Assoc.keys (Assoc.ofEntries rest.flatten) ∧
      (Assoc.ofEntries rest.flatten = reported [] rest ↔
        ∀ type, (Scrape.pages es).findSome? (lastOf type)
          = lastOf type (Scrape.pages es).flatten) := by
  have hkeys : Assoc.keys (reported [] rest) = Assoc.keys (Assoc.ofEntries rest.flatten) := by
    have hall : rest.flatten.filter (fun e => !([] : List Json.Key).contains e.1) = rest.flatten :=
      List.filter_eq_self.mpr fun _ _ => rfl
    rw [keys_reported, hall]
  have hnamed : IsNamed rest.flatten := .flatten h.named
  have hfirst : ∀ type, (Scrape.pages es).findSome? (lastOf type)
      = Assoc.get? (reported [] rest) type := by
    intro type
    rw [get?_reported List.not_mem_nil, h.pages, findSome?_lastOf h.named]
  have hlast : ∀ type, lastOf type (Scrape.pages es).flatten
      = Assoc.get? (Assoc.ofEntries rest.flatten) type := by
    intro type
    rw [Assoc.get?_ofEntries, hnamed.get?_reverse, h.pages, List.map_flatten]
  refine ⟨hkeys, fun heq type => ?_, fun hall => ?_⟩
  · rw [hfirst, hlast, heq]
  · refine Assoc.eq_of_get? (Assoc.nodup_keys_ofEntries _) hkeys.symm fun type => ?_
    rw [← hfirst, ← hlast, hall]

/-! ### The same units do the same -/

/-- A query asks for time series. -/
def asksForSeries (q : Query) : Bool :=
  match q.subject with
  | .series _ _ _ => true
  | .descriptors _ => false

/-- Two scrapes have asked for the same time series, and hold the same totals and readings. -/
structure SameWork (w v : Work) : Prop where
  asked : w.asked.filter asksForSeries = v.asked.filter asksForSeries
  totals : w.totals = v.totals
  sink : w.sink = v.sink

section

variable {within : Window} {w w' v : Work}

theorem SameWork.runUnit (h : SameWork w v) (hsrc : src.Steady) {d : Descriptor} {type : Json.Key}
    (hd : d.type.asKey = .ok type) :
    SameWork (runUnit src p within d w).2 (runUnit src p within d v).2 := by
  rw [runUnit_eq_apply hd, runUnit_eq_apply hd,
    unitEffect_steady hsrc p within d type v.asked w.asked]
  refine ⟨?_, ?_, ?_⟩
  · simp only [Effect.apply, List.filter_append, h.asked]
  · simp only [Effect.apply, h.totals]
  · simp only [Effect.apply, h.totals, h.sink]

/-- What events do to totals and sink, and what they ask for time series, their units do. -/
theorem Trace.sameWork {es : List Event} (h : Trace src p w es w') (hsrc : src.Steady)
    (hpages : ∀ q answer, .page q answer ∈ es → asksForSeries q = false)
    (hwithin : ∀ v d, .unit v d ∈ es → v = within)
    (hnames : ∀ d ∈ units es, ∃ type, d.type.asKey = .ok type) (hv : SameWork w v) :
    SameWork w' (runUnits src p within (units es) v).2 := by
  induction h generalizing v with
  | nil => exact hv
  | @cons w w₁ _ e es hstep _ ih =>
    have hpages' := fun q answer hmem => hpages q answer (List.mem_cons_of_mem e hmem)
    have hwithin' := fun v d hmem => hwithin v d (List.mem_cons_of_mem e hmem)
    cases hstep with
    | @page q answer =>
      refine ih hpages' hwithin' hnames ⟨?_, hv.totals, hv.sink⟩
      rw [Work.ask, List.filter_cons_of_neg (by simp [hpages q answer List.mem_cons_self])]
      exact hv.asked
    | hit => exact ih hpages' hwithin' hnames hv
    | stored => exact ih hpages' hwithin' hnames ⟨hv.asked, hv.totals, hv.sink⟩
    | unit v' d =>
      obtain rfl := hwithin v' d List.mem_cons_self
      obtain ⟨⟨type, hd⟩, hnames⟩ := List.forall_mem_cons.mp hnames
      exact ih hpages' hwithin' hnames (hv.runUnit hsrc hd)

/-- Pages ask for no time series, and a steady source has one window for all units. -/
theorem Lists.sameWork {q : Query} {seen : List Json.Key} {listed : List Descriptor}
    {es : List Event} (h : Lists src p stem q seen listed es) (hq : asksForSeries q = false)
    (hsrc : src.Steady) {asked : History}
    (hwithin : (src.now asked).bind (window p.collection) = .ok within)
    (hes : Trace src p w es w') (hnames : ∀ d ∈ units es, ∃ type, d.type.asKey = .ok type)
    (hv : SameWork w v) : SameWork w' (runUnits src p within (units es) v).2 := by
  have hpages : ∀ e ∈ es, ∀ r answer, e = .page r answer → asksForSeries r = false := by
    refine h.forall_mem (fun r _ hr r' _ heq => ?_) (fun _ _ _ _ _ _ heq => by cases heq)
      (fun _ _ _ heq => by cases heq)
    cases heq
    rw [asksForSeries, hr]
    exact hq
  have hwindows : ∀ e ∈ es, ∀ v d, e = .unit v d → v = within := by
    refine h.forall_mem (fun _ _ _ _ _ heq => by cases heq) (fun asked' v d hv v' d' heq => ?_)
      (fun _ _ _ heq => by cases heq)
    cases heq
    rw [hsrc.now asked' asked, hwithin] at hv
    exact (Except.ok.inj hv).symm
  exact hes.sameWork hsrc (fun q answer hmem => hpages _ hmem q answer rfl)
    (fun v d hmem => hwindows _ hmem v d rfl) hnames hv

end

/-! ### Hits and listings -/

section

variable {w w' v : Work} {ds us : List Descriptor} {within : Window}

/-- Descriptors are offered to the cache by listings only. -/
theorem lists_of_stored {other : String} (h : .stored other ds ∈ prefixEvents src p stem w) :
    Lists src p stem ((descriptorQuery p.collection stem).forPage (.text "")) [] []
      (prefixEvents src p stem w) := by
  refine (prefixEvents_cases src p stem w).resolve_right ?_
  rintro ⟨cached, -, hevents⟩
  rw [hevents, reportEvents] at h
  rcases List.mem_cons.mp h with hmem | hmem
  · cases hmem
  · split at hmem
    · exact stored_not_mem_units _ _ other ds hmem
    · exact absurd hmem List.not_mem_nil

/-- What a cache has from a listing are the descriptors on all pages. -/
theorem Completes.eq_of_lookup {seen : List Json.Key} {listed ds' : List Descriptor}
    {es : List Event} {rest : List (List (Json.Key × Descriptor))} {now : Float}
    (h : Completes stem seen listed ds es rest) (hes : Trace src p w es w')
    (hlookup : w'.cache.lookup now stem = some ds') : ds' = ds := by
  obtain ⟨before, hbefore⟩ := h.ends
  obtain ⟨v, -, hlast⟩ := (hbefore ▸ hes).exists_step
  cases hlast
  exact DescriptorCache.eq_of_lookup_store hlookup

/-- A hit runs the units of the cached descriptors, all within one window. -/
theorem prefixEvents_hit (hhit : w.cache.lookup (src.clock w.asked) stem = some ds)
    (hus : unique ds = .ok us)
    (hwithin : (src.now w.asked).bind (window p.collection) = .ok within) :
    prefixEvents src p stem w = .hit stem ds :: us.map (.unit within) := by
  simp only [prefixEvents, hhit, reportEvents, hus, hwithin]

theorem Trace.sameWork_hit (h : Trace src p w (.hit stem ds :: us.map (.unit within)) w')
    (hsrc : src.Steady) (hnames : ∀ d ∈ us, ∃ type, d.type.asKey = .ok type) (hv : SameWork w v) :
    SameWork w' (runUnits src p within us v).2 := by
  have hunits : units (.hit stem ds :: us.map (.unit within)) = us := units_map_unit within us
  have hmem : ∀ {e : Event}, e ∈ Event.hit stem ds :: us.map (.unit within) →
      e = .hit stem ds ∨ ∃ d, e = .unit within d := by
    intro e he
    refine (List.mem_cons.mp he).imp_right fun he => ?_
    obtain ⟨d, -, rfl⟩ := List.mem_map.mp he
    exact ⟨d, rfl⟩
  rw [← hunits]
  refine h.sameWork hsrc (fun q answer he => ?_) (fun within' d he => ?_) (hunits.symm ▸ hnames) hv
  · obtain h | ⟨d, h⟩ := hmem he <;> cases h
  · obtain h | ⟨d, h⟩ := hmem he
    · cases h
    · cases h
      rfl

end

/-- **A hit reports the types of the listing, each with its last descriptor.**  Take a listing that
reaches its last page and offers its descriptors to the cache, and a later scrape of the prefix that
is answered by what the cache has from it, at a time that has a window.  The hit has units for the
same types in the same order.  They are for the same descriptors exactly if every type has on the
first of the pages with it, as its last one there, the same descriptor as on the last of these
pages.  If they are, and the source is the same steady one, then from the same totals and sink both
scrapes ask for the same time series and leave the same totals and sink. -/
theorem units_of_hit (src src' : Source) (p : Plan) (stem other : String) (w w' : Work)
    (ds ds' : List Descriptor) (within : Window)
    (hstored : .stored other ds ∈ prefixEvents src p stem w)
    (hcache : w'.cache.lookup (src'.clock w'.asked) stem
      = (runPrefix src p stem w).2.cache.lookup (src'.clock w'.asked) stem)
    (hhit : w'.cache.lookup (src'.clock w'.asked) stem = some ds')
    (hwithin : (src'.now w'.asked).bind (window p.collection) = .ok within) :
    let listing := prefixEvents src p stem w
    let hit := prefixEvents src' p stem w'
    typeKeys (units hit) = typeKeys (units listing) ∧
      (units hit = units listing ↔
        ∀ type, (pages listing).findSome? (lastOf type) = lastOf type (pages listing).flatten) ∧
      (units hit = units listing → src' = src → src.Steady → SameWork w w' →
        SameWork (runPrefix src p stem w).2 (runPrefix src' p stem w').2) := by
  intro listing hit
  have hlists := lists_of_stored hstored
  obtain ⟨rest, hrest⟩ := hlists.completes hstored
  have hnamed : IsNamed rest.flatten := .flatten hrest.named
  have hreported : IsNamed (reported [] rest) := isNamed_reported [] hrest.named
  obtain ⟨hkeys, hiff⟩ := hrest.reported_eq_iff
  -- the cache has the descriptors on all pages, and the hit reports the last one of each type
  have hlisting : Trace src p w listing (runPrefix src p stem w).2 := trace_runPrefix stem w
  have hds : ds' = ds := hrest.eq_of_lookup hlisting (hcache ▸ hhit)
  obtain ⟨us, hus⟩ : ∃ us, us = (Assoc.ofEntries rest.flatten).map Prod.snd := ⟨_, rfl⟩
  have hunique : unique ds' = .ok us := by
    refine unique_eq_ok_iff.mpr ⟨rest.flatten, keyed_eq_ok_iff.mpr ⟨?_, hnamed⟩, hus⟩
    rw [hds, hrest.offered, List.nil_append]
  have hevents : hit = .hit stem ds' :: us.map (.unit within) :=
    prefixEvents_hit hhit hunique hwithin
  have hunits : units hit = us := by
    rw [hevents]
    exact units_map_unit within us
  refine ⟨?_, ?_, fun hsame hsrc' hsteady hw => ?_⟩
  · rw [hunits, hus, hrest.units, hnamed.ofEntries.typeKeys, hreported.typeKeys, hkeys]
  · rw [hunits, hus, hrest.units, hnamed.ofEntries.map_snd_inj hreported]
    exact hiff
  · subst hsrc'
    have hnames : ∀ d ∈ us, ∃ type, d.type.asKey = .ok type :=
      fun d hd => exists_asKey_of_unique hunique hd
    have hlistingUnits : units listing = us := hsame.symm.trans hunits
    have hlistWork := hlists.sameWork rfl hsteady hwithin hlisting (hlistingUnits ▸ hnames) hw
    rw [hlistingUnits] at hlistWork
    -- both scrapes come to what the units alone leave, run from the state of the later one
    have hhitTrace : Trace src' p w' hit (runPrefix src' p stem w').2 := trace_runPrefix stem w'
    have hhitWork := (hevents ▸ hhitTrace).sameWork_hit hsteady hnames (v := w') ⟨rfl, rfl, rfl⟩
    exact ⟨hlistWork.asked.trans hhitWork.asked.symm, hlistWork.totals.trans hhitWork.totals.symm,
      hlistWork.sink.trans hhitWork.sink.symm⟩

/-- A scrape that begins with an empty cache that keeps everything for ten minutes. -/
def cachingWork : Work :=
  { freshWork with cache := .empty 600 false }

/-- The next scrape after one that only has filled the cache. -/
def nextWork (src : Source) (p : Plan) (stem : String) : Work :=
  { cachingWork with cache := (runPrefix src p stem cachingWork).2.cache }

theorem twiceSource_steady : twiceSource.Steady :=
  ⟨fun _ _ _ => rfl, fun _ _ _ => rfl, fun _ _ => rfl, fun _ _ => rfl⟩

/-- The types of these pages occur more than once, but always with one descriptor. -/
theorem units_of_hit_twice :
    units (prefixEvents twiceSource coveredPlan "jobs/" (nextWork twiceSource coveredPlan "jobs/"))
      = [bare "jobs/a", bare "jobs/b", bare "jobs/c"] ∧
    units (prefixEvents twiceSource coveredPlan "jobs/" cachingWork)
      = [bare "jobs/a", bare "jobs/b", bare "jobs/c"] ∧
    SameWork (runPrefix twiceSource coveredPlan "jobs/" cachingWork).2
      (runPrefix twiceSource coveredPlan "jobs/" (nextWork twiceSource coveredPlan "jobs/")).2 := by
  have hevents : ∃ es, prefixEvents twiceSource coveredPlan "jobs/" cachingWork = es ++
      [.stored "jobs/" [bare "jobs/a", bare "jobs/b", bare "jobs/a", bare "jobs/b",
        bare "jobs/c"]] :=
    ⟨[_, _, _, _, _], rfl⟩
  obtain ⟨es, hes⟩ := hevents
  obtain ⟨-, -, hsame⟩ :=
    units_of_hit twiceSource twiceSource coveredPlan "jobs/" "jobs/" cachingWork
    (nextWork twiceSource coveredPlan "jobs/") _ _ _
    (hes ▸ List.mem_append_right es List.mem_cons_self) rfl rfl rfl
  exact ⟨rfl, rfl, hsame rfl rfl twiceSource_steady ⟨rfl, rfl, rfl⟩⟩

/-- A descriptor of finished jobs with a unit. -/
def inUnit (unit : String) : Descriptor :=
  { bare "jobs/done" with unit := .text unit }

/-- A source that lists one type on two pages, in two units. -/
def twoUnitsSource : Source :=
  { twiceSource with
    descriptors := fun _ q =>
      match q.token with
      | .text "" => .ok ⟨[inUnit "1"], .text "rest"⟩
      | _ => .ok ⟨[inUnit "s"], .text ""⟩ }

/-- The listing has a unit for the descriptor on the first page, and the hit one for that on the
second. -/
theorem units_of_hit_ne :
    let listing := prefixEvents twoUnitsSource coveredPlan "jobs/" cachingWork
    let next := nextWork twoUnitsSource coveredPlan "jobs/"
    let hit := prefixEvents twoUnitsSource coveredPlan "jobs/" next
    next.cache.lookup (twoUnitsSource.clock next.asked) "jobs/" = some [inUnit "1", inUnit "s"] ∧
      units listing = [inUnit "1"] ∧ units hit = [inUnit "s"] ∧ units hit ≠ units listing := by
  have hlisting : units (prefixEvents twoUnitsSource coveredPlan "jobs/" cachingWork)
      = [inUnit "1"] := rfl
  have hhit : units (prefixEvents twoUnitsSource coveredPlan "jobs/"
      (nextWork twoUnitsSource coveredPlan "jobs/")) = [inUnit "s"] := rfl
  refine ⟨rfl, hlisting, hhit, fun heq => ?_⟩
  have hunits : [inUnit "s"] = [inUnit "1"] := hhit.symm.trans (heq.trans hlisting)
  have hunit : Json.text "s" = Json.text "1" := congrArg Descriptor.unit (List.cons.inj hunits).1
  simp at hunit

end Scrape

end MetricRelay
