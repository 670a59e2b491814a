/-
A second scrape of the same data changes nothing.

A steady source answers equal queries equally, and its clocks stand still.  Then what a unit does is
one effect, whenever it runs, and the effect of a unit that has run before leaves the totals as they
are and hands out the same readings (`Effect.Repeats`).  As no type has two units, a second scrape
meets the same events and each of its units repeats:

* `unitEffect_repeats` — a unit repeats;
* `runEvents_congr` — the events of a scrape without a cache depend on the source only;
* `Trace.repeats` — the same events, beginning with the totals that they left, leave the same;
* `collect_twice` — a second collection exposes the same families and leaves the same totals.
-/
import MetricRelay.Proofs.Delta.Repeat
import MetricRelay.Proofs.Scrape.Independence
import MetricRelay.Proofs.Scrape.Once
import MetricRelay.Scrape.Exporter

namespace MetricRelay

open Monitoring Intake Exposition

/-- **Totals to which a batch adds the same readings twice** are the same as after once, and the
batch hands out the same, whatever happens to other types in between. -/
theorem Intake.Totals.repeat_eq {options : Options} {t u : Totals} {now : Float} {type : Json.Key}
    (hoptions : options.aggregateDeltas = true) (ht : t.Tidy) (hu : u.Tidy)
    (xs : List (Reading × Route))
    (h : Totals.SameTracker type ((t.accumulate now type xs).concluded options now type) u) :
    u.accumulate now type xs = u ∧ u.concluded options now type = u ∧
      ∀ b : Batch, b.handedOut u now type = b.handedOut (t.accumulate now type xs) now type := by
  rw [Totals.concluded, if_pos hoptions] at h
  obtain ⟨hadd, hlist, hlisted⟩ := Delta.Store.repeat_eq ht.counters hu.counters h.counters
  obtain ⟨hadd', hlist', hlisted'⟩ := Delta.Store.repeat_eq ht.histograms hu.histograms h.histograms
  refine ⟨?_, ?_, fun b => ?_⟩
  · rw [Totals.accumulate, hadd, hadd']
  · rw [Totals.concluded, if_pos hoptions, hlist, hlist']
  · rw [Batch.handedOut, Batch.handedOut, hlisted, hlisted']
    rfl

namespace Scrape

/-- The same query always has the same answer, and the clocks stand still. -/
structure Source.Steady (src : Source) : Prop where
  descriptors : ∀ asked asked' q, src.descriptors asked q = src.descriptors asked' q
  series : ∀ asked asked' q, src.series asked q = src.series asked' q
  clock : ∀ asked asked', src.clock asked = src.clock asked'
  now : ∀ asked asked', src.now asked = src.now asked'

/-- An effect that has been applied before leaves totals as they are, whatever has become of other
types since then, and hands out the same readings as before. -/
def Effect.Repeats (type : Json.Key) (e : Effect) : Prop :=
  ∀ t u : Totals, t.Tidy → u.Tidy → Totals.SameTracker type (e.totals t) u →
    e.totals u = u ∧ e.readings u = e.readings t

variable {src : Source} {p : Plan} {within : Window} {d : Descriptor} {type : Json.Key}

/-! ### Units repeat -/

/-- What a unit does does not depend on the queries before. -/
theorem unitEffect_steady (hsrc : src.Steady) (p : Plan) (within : Window) (d : Descriptor)
    (type : Json.Key) (asked asked' : History) :
    src.unitEffect p within d type asked = src.unitEffect p within d type asked' :=
  unitEffect_congr ⟨rfl, fun _ q _ => hsrc.series _ _ q, fun _ _ => hsrc.clock _ _⟩ p within type

/-- All pages are taken in at one time. -/
theorem exchange_now (hsrc : src.Steady) (options : Options) (d : Descriptor) (limit : Nat)
    (asked : History) (q : Query) :
    ∀ page ∈ (src.exchange options d limit asked q).pages, page.1 = src.clock [] := by
  induction limit generalizing asked q with
  | zero => exact fun page h => absurd h List.not_mem_nil
  | succ limit ih =>
    rw [Source.exchange]
    cases src.series asked q with
    | error fault => exact fun page h => absurd h List.not_mem_nil
    | ok page =>
      have hnow : src.clock (q :: asked) = src.clock [] := hsrc.clock _ _
      dsimp only
      split
      · exact List.forall_mem_singleton.mpr hnow
      · exact List.forall_mem_singleton.mpr hnow
      · exact List.forall_mem_cons.mpr ⟨hnow, ih _ _⟩

/-- Pages that are taken in at one time have the effect of one page. -/
theorem Exchange.accumulate_eq {x : Exchange} {now : Float} (hx : ∀ page ∈ x.pages, page.1 = now)
    (type : Json.Key) (t : Totals) : x.accumulate type t = t.accumulate now type x.contributed := by
  rw [Exchange.accumulate, Exchange.contributed]
  generalize x.pages = pages at hx
  induction pages generalizing t with
  | nil => rfl
  | cons page pages ih =>
    obtain ⟨hpage, hpages⟩ := List.forall_mem_cons.mp hx
    rw [List.foldl_cons, List.flatMap_cons, Totals.accumulate_append, hpage]
    exact ih _ hpages

/-- **A unit that runs again repeats what it did.** -/
theorem unitEffect_repeats (hsrc : src.Steady) (hplan : p.collection.aggregateDeltas = true)
    (within : Window) (d : Descriptor) (type : Json.Key) (asked : History) :
    (src.unitEffect p within d type asked).Repeats type := by
  intro t u ht hu h
  rw [Source.unitEffect] at h ⊢
  cases hq : unitQuery p within d with
  | error fault => exact ⟨rfl, rfl⟩
  | ok q =>
    rw [hq] at h
    obtain ⟨x, hx⟩ : ∃ x, src.exchange p.options d src.limit asked q = x := ⟨_, rfl⟩
    have hpages := exchange_now hsrc p.options d src.limit asked q
    have hfinished := exchange_finished src p.options d src.limit asked q
    rw [hx] at hpages
    dsimp only at hfinished
    rw [hx, hsrc.clock _ []] at hfinished
    simp only [hx, Exchange.effect, x.accumulate_eq hpages, hfinished] at h ⊢
    obtain ⟨hadd, hconclude, hhanded⟩ := Totals.repeat_eq (by exact hplan) ht hu x.contributed h
    rw [hadd]
    exact ⟨hconclude, hhanded _⟩

/-- A unit that begins with the totals of its type that it left leaves all totals as they are, and
the sink as it left it. -/
theorem runUnit_repeats (hsrc : src.Steady) (hplan : p.collection.aggregateDeltas = true)
    (hd : d.type.asKey = .ok type) {w v : Work} (hw : w.totals.Tidy) (hv : v.totals.Tidy)
    (htotals : Totals.SameTracker type (runUnit src p within d w).2.totals v.totals)
    (hsink : v.sink = w.sink) :
    (runUnit src p within d v).2.totals = v.totals ∧
      (runUnit src p within d v).2.sink = (runUnit src p within d w).2.sink := by
  have hrepeats := unitEffect_repeats hsrc hplan within d type w.asked
  rw [runUnit_eq_apply hd] at htotals
  obtain ⟨htotals', hreadings⟩ := hrepeats w.totals v.totals hw hv htotals
  rw [runUnit_eq_apply hd, runUnit_eq_apply hd,
    unitEffect_steady hsrc p within d type v.asked w.asked]
  refine ⟨htotals', ?_⟩
  show (v.sink.addAll _).1 = (w.sink.addAll _).1
  rw [hsink, hreadings]

/-! ### The events of a second scrape -/

/-- What happens in a report does not depend on the state in which it begins. -/
theorem reportEvents_congr (hsrc : src.Steady) (ds : List Descriptor) (w w' : Work) :
    reportEvents src p ds w = reportEvents src p ds w' := by
  rw [reportEvents, reportEvents, hsrc.now w.asked w'.asked]

/-- Whether there is a report depends on the descriptors and the time now only. -/
theorem report_steady (hsrc : src.Steady) (ds : List Descriptor) (w w' : Work) :
    (∃ fault v fault' v', report src p ds w = (.ok fault, v) ∧
        report src p ds w' = (.ok fault', v')) ∨
      ∃ fault, report src p ds w = (.error fault, w) ∧
        report src p ds w' = (.error fault, w') := by
  rw [report, report, hsrc.now w.asked w'.asked]
  cases unique ds with
  | error fault => exact Or.inr ⟨fault, rfl, rfl⟩
  | ok us =>
    cases (src.now w'.asked).bind (window p.collection) with
    | error fault => exact Or.inr ⟨fault, rfl, rfl⟩
    | ok within => exact Or.inl ⟨_, _, _, _, rfl, rfl⟩

theorem listEvents_congr (hsrc : src.Steady) (stem : String) (limit : Nat) (q : Query)
    (l l' : Listing) (hseen : l.seen = l'.seen) (hlisted : l.listed = l'.listed) (w w' : Work) :
    listEvents src p stem limit q l w = listEvents src p stem limit q l' w' := by
  induction limit generalizing q l l' w w' with
  | zero => rfl
  | succ limit ih =>
    rw [listEvents, listEvents, hsrc.descriptors w.asked w'.asked q]
    dsimp only
    congr 1
    cases src.descriptors w'.asked q with
    | error fault => rfl
    | ok page =>
      dsimp only
      cases keyed page.descriptors with
      | error fault => rfl
      | ok entries =>
        dsimp only
        rw [hseen, hlisted]
        obtain ⟨fresh, hfresh⟩ : ∃ fresh,
          (entries.filter fun e => !l'.seen.contains e.1).map Prod.snd = fresh := ⟨_, rfl⟩
        rw [hfresh, reportEvents_congr hsrc fresh (w.ask q) (w'.ask q)]
        congr 1
        obtain ⟨fault, v, fault', v', hreport, hreport'⟩ | ⟨fault, hreport, hreport'⟩ :=
          report_steady hsrc fresh (w.ask q) (w'.ask q)
        · rw [hreport, hreport']
          dsimp only
          cases following? page.nextToken with
          | none => rfl
          | some token => exact ih (q.forPage token) _ _ (by rfl) (by rfl) v v'
        · rw [hreport, hreport']

/-- A cache that keeps nothing goes on so. -/
theorem Trace.policy_eq {es : List Event} {w w' : Work} (h : Trace src p w es w') :
    w'.cache.policy = w.cache.policy := by
  induction h with
  | nil => rfl
  | cons hstep _ ih =>
    rw [ih]
    cases hstep with
    | page => rfl
    | hit => rfl
    | unit => rw [runUnit_cache]
    | stored =>
      rw [DescriptorCache.store]
      split <;> rfl

theorem lookup_eq_none {cache : DescriptorCache} (h : cache.policy = .nothing) (now : Float)
    (stem : String) : cache.lookup now stem = none := by
  rw [DescriptorCache.lookup, DescriptorCache.keeps, h]
  rfl

theorem prefixesEvents_congr (hsrc : src.Steady) (stems : List String) {w w' : Work}
    (hw : w.cache.policy = .nothing) (hw' : w'.cache.policy = .nothing) :
    prefixesEvents src p stems w = prefixesEvents src p stems w' := by
  induction stems generalizing w w' with
  | nil => rfl
  | cons stem stems ih =>
    have hfirst : prefixEvents src p stem w = prefixEvents src p stem w' := by
      rw [prefixEvents, prefixEvents, lookup_eq_none hw, lookup_eq_none hw']
      exact listEvents_congr hsrc stem src.limit _ {} {} rfl rfl w w'
    have hnext : ∀ v : Work, v.cache.policy = .nothing →
        (runPrefix src p stem v).2.cache.policy = .nothing :=
      fun v hv => (trace_runPrefix stem v).policy_eq.trans hv
    rw [prefixesEvents, prefixesEvents, hfirst, ih (hnext w hw) (hnext w' hw')]

/-- Without a cache, the events of a scrape depend on the source and the plan only. -/
theorem runEvents_congr (hsrc : src.Steady) {w w' : Work} (hw : w.cache.policy = .nothing)
    (hw' : w'.cache.policy = .nothing) : runEvents src p w = runEvents src p w' :=
  prefixesEvents_congr hsrc p.collection.prefixes hw hw'

/-! ### The state after a second scrape -/

/-- Events without a unit of a type leave its totals as they are. -/
theorem Trace.sameTracker {es : List Event} {w w' : Work} (h : Trace src p w es w')
    (hes : ∀ d ∈ units es, ∃ other, d.type.asKey = .ok other ∧ type ≠ other) (hw : w.totals.Tidy) :
    Totals.SameTracker type w'.totals w.totals := by
  induction h with
  | nil => exact ⟨⟨rfl, rfl⟩, ⟨rfl, rfl⟩⟩
  | cons hstep _ ih =>
    cases hstep with
    | page => exact ih hes hw
    | hit => exact ih hes hw
    | stored => exact ih hes hw
    | unit within d =>
      obtain ⟨⟨other, hd, hne⟩, hes⟩ := List.forall_mem_cons.mp hes
      have hunit := runUnit_changesOnly src p within hd hw
      exact (ih hes hunit.tidy).trans (hunit.sameTracker hne)

/-- The same events, beginning with the totals that they left and the same sink, leave the same. -/
theorem Trace.repeats (hsrc : src.Steady) (hplan : p.collection.aggregateDeltas = true)
    {es : List Event} {w w' v v' : Work} (hw : Trace src p w es w') (hv : Trace src p v es v')
    (hnames : ∀ d ∈ units es, ∃ type, d.type.asKey = .ok type)
    (hnodup : (typeKeys (units es)).Nodup) (hwt : w.totals.Tidy) (hvt : v.totals.Tidy)
    (htotals : v.totals = w'.totals) (hsink : v.sink = w.sink) :
    v'.totals = w'.totals ∧ v'.sink = w'.sink := by
  -- on the events of the first run; the second one keeps the totals that the first one leaves
  induction hw generalizing v with
  | nil =>
    cases hv
    exact ⟨htotals, hsink⟩
  | @cons w w₁ w' e es hstep hrest ih =>
    cases hv with
    | cons hstep' hrest' =>
      cases hstep with
      | page =>
        cases hstep'
        exact ih hrest' hnames hnodup hwt hvt htotals hsink
      | hit =>
        cases hstep'
        exact ih hrest' hnames hnodup hwt hvt htotals hsink
      | stored =>
        cases hstep'
        exact ih hrest' hnames hnodup hwt hvt htotals hsink
      | unit within d =>
        cases hstep'
        obtain ⟨⟨type, hd⟩, hnames⟩ := List.forall_mem_cons.mp hnames
        have hnodup' : (typeKeys (d :: units es)).Nodup := hnodup
        rw [typeKeys_cons hd, List.nodup_cons] at hnodup'
        -- no later unit is for this type, so its totals are still those that its unit left
        have hothers := exists_other_of_not_mem hnodup'.1 hnames
        have hunit := runUnit_changesOnly src p within hd hwt
        have hkept := hrest.sameTracker hothers hunit.tidy
        obtain ⟨hsame, hsink'⟩ := runUnit_repeats hsrc hplan hd hwt hvt (htotals ▸ hkept.symm) hsink
        refine ih hrest' hnames hnodup'.2 hunit.tidy ?_ (hsame.trans htotals) hsink'
        rw [hsame]
        exact hvt

theorem Trace.tidy {es : List Event} {w w' : Work} (h : Trace src p w es w')
    (hnames : ∀ d ∈ units es, ∃ type, d.type.asKey = .ok type) (hw : w.totals.Tidy) :
    w'.totals.Tidy := by
  induction h with
  | nil => exact hw
  | cons hstep _ ih =>
    cases hstep with
    | page => exact ih hnames hw
    | hit => exact ih hnames hw
    | stored => exact ih hnames hw
    | unit within d =>
      obtain ⟨⟨type, hd⟩, hnames⟩ := List.forall_mem_cons.mp hnames
      exact ih hnames (runUnit_changesOnly src p within hd hw).tidy

/-- **A second collection of the same data changes nothing.**  Take an exporter whose configuration
passes, adds up differences and caches no descriptors, with any running totals, and a steady source
that lists for each prefix only types that start with it.  Whatever pages, duplicates, kinds, faults
and times to live there are, a second collection leaves the running totals as the first one left
them, and exposes the same families. -/
theorem collect_twice (e : Exporter) (src : Source) (v : Json)
    (hv : Settings.checkCollection v = .valid e.plan.collection)
    (hplan : e.plan.collection.aggregateDeltas = true) (hcache : e.cache.policy = .nothing)
    (htotals : e.totals.Tidy) (hsrc : src.Steady)
    (hhonours : ∀ stem ∈ e.plan.collection.prefixes, src.Honours e.plan.collection stem) :
    ((e.collect src).2.collect src).2.totals = (e.collect src).2.totals ∧
      ((e.collect src).2.collect src).1.families = (e.collect src).1.families := by
  obtain ⟨w, hw⟩ : ∃ w : Work, w = e.work := ⟨_, rfl⟩
  obtain ⟨w', hw'⟩ : ∃ w' : Work, w' = (run src e.plan w).2 := ⟨_, rfl⟩
  obtain ⟨u, hu⟩ : ∃ u : Work, u = (e.collect src).2.work := ⟨_, rfl⟩
  -- the second scrape begins with the totals and the cache that the first one leaves
  have hcarried : u.totals = w'.totals ∧ u.cache = w'.cache := by
    rw [hu, hw', hw]
    exact ⟨rfl, rfl⟩
  have hfirst : Trace src e.plan w (runEvents src e.plan w) w' := hw' ▸ trace_run src e.plan w
  have hpolicy : w.cache.policy = .nothing := by rw [hw]; exact hcache
  have hsame : runEvents src e.plan u = runEvents src e.plan w := by
    refine runEvents_congr hsrc ?_ hpolicy
    rw [hcarried.2]
    exact hfirst.policy_eq.trans hpolicy
  have hsecond : Trace src e.plan u (runEvents src e.plan w) (run src e.plan u).2 :=
    hsame ▸ trace_run src e.plan u
  have hapart := Settings.pairwise_prefixes_of_checkCollection hv
  have hhonoured : Honoured src e.plan e.plan.collection.prefixes w :=
    ⟨hhonours, fun stem _ now ds h => by rw [lookup_eq_none hpolicy] at h; cases h⟩
  have hnames : ∀ d ∈ units (runEvents src e.plan w), ∃ type, d.type.asKey = .ok type := by
    intro d hd
    obtain ⟨stem, -, hstem⟩ := isUnder_units_runEvents hapart hhonoured d hd
    exact hstem.asKey
  have htidy : w.totals.Tidy := by rw [hw]; exact htotals
  have hrepeats := hfirst.repeats hsrc hplan hsecond hnames
    (nodup_units_prefixesEvents hapart hhonoured) htidy
    (by rw [hcarried.1]; exact hfirst.tidy hnames htidy) hcarried.1 (by rw [hu, hw]; rfl)
  subst hu hw' hw
  exact ⟨hrepeats.1, congrArg Sink.families hrepeats.2⟩

/-- A configuration that adds up differences. -/
def deltaConfig : Json :=
  .object [("metrics_prefixes", .list [.text "jobs/"]), ("aggregate_deltas", .bool true)]

/-- An exporter of that configuration that has not scraped yet. -/
def deltaExporter : Exporter where
  plan :=
    { collection := { prefixes := ["jobs/"], aggregateDeltas := true },
      metricNamespace := "stackdriver" }
  totals := ⟨{ ttl := 1800 }, { ttl := 1800 }⟩
  cache := .empty 0 true
  meters := { stem := "stackdriver_monitoring_" }

/-- A count of finished jobs since the one before. -/
def deltaSeries (count : Int) (stop : String) : Series :=
  { metricType := .text "jobs/done", resourceType := .text "host", kind := .text "DELTA"
    valueType := .text "INT64", points := [⟨.null, .text stop, { int64 := some count }⟩] }

/-- A steady source with two readings of one running total, the newer one first. -/
def deltaSource : Source where
  descriptors _ _ := .ok ⟨[bare "jobs/done", bare "jobs/done"], .text ""⟩
  series _ _ :=
    .ok ⟨[deltaSeries 2 "2024-05-01T00:01:00Z", deltaSeries 1 "2024-05-01T00:00:00Z"], .text ""⟩
  clock _ := 0
  now _ := .ok .epoch
  wall _ := 0
  limit := 5

theorem deltaSource_steady : deltaSource.Steady :=
  ⟨fun _ _ _ => rfl, fun _ _ _ => rfl, fun _ _ => rfl, fun _ _ => rfl⟩

theorem collect_twice_deltas :
    Settings.checkCollection deltaConfig = .valid deltaExporter.plan.collection ∧
    deltaSource.Steady ∧
    ((deltaExporter.collect deltaSource).2.collect deltaSource).2.totals
      = (deltaExporter.collect deltaSource).2.totals ∧
    ((deltaExporter.collect deltaSource).2.collect deltaSource).1.families
      = (deltaExporter.collect deltaSource).1.families := by
  have hminimal : Settings.minimalPrefixes ["jobs/"] = ["jobs/"] := by
    rw [Settings.minimalPrefixes, List.mergeSort_singleton]
    decide
  have hpass : Settings.checkCollection deltaConfig =
    .valid { prefixes := Settings.minimalPrefixes ["jobs/"], aggregateDeltas := true } := rfl
  have hv : Settings.checkCollection deltaConfig = .valid deltaExporter.plan.collection := by
    rw [hpass, hminimal]
    rfl
  have htidy : deltaExporter.totals.Tidy :=
    ⟨Delta.Store.tidy_empty 1800, Delta.Store.tidy_empty 1800⟩
  have hhonours : ∀ stem ∈ deltaExporter.plan.collection.prefixes,
      deltaSource.Honours deltaExporter.plan.collection stem := by
    intro stem hstem asked token page hpage d hd
    cases List.mem_singleton.mp hstem
    cases hpage
    refine ⟨"jobs/done", ?_, by decide⟩
    simp only [List.mem_cons, List.not_mem_nil, or_false, or_self] at hd
    rw [hd]
    rfl
  exact ⟨hv, deltaSource_steady,
    collect_twice deltaExporter deltaSource deltaConfig hv rfl rfl htidy deltaSource_steady
      hhonours⟩

end Scrape

end MetricRelay
