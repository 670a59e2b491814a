/-
No failure is lost, and none is made up.

Whatever the orders in which threads run and record their faults, the fault of a scrape stands for
what occurs in it: there is one exactly if something fails, and it is one of the faults that occur.
So the meters, which look at that fault only, count the scrapes in which something fails:

* `Represents` — a fault stands for occurrences;
* `ReportEnds.represents`, `ListingEnds.represents`, `PrefixEnds.represents` — the three levels;
* `ScrapeEnds.represents` — the fault of a scrape;
* `Collects.meters`, `Collects.exposed` — what is counted after collections, and what they expose of
  it;
* `represents_of_collections` — both for the collections of an exporter.
-/
import MetricRelay.Proofs.Scrape.Occurrence
import MetricRelay.Proofs.Scrape.Paging
import MetricRelay.Proofs.Scrape.Trace
import MetricRelay.Scrape.Exporter

namespace MetricRelay.Scrape

open Monitoring Intake Exposition

/-- A fault stands for occurrences: there is none exactly if nothing fails, and it is one that
occurs. -/
structure Represents (os : List Occurrence) (fault : Option Fault) : Prop where
  eq_none_iff : fault = none ↔ ∀ o ∈ os, o.fault? = none
  occurs : ∀ f, fault = some f → ∃ o ∈ os, o.fault? = some f

/-- Something fails. -/
def hasFailed (os : List Occurrence) : Bool :=
  os.any fun o => o.fault?.isSome

theorem hasFailed_eq_false_iff {os : List Occurrence} :
    hasFailed os = false ↔ ∀ o ∈ os, o.fault? = none := by
  simp [hasFailed]

theorem Represents.isSome {os : List Occurrence} {fault : Option Fault} (h : Represents os fault) :
    fault.isSome = hasFailed os := by
  cases fault with
  | none => exact (hasFailed_eq_false_iff.mpr (h.eq_none_iff.mp rfl)).symm
  | some f =>
    cases hos : hasFailed os with
    | true => rfl
    | false => exact absurd (h.eq_none_iff.mpr (hasFailed_eq_false_iff.mp hos)) (by simp)

/-- The first one of the faults that occur, in any order, stands for what occurs. -/
theorem represents_head? {os : List Occurrence} {recorded : List Fault}
    (h : (os.filterMap Occurrence.fault?).Perm recorded) : Represents os recorded.head? where
  eq_none_iff := by
    rw [List.head?_eq_none_iff, ← List.perm_nil, ← h.congr_left, List.perm_nil,
      List.filterMap_eq_nil_iff]
  occurs f hf := List.mem_filterMap.mp (h.mem_iff.mpr (List.mem_of_head? hf))

theorem represents_some {os : List Occurrence} {o : Occurrence} {f : Fault} (ho : o ∈ os)
    (hf : o.fault? = some f) : Represents os (some f) where
  eq_none_iff := ⟨fun h => (by cases h), fun h => absurd ((h o ho).symm.trans hf) (by simp)⟩
  occurs g hg := ⟨o, ho, hf.trans hg⟩

/-- Of two parts of what occurs, the fault of the first one counts if it has one. -/
theorem Represents.append {os os' : List Occurrence} {fault fault' : Option Fault}
    (h : Represents os fault) (h' : Represents os' fault') :
    Represents (os ++ os') (fault.orElse fun _ => fault') where
  eq_none_iff := by
    rw [List.forall_mem_append, ← h.eq_none_iff, ← h'.eq_none_iff]
    cases fault <;> simp
  occurs f hf := by
    cases fault with
    | none =>
      obtain ⟨o, ho, hof⟩ := h'.occurs f hf
      exact ⟨o, List.mem_append_right os ho, hof⟩
    | some g =>
      obtain ⟨o, ho, hof⟩ := h.occurs f hf
      exact ⟨o, List.mem_append_left os' ho, hof⟩

theorem Represents.cons {os : List Occurrence} {fault : Option Fault} (h : Represents os fault)
    {o : Occurrence} (ho : o.fault? = none) : Represents (o :: os) fault where
  eq_none_iff := by rw [List.forall_mem_cons, h.eq_none_iff, and_iff_right ho]
  occurs f hf := by
    obtain ⟨x, hx, hxf⟩ := h.occurs f hf
    exact ⟨x, List.mem_cons_of_mem o hx, hxf⟩

/-! ### The three levels -/

section

variable {src : Source} {p : Plan} {os : List Occurrence}

/-- The fault that a report raises, or the one that is recorded first, stands for the report. -/
theorem ReportEnds.represents {ds : List Descriptor} {outcome : Except Fault (Option Fault)}
    (h : ReportEnds List.Perm src p ds os outcome) :
    (∀ fault, outcome = .ok fault → Represents os fault) ∧
      ∀ fault, outcome = .error fault → Represents os (some fault) := by
  cases h with
  | raised h =>
    refine ⟨fun _ h => (by cases h), ?_⟩
    rintro fault ⟨⟩
    exact represents_some List.mem_cons_self rfl
  | joined h hunits hrecorded =>
    refine ⟨?_, fun _ h => (by cases h)⟩
    rintro fault ⟨⟩
    exact (represents_head? hrecorded).cons rfl

/-- The fault of a listing stands for what has occurred before it and for what occurs in it. -/
theorem ListingEnds.represents {q : Query} {l : Listing} {fault : Option Fault}
    {before : List Occurrence} (h : ListingEnds List.Perm src p q l os fault)
    (hbefore : Represents before l.first) : Represents (before ++ os) fault := by
  induction h generalizing before with
  | stopped => exact represents_some (List.mem_append_right _ List.mem_cons_self) rfl
  | refused => exact hbefore.append (represents_some List.mem_cons_self rfl)
  | broken => exact represents_some (List.mem_append_right _ List.mem_cons_self) rfl
  | unnamed =>
    exact represents_some
      (List.mem_append_right _ (List.mem_cons_of_mem _ List.mem_cons_self)) rfl
  | raised h hkeyed hreport =>
    obtain ⟨o, ho, hf⟩ := (hreport.represents.2 _ rfl).occurs _ rfl
    exact represents_some (List.mem_append_right _ (List.mem_cons_of_mem _ ho)) hf
  | last h hkeyed hreport => exact hbefore.append ((hreport.represents.1 _ rfl).cons rfl)
  | @next _ _ _ page _ os os' _ _ _ h hkeyed hreport hnext hrest ih =>
    -- the pages so far, with this one, are what has occurred before the rest
    have hpage := hbefore.append ((hreport.represents.1 _ rfl).cons (o := .request (.ok page)) rfl)
    have hall := ih hpage
    rwa [List.append_assoc, List.cons_append] at hall

theorem PrefixEnds.represents {stem : String} {fault : Option Fault}
    (h : PrefixEnds List.Perm src p stem os fault) : Represents os fault := by
  cases h with
  | listed h =>
    have hnil : Represents [] (none : Option Fault) := represents_head? (List.Perm.refl _)
    exact h.represents hnil
  | hit h hreport => exact hreport.represents.1 _ rfl
  | hitRaised h hreport => exact hreport.represents.2 _ rfl

theorem PrefixesEnd.mem_iff {stems : List String} {oss : List (List Occurrence)}
    {faults : List Fault} (h : PrefixesEnd List.Perm src p stems oss faults) :
    (faults = [] ↔ ∀ os ∈ oss, ∀ o ∈ os, o.fault? = none) ∧
      ∀ f ∈ faults, ∃ os ∈ oss, ∃ o ∈ os, o.fault? = some f := by
  induction h with
  | nil => simp
  | @cons stem stems os oss fault faults h hs ih =>
    have hfirst := h.represents
    constructor
    · rw [List.append_eq_nil_iff, List.forall_mem_cons, ih.1, ← hfirst.eq_none_iff,
        Option.toList_eq_nil_iff]
    · intro f hf
      rcases List.mem_append.mp hf with hf | hf
      · obtain ⟨o, ho, hof⟩ := hfirst.occurs f (Option.mem_toList.mp hf)
        exact ⟨os, List.mem_cons_self, o, ho, hof⟩
      · obtain ⟨os', hos', hof⟩ := ih.2 f hf
        exact ⟨os', List.mem_cons_of_mem os hos', hof⟩

/-- **The fault of a scrape stands for all that occurs in it**, whatever the orders in which its
threads run and record their faults. -/
theorem ScrapeEnds.represents {oss : List (List Occurrence)} {fault : Option Fault}
    (h : ScrapeEnds List.Perm src p oss fault) : Represents oss.flatten fault := by
  obtain ⟨faults, recorded, hends, hrecorded, rfl⟩ := h
  obtain ⟨hnil, hmem⟩ := hends.mem_iff
  constructor
  · rw [List.head?_eq_none_iff, ← List.perm_nil, ← hrecorded.congr_left, List.perm_nil, hnil,
      List.forall_mem_flatten]
  · intro f hf
    obtain ⟨os, hos, o, ho, hof⟩ := hmem f (hrecorded.mem_iff.mpr (List.mem_of_head? hf))
    exact ⟨o, List.mem_flatten_of_mem hos ho, hof⟩

end

/-! ### Collections -/

namespace Exporter

/-- What a collection yields and leaves when its scrape has ended with a fault or none, in a
state. -/
def concluded (e : Exporter) (src : Source) (fault : Option Fault) (w : Work) :
    Collected × Exporter :=
  let finished := src.wall w.asked
  let duration := finished - src.wall []
  let meters := w.meters.recordScrape fault.isSome finished duration
  ({ families := w.sink.families
     meters := meters.families e.plan.collection.projectId
     fault, asked := w.asked.reverse },
   { e with
     totals := w.totals, cache := w.cache, meters
     lastScrape :=
      { time := some finished, duration := some duration, fault, samples := w.sink.size } })

/-- Collections one after the other, each from a source of its own: what they yield, and the
exporter. -/
def collectAll (e : Exporter) : List Source → List Collected × Exporter
  | [] => ([], e)
  | src :: srcs =>
    let (c, e) := e.collect src
    let (cs, e) := e.collectAll srcs
    (c :: cs, e)

end Exporter

/-- Collections one after the other, with what occurs in their scrapes and what they yield.  The
threads of each scrape run and record their faults in any orders; of the meters they change nothing
but the count of requests. -/
inductive Collects : Exporter → List (List Occurrence) → List Collected → Exporter → Prop
  | nil (e : Exporter) : Collects e [] [] e
  | cons {e e' : Exporter} {src : Source} {oss : List (List Occurrence)} {fault : Option Fault}
      {w : Work} {rest : List (List Occurrence)} {cs : List Collected}
      (h : ScrapeEnds List.Perm src e.plan oss fault) (hw : Counts e.work w)
      (hs : Collects (e.concluded src fault w).2 rest cs e') :
      Collects e (oss.flatten :: rest) ((e.concluded src fault w).1 :: cs) e'

theorem collects_collectAll (e : Exporter) (srcs : List Source) :
    ∃ rest, Collects e rest (e.collectAll srcs).1 (e.collectAll srcs).2 := by
  induction srcs generalizing e with
  | nil => exact ⟨[], .nil e⟩
  | cons src srcs ih =>
    obtain ⟨rest, hrest⟩ := ih (e.collect src).2
    exact ⟨_, .cons (scrapeEnds_run List.Perm.refl src e.plan e.work)
      (counts_run src e.plan e.work) hrest⟩

theorem length_collectAll (e : Exporter) (srcs : List Source) :
    (e.collectAll srcs).1.length = srcs.length := by
  induction srcs generalizing e with
  | nil => rfl
  | cons src srcs ih => exact congrArg (· + 1) (ih (e.collect src).2)

section

variable {e e' : Exporter} {rest : List (List Occurrence)} {cs : List Collected}

/-- A collection is counted, also as a failed one if its scrape has a fault. -/
theorem Exporter.meters_concluded {w : Work} (hw : Counts e.work w) (src : Source)
    (fault : Option Fault) :
    let m := (e.concluded src fault w).2.meters
    m.stem = e.meters.stem ∧ m.scrapes = e.meters.scrapes + 1 ∧
      m.scrapeErrors = e.meters.scrapeErrors + fault.isSome.toNat ∧
      m.lastFailed = fault.isSome := by
  obtain ⟨qs, -, hmeters⟩ := hw
  simp only [concluded, hmeters, Meters.recordCalls, Meters.recordScrape, work]
  cases fault <;> simp

theorem Collects.represents (h : Collects e rest cs e') :
    rest.length = cs.length ∧ ∀ x ∈ rest.zip cs, Represents x.1 x.2.fault := by
  induction h with
  | nil => exact ⟨rfl, fun x h => absurd h List.not_mem_nil⟩
  | cons h hw hs ih => exact ⟨congrArg (· + 1) ih.1, List.forall_mem_cons.mpr ⟨h.represents, ih.2⟩⟩

/-- The meters count the collections and those in which something fails, and show whether something
has failed in the latest one. -/
theorem Collects.meters (h : Collects e rest cs e') :
    e'.meters.stem = e.meters.stem ∧ e'.meters.scrapes = e.meters.scrapes + rest.length ∧
      e'.meters.scrapeErrors = e.meters.scrapeErrors + rest.countP hasFailed ∧
      e'.meters.lastFailed = (rest.getLast?.map hasFailed).getD e.meters.lastFailed := by
  induction h with
  | nil => exact ⟨rfl, rfl, rfl, rfl⟩
  | @cons e e' src oss fault w rest cs h hw hs ih =>
    obtain ⟨hstem, hscrapes, herrors, hlast⟩ := ih
    obtain ⟨hstem', hscrapes', herrors', hlast'⟩ := Exporter.meters_concluded hw src fault
    rw [h.represents.isSome] at herrors' hlast'
    refine ⟨hstem.trans hstem', ?_, ?_, ?_⟩
    · rw [hscrapes, hscrapes', List.length_cons]
      omega
    · rw [herrors, herrors', List.countP_cons]
      cases hasFailed oss.flatten <;> simp [Nat.add_comm, Nat.add_left_comm]
    · rw [hlast, hlast', List.getLast?_cons]
      cases rest.getLast? <;> rfl

/-- The latest collection exposes the meters that it leaves. -/
theorem Collects.exposed (h : Collects e rest cs e') :
    e'.plan = e.plan ∧ ∀ c, cs.getLast? = some c →
      c.meters = e'.meters.families e.plan.collection.projectId := by
  induction h with
  | nil => exact ⟨rfl, fun c h => (by cases h)⟩
  | @cons e e' src oss fault w rest cs h hw hs ih =>
    refine ⟨ih.1, fun c hc => ?_⟩
    rw [List.getLast?_cons] at hc
    cases hcs : cs.getLast? with
    | none =>
      -- the collection is the latest one
      obtain rfl := List.getLast?_eq_none_iff.mp hcs
      cases hs
      cases hc
      rfl
    | some last =>
      rw [hcs] at hc
      cases hc
      exact ih.2 last hcs

/-- What the latest collection shows of all of them. -/
theorem Collects.showsScrapes (h : Collects e rest cs e') {c : Collected}
    (hc : cs.getLast? = some c) :
    ShowsScrapes c.meters e.meters.stem e.plan.collection.projectId
      (e.meters.scrapes + rest.length) (e.meters.scrapeErrors + rest.countP hasFailed)
      ((rest.getLast?.map hasFailed).getD e.meters.lastFailed) := by
  obtain ⟨hstem, hscrapes, herrors, hlast⟩ := h.meters
  rw [h.exposed.2 c hc, ← hstem, ← hscrapes, ← herrors, ← hlast]
  exact e'.meters.showsScrapes _

end

/-- **No failure is lost, and none is made up.**  Whatever a source answers and in whatever orders
threads run and record their faults, the fault of a scrape stands for the requests for pages of
descriptors, the windows and the units: there is none exactly if none of them fails, and it is one
of their faults.  Threads that run one after the other are one of these ways.  Of collections one
after the other, each one yields something; the meters count them and those in which something
fails, and tell whether something has failed in the latest one, which exposes one sample for each of
these. -/
theorem represents_of_collections (e : Exporter) :
    (∀ src oss fault, ScrapeEnds List.Perm src e.plan oss fault → Represents oss.flatten fault) ∧
    (∀ src w, ScrapeEnds List.Perm src e.plan (runOccurrences src e.plan w) (run src e.plan w).1) ∧
    (∀ srcs, (e.collectAll srcs).1.length = srcs.length ∧
      ∃ rest, Collects e rest (e.collectAll srcs).1 (e.collectAll srcs).2) ∧
    ∀ rest cs e', Collects e rest cs e' →
      (rest.length = cs.length ∧ ∀ x ∈ rest.zip cs, Represents x.1 x.2.fault) ∧
      (∀ c, cs.getLast? = some c →
        c.meters = e'.meters.families e.plan.collection.projectId ∧
        ShowsScrapes c.meters e.meters.stem e.plan.collection.projectId
          (e.meters.scrapes + rest.length) (e.meters.scrapeErrors + rest.countP hasFailed)
          ((rest.getLast?.map hasFailed).getD e.meters.lastFailed)) ∧
      e'.meters.scrapes = e.meters.scrapes + rest.length ∧
      e'.meters.scrapeErrors = e.meters.scrapeErrors + rest.countP hasFailed ∧
      e'.meters.lastFailed = (rest.getLast?.map hasFailed).getD e.meters.lastFailed :=
  ⟨fun _ _ _ h => h.represents, fun src w => scrapeEnds_run List.Perm.refl src e.plan w,
    fun srcs => ⟨length_collectAll e srcs, collects_collectAll e srcs⟩,
    fun _ _ _ h => ⟨h.represents, fun c hc => ⟨h.exposed.2 c hc, h.showsScrapes hc⟩, h.meters.2⟩⟩

/-- An exporter for jobs that has not scraped yet. -/
def jobsExporter : Exporter where
  plan :=
    { collection := { projectId := "mine", prefixes := ["jobs/"] },
      metricNamespace := "stackdriver" }
  totals := ⟨{ ttl := 1800 }, { ttl := 1800 }⟩
  cache := .empty 0 true
  meters := { stem := "stackdriver_monitoring_" }

/-- The descriptors of two types of jobs. -/
def jobsPage : DescriptorPage :=
  ⟨[{ type := .text "jobs/a" }, { type := .text "jobs/b" }], .text ""⟩

/-- A source that lists these types and may fail to answer for their time series, in two ways. -/
def jobsSource (fails : Bool) : Source where
  descriptors _ _ := .ok jobsPage
  series _ q :=
    match fails, q.subject with
    | false, _ => .ok ⟨[], .text ""⟩
    | true, .series (.text "jobs/a") _ _ => .error (.api "timeSeries" .notJson)
    | true, _ => .error .notObject
  clock _ := 0
  now _ := .ok .epoch
  wall _ := 0
  limit := 5

/-- The unit of the second type may end first, and then its fault is the one of the scrape. -/
theorem represents_of_collections_jobs :
    let within : Window := ⟨⟨-300000000⟩, ⟨0⟩⟩
    let oss : List (List Occurrence) :=
      [[.request (.ok jobsPage), .outset (.ok (jobsPage.descriptors, within)),
        .unit { type := .text "jobs/a" } [.api "timeSeries" .notJson],
        .unit { type := .text "jobs/b" } [.notObject]]]
    let last := (jobsExporter.collectAll [jobsSource true, jobsSource false]).2
    ScrapeEnds List.Perm (jobsSource true) jobsExporter.plan oss (some .notObject) ∧
      Represents oss.flatten (some .notObject) ∧
      (run (jobsSource true) jobsExporter.plan jobWork).1 = some (.api "timeSeries" .notJson) ∧
      (∃ rest cs, Collects jobsExporter rest cs last ∧ rest.countP hasFailed = 1) ∧
      last.meters.scrapes = 2 ∧ last.meters.scrapeErrors = 1 ∧ last.meters.lastFailed = false ∧
      (∃ c, (jobsExporter.collectAll [jobsSource true]).1.getLast? = some c ∧
        ShowsScrapes c.meters "stackdriver_monitoring_" "mine" 1 1 true) ∧
      ∃ c, (jobsExporter.collectAll [jobsSource true, jobsSource false]).1.getLast? = some c ∧
        ShowsScrapes c.meters "stackdriver_monitoring_" "mine" 2 1 false := by
  intro within oss last
  obtain ⟨hscrape, -, hall, hcollects⟩ := represents_of_collections jobsExporter
  have hunits : UnitsEnd (jobsSource true) jobsExporter.plan within jobsPage.descriptors
      [.unit { type := .text "jobs/a" } [.api "timeSeries" .notJson],
        .unit { type := .text "jobs/b" } [.notObject]] :=
    unitsEnd_unitOccurrences within jobsPage.descriptors jobWork
  have houtset : (jobsSource true).outset jobsExporter.plan jobsPage.descriptors [] =
      .ok (jobsPage.descriptors, within) := rfl
  -- the second unit records its fault before the first one
  have hrecorded : [Fault.api "timeSeries" .notJson, .notObject].Perm
      [.notObject, .api "timeSeries" .notJson] := List.Perm.swap _ _ _
  have hreport : ReportEnds List.Perm (jobsSource true) jobsExporter.plan jobsPage.descriptors
      [.outset (.ok (jobsPage.descriptors, within)),
        .unit { type := .text "jobs/a" } [.api "timeSeries" .notJson],
        .unit { type := .text "jobs/b" } [.notObject]] (.ok (some .notObject)) :=
    .joined houtset hunits hrecorded
  let query := descriptorQuery jobsExporter.plan.collection "jobs/"
  have hanswer : (jobsSource true).descriptors [] query = .ok jobsPage := rfl
  have hlisting : ListingEnds List.Perm (jobsSource true) jobsExporter.plan query {} _ _ :=
    .last hanswer rfl hreport rfl
  have hprefixes : PrefixesEnd List.Perm (jobsSource true) jobsExporter.plan ["jobs/"] oss
      ((some Fault.notObject).toList ++ []) := .cons (.listed hlisting) .nil
  have hends : ScrapeEnds List.Perm (jobsSource true) jobsExporter.plan oss (some .notObject) :=
    ⟨_, _, hprefixes, List.Perm.refl _, rfl⟩
  obtain ⟨-, rest, hrest⟩ := hall [jobsSource true, jobsSource false]
  obtain ⟨-, -, -, herrors, -⟩ := hcollects _ _ _ hrest
  have herrors' : last.meters.scrapeErrors = 1 := rfl
  have hone : rest.countP hasFailed = 1 := by
    rw [← herrors', herrors]
    simp [jobsExporter]
  have hshows : ∀ srcs c, (jobsExporter.collectAll srcs).1.getLast? = some c →
      let m := (jobsExporter.collectAll srcs).2.meters
      ShowsScrapes c.meters "stackdriver_monitoring_" "mine" m.scrapes m.scrapeErrors
        m.lastFailed := by
    intro srcs c hc
    obtain ⟨-, rest, hrest⟩ := hall srcs
    obtain ⟨-, hshown, hscrapes, herrors, hlast⟩ := hcollects _ _ _ hrest
    dsimp only
    rw [hscrapes, herrors, hlast]
    exact (hshown c hc).2
  exact ⟨hends, hscrape _ _ _ hends, rfl, ⟨rest, _, hrest, hone⟩, rfl, herrors', rfl,
    ⟨_, rfl, hshows [jobsSource true] _ rfl⟩,
    ⟨_, rfl, hshows [jobsSource true, jobsSource false] _ rfl⟩⟩

end MetricRelay.Scrape
