/-
What may fail in a scrape.

A scrape asks for pages of descriptors, sets out to report them, and runs units.  Each of these may
fail (`Occurrence.fault?`), and the faults travel through three levels: those of the units of a page
to the listing, that of the listing to its prefix, that of the prefix to the scrape.  Prefixes and
units run in threads of their own: between the steps of one thread the others may ask and change
whatever they like, and faults are recorded in the order in which the threads end.  `ScrapeEnds`
says how a scrape may go under these circumstances; its parameter `records` says in which orders
faults may be recorded.

* `runOccurrences` — what occurs if the threads run one after the other, in the order of their
  lists;
* `scrapeEnds_run` — which is one way for a scrape to go.
-/
import MetricRelay.Scrape.Listing

namespace MetricRelay.Scrape

open Monitoring Intake

/-- Something in a scrape that may fail. -/
inductive Occurrence where
  /-- A page of descriptors is asked for. -/
  | request (answer : Except Fault DescriptorPage)
  /-- The types of descriptors are told apart, and the window for their units is computed. -/
  | outset (outcome : Except Fault (List Descriptor × Window))
  /-- The unit of a descriptor runs, and these faults occur in it. -/
  | unit (d : Descriptor) (faults : List Fault)
  /-- No more pages are followed. -/
  | endless

/-- The fault of an occurrence that fails.  The last fault in a unit stands for the unit. -/
def Occurrence.fault? : Occurrence → Option Fault
  | request (.error fault) => some fault
  | request (.ok _) => none
  | outset (.error fault) => some fault
  | outset (.ok _) => none
  | unit _ faults => faults.getLast?
  | endless => some .endless

/-- The descriptors for which a report runs units, and the window of these. -/
def Source.outset (src : Source) (p : Plan) (ds : List Descriptor) (asked : History) :
    Except Fault (List Descriptor × Window) := do
  let us ← unique ds
  let within ← (src.now asked).bind (window p.collection)
  .ok (us, within)

/-! ### The ways of threads -/

section Ways

variable (records : List Fault → List Fault → Prop) (src : Source) (p : Plan)

/-- The pages of a unit, from a query and a batch to the batch and the fault with which they end.
Each request and each page meets what others have made of the state by then. -/
inductive PagesEnd : Query → Batch → Batch → Option Fault → Prop
  | stopped (q : Query) (b : Batch) : PagesEnd q b b (some .endless)
  | refused {asked : History} {q : Query} {b : Batch} {fault : Fault}
      (h : src.series asked q = .error fault) : PagesEnd q b b (some fault)
  | broken {asked : History} {q : Query} {b b' : Batch} {t t' : Totals} {now : Float}
      {page : SeriesPage} {fault : Fault} (h : src.series asked q = .ok page)
      (hadd : b.addPage t now page.series = ((b', t'), some fault)) : PagesEnd q b b' (some fault)
  | last {asked : History} {q : Query} {b b' : Batch} {t t' : Totals} {now : Float}
      {page : SeriesPage} (h : src.series asked q = .ok page)
      (hadd : b.addPage t now page.series = ((b', t'), none))
      (hnext : following? page.nextToken = none) : PagesEnd q b b' none
  | next {asked : History} {q : Query} {b b' b'' : Batch} {t t' : Totals} {now : Float}
      {page : SeriesPage} {token : Json} {fault : Option Fault} (h : src.series asked q = .ok page)
      (hadd : b.addPage t now page.series = ((b', t'), none))
      (hnext : following? page.nextToken = some token)
      (hrest : PagesEnd (q.forPage token) b' b'' fault) : PagesEnd q b b'' fault

/-- The unit of a descriptor, with the faults that occur in it. -/
inductive UnitEnds (within : Window) (d : Descriptor) : List Fault → Prop
  | unasked {fault : Fault} (h : unitQuery p within d = .error fault) : UnitEnds within d [fault]
  | finished {q : Query} {b : Batch} {w : Work} {fault : Option Fault}
      (hquery : unitQuery p within d = .ok q)
      (hpages : PagesEnd src q (.start p.options d) b fault) :
      UnitEnds within d (fault.toList ++ (finish src b w).1.toList)

/-- The units of descriptors. -/
inductive UnitsEnd (within : Window) : List Descriptor → List Occurrence → Prop
  | nil : UnitsEnd within [] []
  | cons {d : Descriptor} {ds : List Descriptor} {faults : List Fault} {os : List Occurrence}
      (h : UnitEnds src p within d faults) (hs : UnitsEnd within ds os) :
      UnitsEnd within (d :: ds) (.unit d faults :: os)

/-- The report of descriptors, with the fault that it raises or the one that is recorded first. -/
inductive ReportEnds (ds : List Descriptor) : List Occurrence → Except Fault (Option Fault) → Prop
  | raised {asked : History} {fault : Fault} (h : src.outset p ds asked = .error fault) :
      ReportEnds ds [.outset (.error fault)] (.error fault)
  | joined {asked : History} {us : List Descriptor} {within : Window} {os : List Occurrence}
      {recorded : List Fault} (h : src.outset p ds asked = .ok (us, within))
      (hunits : UnitsEnd src p within us os)
      (hrecorded : records (os.filterMap Occurrence.fault?) recorded) :
      ReportEnds ds (.outset (.ok (us, within)) :: os) (.ok recorded.head?)

/-- The listing that goes on with a query, with its fault. -/
inductive ListingEnds : Query → Listing → List Occurrence → Option Fault → Prop
  | stopped (q : Query) (l : Listing) : ListingEnds q l [.endless] (some .endless)
  | refused {asked : History} {q : Query} {l : Listing} {path : String} {problem : ApiProblem}
      (h : src.descriptors asked q = .error (.api path problem)) :
      ListingEnds q l [.request (.error (.api path problem))]
        (l.first.orElse fun _ => some (.api path problem))
  | broken {asked : History} {q : Query} {l : Listing} {fault : Fault}
      (h : src.descriptors asked q = .error fault)
      (hapi : ∀ path problem, fault ≠ .api path problem) :
      ListingEnds q l [.request (.error fault)] (some fault)
  | unnamed {asked : History} {q : Query} {l : Listing} {page : DescriptorPage} {fault : Fault}
      (h : src.descriptors asked q = .ok page) (hkeyed : keyed page.descriptors = .error fault) :
      ListingEnds q l [.request (.ok page), .outset (.error fault)] (some fault)
  | raised {asked : History} {q : Query} {l : Listing} {page : DescriptorPage}
      {entries : List (Json.Key × Descriptor)} {os : List Occurrence} {fault : Fault}
      (h : src.descriptors asked q = .ok page) (hkeyed : keyed page.descriptors = .ok entries)
      (hreport : ReportEnds records src p
        ((entries.filter fun e => !l.seen.contains e.1).map Prod.snd) os (.error fault)) :
      ListingEnds q l (.request (.ok page) :: os) (some fault)
  | last {asked : History} {q : Query} {l : Listing} {page : DescriptorPage}
      {entries : List (Json.Key × Descriptor)} {os : List Occurrence} {fault : Option Fault}
      (h : src.descriptors asked q = .ok page) (hkeyed : keyed page.descriptors = .ok entries)
      (hreport : ReportEnds records src p
        ((entries.filter fun e => !l.seen.contains e.1).map Prod.snd) os (.ok fault))
      (hnext : following? page.nextToken = none) :
      ListingEnds q l (.request (.ok page) :: os) (l.first.orElse fun _ => fault)
  | next {asked : History} {q : Query} {l : Listing} {page : DescriptorPage}
      {entries : List (Json.Key × Descriptor)} {os os' : List Occurrence}
      {fault later : Option Fault} {token : Json} (h : src.descriptors asked q = .ok page)
      (hkeyed : keyed page.descriptors = .ok entries)
      (hreport : ReportEnds records src p
        ((entries.filter fun e => !l.seen.contains e.1).map Prod.snd) os (.ok fault))
      (hnext : following? page.nextToken = some token)
      (hrest : ListingEnds (q.forPage token)
        { seen := l.seen ++ entries.map Prod.fst, listed := l.listed ++ page.descriptors
          first := l.first.orElse fun _ => fault } os' later) :
      ListingEnds q l (.request (.ok page) :: (os ++ os')) later

/-- The thread of a prefix, with its fault. -/
inductive PrefixEnds (stem : String) : List Occurrence → Option Fault → Prop
  | listed {os : List Occurrence} {fault : Option Fault}
      (h : ListingEnds records src p (descriptorQuery p.collection stem) {} os fault) :
      PrefixEnds stem os fault
  | hit {asked : History} {cache : DescriptorCache} {ds : List Descriptor} {os : List Occurrence}
      {fault : Option Fault} (h : cache.lookup (src.clock asked) stem = some ds)
      (hreport : ReportEnds records src p ds os (.ok fault)) : PrefixEnds stem os fault
  | hitRaised {asked : History} {cache : DescriptorCache} {ds : List Descriptor}
      {os : List Occurrence} {fault : Fault} (h : cache.lookup (src.clock asked) stem = some ds)
      (hreport : ReportEnds records src p ds os (.error fault)) : PrefixEnds stem os (some fault)

/-- The threads of prefixes: what occurs in each of them, and the faults of those that have one. -/
inductive PrefixesEnd : List String → List (List Occurrence) → List Fault → Prop
  | nil : PrefixesEnd [] [] []
  | cons {stem : String} {stems : List String} {os : List Occurrence} {oss : List (List Occurrence)}
      {fault : Option Fault} {faults : List Fault} (h : PrefixEnds records src p stem os fault)
      (hs : PrefixesEnd stems oss faults) :
      PrefixesEnd (stem :: stems) (os :: oss) (fault.toList ++ faults)

/-- A scrape: what occurs for each prefix, and the fault that is recorded first. -/
def ScrapeEnds (oss : List (List Occurrence)) (fault : Option Fault) : Prop :=
  ∃ faults recorded, PrefixesEnd records src p p.collection.prefixes oss faults ∧
    records faults recorded ∧ fault = recorded.head?

end Ways

/-! ### One thread after the other -/

/-- The faults of a unit: the one that keeps it from asking, or those of its pages and of its
end. -/
def unitFaults (src : Source) (p : Plan) (within : Window) (d : Descriptor) (w : Work) :
    List Fault :=
  match unitQuery p within d with
  | .error fault => [fault]
  | .ok query =>
    let (fault, b, w) := addPages src src.limit query (.start p.options d) w
    fault.toList ++ (finish src b w).1.toList

/-- What occurs in units. -/
def unitOccurrences (src : Source) (p : Plan) (within : Window) :
    List Descriptor → Work → List Occurrence
  | [], _ => []
  | d :: ds, w =>
    .unit d (unitFaults src p within d w) ::
      unitOccurrences src p within ds (runUnit src p within d w).2

/-- What occurs in a report. -/
def reportOccurrences (src : Source) (p : Plan) (ds : List Descriptor) (w : Work) :
    List Occurrence :=
  .outset (src.outset p ds w.asked) ::
    match src.outset p ds w.asked with
    | .error _ => []
    | .ok (us, within) => unitOccurrences src p within us w

/-- What occurs in a listing that starts with a query; `limit` bounds the pages. -/
def listOccurrences (src : Source) (p : Plan) : Nat → Query → Listing → Work → List Occurrence
  | 0, _, _, _ => [.endless]
  | limit + 1, q, l, w =>
    let page := src.descriptors w.asked q
    let w := w.ask q
    .request page ::
      match page with
      | .error _ => []
      | .ok page =>
        match keyed page.descriptors with
        | .error fault => [.outset (.error fault)]
        | .ok entries =>
          let fresh := (entries.filter fun e => !l.seen.contains e.1).map Prod.snd
          reportOccurrences src p fresh w ++
            match report src p fresh w, following? page.nextToken with
            | (.ok fault, w), some token =>
              let l : Listing :=
                { seen := l.seen ++ entries.map Prod.fst
                  listed := l.listed ++ page.descriptors
                  first := l.first.orElse fun _ => fault }
              listOccurrences src p limit (q.forPage token) l w
            | _, _ => []

/-- What occurs for a prefix. -/
def prefixOccurrences (src : Source) (p : Plan) (stem : String) (w : Work) : List Occurrence :=
  match w.cache.lookup (src.clock w.asked) stem with
  | none => listOccurrences src p src.limit (descriptorQuery p.collection stem) {} w
  | some ds => reportOccurrences src p ds w

/-- What occurs for each of several prefixes. -/
def prefixesOccurrences (src : Source) (p : Plan) : List String → Work → List (List Occurrence)
  | [], _ => []
  | stem :: stems, w =>
    prefixOccurrences src p stem w :: prefixesOccurrences src p stems (runPrefix src p stem w).2

/-- What occurs in a scrape, for each prefix. -/
def runOccurrences (src : Source) (p : Plan) (w : Work) : List (List Occurrence) :=
  prefixesOccurrences src p p.collection.prefixes w

section

variable {records : List Fault → List Fault → Prop} {src : Source} {p : Plan} {within : Window}
  {d : Descriptor} {ds : List Descriptor} {stem : String} {w : Work}

/-- The fault of a unit is the last one that occurs in it. -/
theorem runUnit_fst (src : Source) (p : Plan) (within : Window) (d : Descriptor) (w : Work) :
    (runUnit src p within d w).1 = (unitFaults src p within d w).getLast? := by
  rw [runUnit, unitFaults]
  cases unitQuery p within d with
  | error fault => rfl
  | ok q =>
    obtain ⟨⟨fault, b, v⟩, hr⟩ : ∃ r, addPages src src.limit q (.start p.options d) w = r :=
      ⟨_, rfl⟩
    simp only [hr]
    cases fault <;> cases (finish src b v).1 <;> rfl

theorem runUnits_fst (src : Source) (p : Plan) (within : Window) (ds : List Descriptor) (w : Work) :
    (runUnits src p within ds w).1
      = ((unitOccurrences src p within ds w).filterMap Occurrence.fault?).head? := by
  induction ds generalizing w with
  | nil => rfl
  | cons d ds ih =>
    rw [runUnits, unitOccurrences, List.filterMap_cons, Occurrence.fault?, ← runUnit_fst]
    dsimp only
    rw [ih]
    cases (runUnit src p within d w).1 <;> rfl

theorem report_eq (src : Source) (p : Plan) (ds : List Descriptor) (w : Work) :
    report src p ds w =
      match src.outset p ds w.asked with
      | .error fault => (.error fault, w)
      | .ok (us, within) =>
      (.ok (runUnits src p within us w).1, (runUnits src p within us w).2) := by
  rw [report, Source.outset]
  cases unique ds with
  | error fault => rfl
  | ok us => cases (src.now w.asked).bind (window p.collection) <;> rfl

/-! ### Which is one way for a scrape to go -/

theorem pagesEnd_addPages (limit : Nat) (q : Query) (b : Batch) (w : Work) :
    PagesEnd src q b (addPages src limit q b w).2.1 (addPages src limit q b w).1 := by
  induction limit generalizing q b w with
  | zero => exact .stopped q b
  | succ limit ih =>
    rw [addPages]
    cases hpage : src.series w.asked q with
    | error fault => exact .refused hpage
    | ok page =>
      dsimp only
      obtain ⟨⟨⟨b', t'⟩, fault⟩, hadd⟩ :
        ∃ r, b.addPage (w.ask q).totals (src.clock (w.ask q).asked) page.series = r := ⟨_, rfl⟩
      rw [hadd]
      cases fault with
      | some fault => exact .broken hpage hadd
      | none =>
        cases hnext : following? page.nextToken with
        | none => exact .last hpage hadd hnext
        | some token => exact .next hpage hadd hnext (ih _ _ _)

theorem unitEnds_unitFaults (src : Source) (p : Plan) (within : Window) (d : Descriptor)
    (w : Work) :
    UnitEnds src p within d (unitFaults src p within d w) := by
  rw [unitFaults]
  cases hquery : unitQuery p within d with
  | error fault => exact .unasked hquery
  | ok q => exact .finished hquery (pagesEnd_addPages src.limit q (.start p.options d) w)

theorem unitsEnd_unitOccurrences (within : Window) (ds : List Descriptor) (w : Work) :
    UnitsEnd src p within ds (unitOccurrences src p within ds w) := by
  induction ds generalizing w with
  | nil => exact .nil
  | cons d ds ih => exact .cons (unitEnds_unitFaults src p within d w) (ih _)

variable (hrecords : ∀ faults, records faults faults)

include hrecords

theorem reportEnds_report (src : Source) (p : Plan) (ds : List Descriptor) (w : Work) :
    ReportEnds records src p ds (reportOccurrences src p ds w) (report src p ds w).1 := by
  rw [reportOccurrences, report_eq]
  cases hout : src.outset p ds w.asked with
  | error fault => exact .raised hout
  | ok out =>
    obtain ⟨us, within⟩ := out
    dsimp only
    rw [runUnits_fst]
    exact .joined hout (unitsEnd_unitOccurrences within us w) (hrecords _)

theorem listingEnds_listPages (limit : Nat) (q : Query) (l : Listing) (w : Work) :
    ListingEnds records src p q l (listOccurrences src p limit q l w)
      (listPages src p stem limit q l w).1 := by
  -- on the bound of the pages, case by case as the listing decides
  induction limit generalizing q l w with
  | zero => exact .stopped q l
  | succ limit ih =>
    rw [listOccurrences, listPages]
    cases hpage : src.descriptors w.asked q with
    | error fault =>
      cases fault with
      | api path problem => exact .refused hpage
      | _ => exact .broken hpage (by simp)
    | ok page =>
      dsimp only
      cases hkeyed : keyed page.descriptors with
      | error fault => exact .unnamed hpage hkeyed
      | ok entries =>
        dsimp only
        obtain ⟨fresh, hfresh⟩ : ∃ fresh,
          (entries.filter fun e => !l.seen.contains e.1).map Prod.snd = fresh := ⟨_, rfl⟩
        have hreport := reportEnds_report hrecords src p fresh (w.ask q)
        obtain ⟨⟨outcome, v⟩, houtcome⟩ : ∃ r, report src p fresh (w.ask q) = r := ⟨_, rfl⟩
        rw [hfresh, houtcome]
        rw [houtcome, ← hfresh] at hreport
        cases outcome with
        | error fault =>
          rw [List.append_nil, ← hfresh]
          exact .raised hpage hkeyed hreport
        | ok fault =>
          cases hnext : following? page.nextToken with
          | none =>
            rw [List.append_nil, ← hfresh]
            exact .last hpage hkeyed hreport hnext
          | some token =>
            rw [← hfresh]
            exact .next hpage hkeyed hreport hnext (ih _ _ v)

theorem prefixEnds_runPrefix (stem : String) (w : Work) :
    PrefixEnds records src p stem (prefixOccurrences src p stem w) (runPrefix src p stem w).1 := by
  rw [prefixOccurrences, runPrefix]
  cases hlookup : w.cache.lookup (src.clock w.asked) stem with
  | none => exact .listed (listingEnds_listPages hrecords src.limit _ {} w)
  | some ds =>
    have hreport := reportEnds_report hrecords src p ds w
    obtain ⟨⟨outcome, v⟩, houtcome⟩ : ∃ r, report src p ds w = r := ⟨_, rfl⟩
    simp only [houtcome] at hreport ⊢
    cases outcome with
    | error fault => exact .hitRaised hlookup hreport
    | ok fault => exact .hit hlookup hreport

theorem prefixesEnd_runPrefixes (stems : List String) (w : Work) :
    ∃ faults, PrefixesEnd records src p stems (prefixesOccurrences src p stems w) faults ∧
      (runPrefixes src p stems w).1 = faults.head? := by
  induction stems generalizing w with
  | nil => exact ⟨[], .nil, rfl⟩
  | cons stem stems ih =>
    obtain ⟨faults, hfaults, hhead⟩ := ih (runPrefix src p stem w).2
    refine ⟨_, .cons (prefixEnds_runPrefix hrecords stem w) hfaults, ?_⟩
    rw [runPrefixes]
    dsimp only
    rw [hhead]
    cases (runPrefix src p stem w).1 <;> rfl

/-- **Threads that run one after the other are one way for a scrape to go**, if faults may be
recorded in the order of their lists. -/
theorem scrapeEnds_run (src : Source) (p : Plan) (w : Work) :
    ScrapeEnds records src p (runOccurrences src p w) (run src p w).1 := by
  obtain ⟨faults, hfaults, hhead⟩ := prefixesEnd_runPrefixes hrecords p.collection.prefixes w
  exact ⟨faults, faults, hfaults, hrecords faults, hhead⟩

end

end MetricRelay.Scrape
