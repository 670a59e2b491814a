/-
The unit of a descriptor does not depend on how its series come in pages.

What a source answers to a unit is a list of pages and perhaps the fault of a request that failed
(`answers`).  As long as the clock of the running totals stands still, the unit takes in the series
of these pages up to the first one that raises a fault, and completes its batch once:

* `addPages_eq` — pages are one page with all of their series;
* `runUnit_eq_of_answers` — what the unit hands to the sink, the totals and the fault that it
  leaves;
* `runUnit_of_pages` — so for any two ways in which series come.
-/
import MetricRelay.Proofs.Intake.Batch
import MetricRelay.Scrape.Unit

namespace MetricRelay.Scrape

open Monitoring Intake Exposition

/-- The clock of the running totals shows one time whatever is asked from now on. -/
def Source.StandsStill (src : Source) (asked : History) (now : Float) : Prop :=
  ∀ more, src.clock (more ++ asked) = now

/-- The series of the pages that a source has for a query and those that follow it, and the fault of
the first request that fails. -/
def Source.answers (src : Source) : Nat → History → Query → List (List Series) × Option Fault
  | 0, _, _ => ([], some .endless)
  | limit + 1, asked, q =>
    match src.series asked q with
    | .error fault => ([], some fault)
    | .ok page =>
      match following? page.nextToken with
      | none => ([page.series], none)
      | some token =>
        let rest := src.answers limit (q :: asked) (q.forPage token)
        (page.series :: rest.1, rest.2)

section

variable {src : Source} {asked : History} {now : Float} {limit : Nat} {q : Query}

theorem Source.StandsStill.ask (h : src.StandsStill asked now) (q : Query) :
    src.StandsStill (q :: asked) now := by
  intro more
  have hmore := h (more ++ [q])
  rwa [List.append_assoc] at hmore

theorem Source.answers_of_error {fault : Fault} (hpage : src.series asked q = .error fault) :
    src.answers (limit + 1) asked q = ([], some fault) := by
  simp only [Source.answers, hpage]

theorem Source.answers_of_last {page : SeriesPage} (hpage : src.series asked q = .ok page)
    (hnext : following? page.nextToken = none) :
    src.answers (limit + 1) asked q = ([page.series], none) := by
  simp only [Source.answers, hpage, hnext]

theorem Source.answers_of_next {page : SeriesPage} {token : Json}
    (hpage : src.series asked q = .ok page) (hnext : following? page.nextToken = some token) :
    src.answers (limit + 1) asked q
      = (page.series :: (src.answers limit (q :: asked) (q.forPage token)).1,
        (src.answers limit (q :: asked) (q.forPage token)).2) := by
  simp only [Source.answers, hpage, hnext]

end

/-- The pages that a query gives have the effect of one page with all of their series. -/
theorem addPages_eq {src : Source} {now : Float} (limit : Nat) (q : Query) (b : Batch) (w : Work)
    (hclock : src.StandsStill w.asked now) :
    ∃ asked meters, src.StandsStill asked now ∧ addPages src limit q b w =
      let r := b.addPage w.totals now (src.answers limit w.asked q).1.flatten
      (r.2.orElse fun _ => (src.answers limit w.asked q).2, r.1.1,
        { w with asked, meters, totals := r.1.2 }) := by
  -- on the bound of the pages, for every batch and every state that the pages so far leave
  induction limit generalizing q b w with
  | zero => exact ⟨w.asked, w.meters, hclock, rfl⟩
  | succ limit ih =>
    have hnow : src.clock (w.ask q).asked = now := hclock [q]
    rw [addPages]
    cases hpage : src.series w.asked q with
    | error fault =>
      rw [Source.answers_of_error hpage]
      exact ⟨q :: w.asked, w.meters.recordCall, hclock.ask q, rfl⟩
    | ok page =>
      simp only [hnow]
      cases hnext : following? page.nextToken with
      | none =>
        rw [Source.answers_of_last hpage hnext]
        refine ⟨q :: w.asked, w.meters.recordCall, hclock.ask q, ?_⟩
        simp only [List.flatten_cons, List.flatten_nil, List.append_nil, Work.ask]
        cases (b.addPage w.totals now page.series).2 <;> rfl
      | some token =>
        rw [Source.answers_of_next hpage hnext]
        simp only [List.flatten_cons, Batch.addPage_append, Work.ask]
        obtain ⟨⟨b', totals'⟩, fault⟩ := b.addPage w.totals now page.series
        cases fault with
        | some fault =>
          -- the further pages are not asked for, and their series would not be taken in
          exact ⟨q :: w.asked, w.meters.recordCall, hclock.ask q, rfl⟩
        | none =>
          obtain ⟨asked, meters, hstill, heq⟩ := ih (q.forPage token) b'
            { w.ask q with totals := totals' } (hclock.ask q)
          exact ⟨asked, meters, hstill, heq⟩

/-- What a unit hands to the sink, and the totals that it leaves. -/
structure Delivers (src : Source) (p : Plan) (within : Window) (d : Descriptor) (w : Work)
    (readings : List Reading) (totals : Totals) : Prop where
  totals : (runUnit src p within d w).2.totals = totals
  sink : (runUnit src p within d w).2.sink = (w.sink.addAll readings).1

section

variable {src : Source} {p : Plan} {within : Window} {d : Descriptor} {w : Work} {now : Float}
  {q : Query}

/-- A unit whose window is valid has a query. -/
theorem exists_unitQuery_eq_ok {type : String} (hd : d.type = .text type) {v : Window}
    (hv : delayedWindow p.collection d within = .ok v) : ∃ q, unitQuery p within d = .ok q := by
  rw [unitQuery, hv, hd]
  exact ⟨_, rfl⟩

/-- A unit completes once what it has taken in before the first fault. -/
theorem runUnit_eq_of_answers {type : Json.Key} (hd : d.type.asKey = .ok type)
    (hq : unitQuery p within d = .ok q) (hclock : src.StandsStill w.asked now)
    {pages : List (List Series)} {failure : Option Fault}
    (hanswers : src.answers src.limit w.asked q = (pages, failure)) :
    ∃ readings totals,
      Yields p.options d w.totals now (unfailing p.options d pages.flatten) readings totals ∧
      Delivers src p within d w readings totals ∧
      (runUnit src p within d w).1 = (w.sink.addAll readings).2.orElse fun _ =>
        (pages.flatten.findSome? (raised? p.options d)).orElse fun _ => failure := by
  obtain ⟨asked, meters, hstill, hpages⟩ := addPages_eq src.limit q (.start p.options d) w hclock
  rw [hanswers] at hpages
  have hunfailing := Batch.addPage_unfailing (.start p.options d) w.totals now pages.flatten
  have hfault := Batch.addPage_snd (.start p.options d) w.totals now pages.flatten
  have hfits := Batch.addPage_fits (.start p.options d) w.totals now pages.flatten
  obtain ⟨⟨⟨b, totals⟩, fault⟩, hr⟩ :
    ∃ r, (Batch.start p.options d).addPage w.totals now pages.flatten = r := ⟨_, rfl⟩
  rw [hr] at hunfailing hfault hfits hpages
  have hkey : b.descriptor.type.asKey = .ok type := by rw [hfits.descriptor]; exact hd
  obtain ⟨readings, totals', hcomplete⟩ := Batch.exists_complete_eq_ok hkey totals now
  rw [hfits.options, hfits.descriptor] at hcomplete
  have hrun : runUnit src p within d w =
      ((w.sink.addAll readings).2.orElse fun _ => fault.orElse fun _ => failure,
        { w with asked, meters, totals := totals', sink := (w.sink.addAll readings).1 }) := by
    have hnow : src.clock asked = now := hstill []
    simp only [runUnit, hq, hpages, finish, hnow, hcomplete]
  refine ⟨readings, totals', ⟨b, totals, hunfailing, hcomplete⟩, ⟨by rw [hrun], by rw [hrun]⟩, ?_⟩
  rw [hrun, show fault = _ from hfault]
  rfl

/-- A unit whose answer is complete delivers what its series before the first fault yield. -/
theorem delivers_of_yields {type : Json.Key} (hd : d.type.asKey = .ok type)
    (hq : unitQuery p within d = .ok q) (hclock : src.StandsStill w.asked now)
    {pages : List (List Series)} {failure : Option Fault}
    (hanswers : src.answers src.limit w.asked q = (pages, failure)) {readings : List Reading}
    {totals : Totals} (hyields : Yields p.options d w.totals now
      (unfailing p.options d pages.flatten) readings totals) :
    Delivers src p within d w readings totals := by
  obtain ⟨rs, ts, hys, hdelivers, -⟩ := runUnit_eq_of_answers hd hq hclock hanswers
  obtain ⟨rfl, rfl⟩ := hyields.unique hys
  exact hdelivers

end

/-- **A unit does not depend on how its series come in pages, and a fault leaves what came before
it.** Take a descriptor with a valid window, whose type can be a name, and a source whose clock
stands still during the unit.  There is a query if the type is a text, and whenever there is one,
the unit completes its batch once, after the series before the first one that raises a fault.  If
the sink accepts the readings, the fault of the unit is the one that this series raised, else the
one of the request that failed, if any did.  Another run over the same totals hands the sink the
same readings and leaves the same totals if it gets complete pages with the same series as the pages
before the request that failed, or just the series before the one that raised a fault. -/
theorem runUnit_of_pages (src src' : Source) (p : Plan) (within : Window) (d : Descriptor)
    (w w' : Work) {type : Json.Key} {v : Window} {now : Float} (hd : d.type.asKey = .ok type)
    (hv : delayedWindow p.collection d within = .ok v) (hclock : src.StandsStill w.asked now)
    (hclock' : src'.StandsStill w'.asked now) (htotals : w'.totals = w.totals) :
    (∀ name, d.type = .text name → ∃ q, unitQuery p within d = .ok q) ∧
    ∀ q pages failure, unitQuery p within d = .ok q →
      src.answers src.limit w.asked q = (pages, failure) →
      ∃ readings totals,
        Yields p.options d w.totals now (unfailing p.options d pages.flatten) readings totals ∧
        Delivers src p within d w readings totals ∧
        ((w.sink.addAll readings).2 = none → (runUnit src p within d w).1 =
          (pages.flatten.findSome? (raised? p.options d)).orElse fun _ => failure) ∧
        ∀ pages', src'.answers src'.limit w'.asked q = (pages', none) →
          (pages'.flatten = pages.flatten → Delivers src' p within d w' readings totals) ∧
          ∀ before s after, pages.flatten = before ++ s :: after →
            (∀ x ∈ before, raised? p.options d x = none) → raised? p.options d s ≠ none →
            pages'.flatten = before → Delivers src' p within d w' readings totals := by
  refine ⟨fun name hname => exists_unitQuery_eq_ok hname hv, fun q pages failure hq hanswers => ?_⟩
  obtain ⟨readings, totals, hyields, hdelivers, hfault⟩ :=
    runUnit_eq_of_answers hd hq hclock hanswers
  refine ⟨readings, totals, hyields, hdelivers, fun hsink => ?_, fun pages' hanswers' => ⟨?_, ?_⟩⟩
  · rw [hfault, hsink]
    rfl
  · intro hsame
    refine delivers_of_yields hd hq hclock' hanswers' ?_
    rwa [htotals, hsame]
  · intro before s after hpages hbefore hs hsame
    refine delivers_of_yields hd hq hclock' hanswers' ?_
    rw [hpages, unfailing_append_cons hbefore hs] at hyields
    rwa [htotals, hsame, unfailing_eq_self hbefore]

/-- A series of jobs with one point. -/
def jobSeries (count : Int) : Series :=
  { metricType := .text "jobs", resourceType := .text "host", kind := .text "GAUGE"
    valueType := .text "INT64"
    points := [⟨.null, .text "2024-05-01T00:00:00Z", { int64 := some count }⟩] }

/-- A source that has two series, on two pages or on one. -/
def jobSource (split : Bool) : Source where
  descriptors _ _ := .error .endless
  series asked _ :=
    match split, asked with
    | true, [] => .ok ⟨[jobSeries 3], .text "rest"⟩
    | true, _ => .ok ⟨[jobSeries 5], .text ""⟩
    | false, _ => .ok ⟨[jobSeries 3, jobSeries 5], .text ""⟩
  clock _ := 0
  now _ := .ok .epoch
  wall _ := 0
  limit := 5

/-- A scrape of jobs that begins. -/
def jobWork : Work :=
  { meters := { stem := "" }, totals := ⟨.empty 1800, .empty 1800⟩, cache := .empty 0 true }

theorem runUnit_of_pages_jobs :
    let d : Descriptor := { type := .text "jobs" }
    let within : Window := ⟨⟨0⟩, ⟨300000000⟩⟩
    d.type.asKey = .ok (.text "jobs") ∧
    delayedWindow ({} : Settings.Collection) d within = .ok within ∧
    (jobSource true).StandsStill jobWork.asked 0 ∧ (jobSource false).StandsStill jobWork.asked 0 ∧
    ∃ q, unitQuery ⟨{}, "stackdriver", 0⟩ within d = .ok q ∧
      (jobSource true).answers 5 [] q = ([[jobSeries 3], [jobSeries 5]], none) ∧
      (jobSource false).answers 5 [] q = ([[jobSeries 3, jobSeries 5]], none) ∧
      ∃ readings totals,
        Delivers (jobSource true) ⟨{}, "stackdriver", 0⟩ within d jobWork readings totals ∧
        Delivers (jobSource false) ⟨{}, "stackdriver", 0⟩ within d jobWork readings totals := by
  intro d within
  have hstill : ∀ split, (jobSource split).StandsStill jobWork.asked 0 := fun _ _ => rfl
  obtain ⟨hquery, hpages⟩ := runUnit_of_pages (jobSource true) (jobSource false)
    ⟨{}, "stackdriver", 0⟩ within d jobWork jobWork rfl rfl (hstill true) (hstill false) rfl
  obtain ⟨q, hq⟩ := hquery "jobs" rfl
  obtain ⟨readings, totals, -, hdelivers, -, hother⟩ := hpages q _ _ hq rfl
  exact ⟨rfl, rfl, hstill true, hstill false, q, hq, rfl, rfl, readings, totals, hdelivers,
    (hother _ rfl).1 rfl⟩

end MetricRelay.Scrape
