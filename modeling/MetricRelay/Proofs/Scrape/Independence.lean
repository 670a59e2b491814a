/-
Units of sibling types do not concern each other.

The units of a report run one after the other, and a unit of another type changes what the sink
holds and the totals of its own type.  Neither matters to a type: totals of other types are not read
(`Effect.IsLocal`), and a sink accepts or refuses a reading by its name only (`Sink.addAll_snd`).
So what a unit does is settled by the totals of its type and the answers to its own queries:

* `IsReport` — the units of a report, in any order;
* `runUnits_sameTracker` — units of other types leave the totals of a type as they are;
* `ActsAlike` — a unit does the same in two states, also towards the sink;
* `actsAlike_of_reports` — the unit of a type acts alike in two reports, whatever its siblings do.
-/
import MetricRelay.Proofs.Intake.Kind
import MetricRelay.Proofs.Scrape.Exchange
import MetricRelay.Proofs.Scrape.Paging
import MetricRelay.Proofs.Scrape.Trace

namespace MetricRelay.Scrape

open Monitoring Intake Exposition

/-- The totals hold no key twice, and the sink only names that families can have. -/
structure Work.Sound (w : Work) : Prop where
  totals : w.totals.Tidy
  sink : w.sink.WellNamed

/-- The units of a report run in some order: one for each name among the types of descriptors, all
within the window that ends an offset before now. -/
structure IsReport (src : Source) (p : Plan) (ds : List Descriptor) (w : Work) (within : Window)
    (order : List Descriptor) : Prop where
  within : (src.now w.asked).bind (window p.collection) = .ok within
  order : ∃ us, unique ds = .ok us ∧ order.Perm us

/-- What the unit of a descriptor hands to the sink, one after the other until one is refused. -/
def handed (src : Source) (p : Plan) (within : Window) (d : Descriptor) (w : Work) : List Reading :=
  match unitQuery p within d with
  | .error _ => []
  | .ok q =>
    let (_, b, w) := addPages src src.limit q (.start p.options d) w
    match b.complete w.totals (src.clock w.asked) with
    | .error _ => []
    | .ok (readings, _) => readings

/-- The unit of a descriptor does the same for two sources and in two states. -/
structure ActsAlike (p : Plan) (within : Window) (d : Descriptor) (src : Source) (w : Work)
    (src' : Source) (w' : Work) : Prop where
  /-- It makes the same queries, the latest first. -/
  asked : ∃ queries, (runUnit src p within d w).2.asked = queries ++ w.asked ∧
    (runUnit src' p within d w').2.asked = queries ++ w'.asked
  /-- It hands the same readings to the sinks. -/
  handed : handed src p within d w = handed src' p within d w'
  /-- The sinks refuse the same. -/
  refused : (w.sink.addAll (Scrape.handed src p within d w)).2
    = (w'.sink.addAll (Scrape.handed src' p within d w')).2
  /-- It has the same fault, or none. -/
  fault : (runUnit src p within d w).1 = (runUnit src' p within d w').1

section

variable {src src' : Source} {p : Plan} {within : Window} {d : Descriptor} {type : Json.Key}
  {w w' : Work}

/-- The units of a report in the order of their types are a report. -/
theorem isReport_report {ds us : List Descriptor} (hds : unique ds = .ok us)
    (hwithin : (src.now w.asked).bind (window p.collection) = .ok within) :
    IsReport src p ds w within us ∧
      report src p ds w = (.ok (runUnits src p within us w).1, (runUnits src p within us w).2) := by
  refine ⟨⟨hwithin, us, hds, List.Perm.refl us⟩, ?_⟩
  simp only [report, hds, hwithin]

/-- All descriptors of a report but one have types with other names. -/
theorem IsReport.others {ds before after : List Descriptor}
    (h : IsReport src p ds w within (before ++ d :: after)) (hd : d.type.asKey = .ok type) :
    ∀ e ∈ before ++ after, ∃ other, e.type.asKey = .ok other ∧ type ≠ other := by
  obtain ⟨us, hus, hperm⟩ := h.order
  have hnodup : (typeKeys (before ++ d :: after)).Nodup :=
    (hperm.filterMap fun d : Descriptor => d.type.key?).nodup_iff.mpr (nodup_typeKeys_of_unique hus)
  rw [typeKeys_append, typeKeys_cons hd, List.nodup_middle, ← typeKeys_append] at hnodup
  refine exists_other_of_not_mem (List.nodup_cons.mp hnodup).1 fun e he => ?_
  have hmem : e ∈ before ++ d :: after := List.perm_middle.mem_iff.mpr (List.mem_cons_of_mem d he)
  exact exists_asKey_of_unique hus (hperm.mem_iff.mp hmem)

/-! ### What a unit leaves -/

theorem handed_eq (hd : d.type.asKey = .ok type) :
    handed src p within d w = (src.unitEffect p within d type w.asked).readings w.totals := by
  rw [handed, Source.unitEffect]
  cases unitQuery p within d with
  | error fault => rfl
  | ok q =>
    have hfinished := exchange_finished src p.options d src.limit w.asked q
    dsimp only at hfinished ⊢
    rw [addPages_eq_exchange src.limit q (.start p.options d) w hd]
    dsimp only [Batch.start]
    rw [Batch.complete_eq (by exact hd), ← hfinished]
    rfl

theorem runUnit_sink (within : Window) (d : Descriptor) (w : Work) :
    (runUnit src p within d w).2.sink = (w.sink.addAll (handed src p within d w)).1 := by
  rw [runUnit, handed]
  cases unitQuery p within d with
  | error fault => rfl
  | ok q =>
    obtain ⟨asked, meters, totals, hkeeps⟩ := addPages_keeps src src.limit q (.start p.options d) w
    obtain ⟨⟨fault, b, v⟩, hpages⟩ :
      ∃ r, addPages src src.limit q (.start p.options d) w = r := ⟨_, rfl⟩
    dsimp only
    rw [hpages] at hkeeps ⊢
    obtain rfl : v = { w with asked, meters, totals } := hkeeps
    dsimp only
    rw [finish]
    cases b.complete totals (src.clock asked) with
    | error fault => rfl
    | ok completed => rfl

variable (src p within)

theorem runUnit_changesOnly (hd : d.type.asKey = .ok type) (hw : w.totals.Tidy) :
    Totals.ChangesOnly type w.totals (runUnit src p within d w).2.totals := by
  rw [runUnit_eq_apply hd]
  exact (unitEffect_isLocal src p within d type w.asked).changesOnly w.totals hw

theorem Work.Sound.runUnit (hw : w.Sound) (hd : d.type.asKey = .ok type) :
    (runUnit src p within d w).2.Sound := by
  refine ⟨(runUnit_changesOnly src p within hd hw.totals).tidy, ?_⟩
  rw [runUnit_sink]
  exact hw.sink.addAll _

theorem runUnits_append (ds es : List Descriptor) (w : Work) :
    (runUnits src p within (ds ++ es) w).2 =
      (runUnits src p within es (runUnits src p within ds w).2).2 := by
  induction ds generalizing w with
  | nil => rfl
  | cons d ds ih => exact ih (Scrape.runUnit src p within d w).2

/-- **Units of other types leave the totals of a type as they are.** -/
theorem runUnits_sameTracker {ds : List Descriptor} (hw : w.Sound)
    (hds : ∀ d ∈ ds, ∃ other, d.type.asKey = .ok other ∧ type ≠ other) :
    (runUnits src p within ds w).2.Sound ∧
      Totals.SameTracker type (runUnits src p within ds w).2.totals w.totals := by
  induction ds generalizing w with
  | nil => exact ⟨hw, ⟨⟨rfl, rfl⟩, ⟨rfl, rfl⟩⟩⟩
  | cons d ds ih =>
    obtain ⟨⟨other, hd, hne⟩, hds⟩ := List.forall_mem_cons.mp hds
    obtain ⟨hsound, hsame⟩ := ih (hw.runUnit src p within hd) hds
    exact ⟨hsound, hsame.trans ((runUnit_changesOnly src p within hd hw.totals).sameTracker hne)⟩

variable {src p within}

/-! ### What a unit hands to the sink -/

/-- All scalars that the pages contribute are plain. -/
def Exchange.IsPlain (x : Exchange) : Prop :=
  ∀ page ∈ x.pages, ∀ r, ∀ route, (Reading.scalar r, route) ∈ page.2 → r.IsPlain

theorem exchange_isPlain (src : Source) (options : Options) (d : Descriptor) (limit : Nat)
    (asked : History) (q : Query) : (src.exchange options d limit asked q).IsPlain := by
  induction limit generalizing asked q with
  | zero => exact fun page h => absurd h List.not_mem_nil
  | succ limit ih =>
    rw [Source.exchange]
    cases src.series asked q with
    | error fault => exact fun page h => absurd h List.not_mem_nil
    | ok page =>
      have hgiven : ∀ r, ∀ route, (Reading.scalar r, route) ∈
          contributions options d (unfailing options d page.series) → r.IsPlain :=
        fun r route hr => isPlain_of_mem_contributions hr
      dsimp only
      split
      · exact List.forall_mem_cons.mpr ⟨hgiven, fun page h => absurd h List.not_mem_nil⟩
      · exact List.forall_mem_cons.mpr ⟨hgiven, fun page h => absurd h List.not_mem_nil⟩
      · exact List.forall_mem_cons.mpr ⟨hgiven, ih _ _⟩

theorem Exchange.IsPlain.accumulate {x : Exchange} (hx : x.IsPlain) {t : Totals}
    (ht : t.counters.AllOf Scalar.IsPlain type) :
    (x.accumulate type t).counters.AllOf Scalar.IsPlain type := by
  rw [Exchange.IsPlain] at hx
  rw [Exchange.accumulate]
  generalize x.pages = pages at hx
  induction pages generalizing t with
  | nil => exact ht
  | cons page pages ih =>
    obtain ⟨hpage, hpages⟩ := List.forall_mem_cons.mp hx
    exact ih (Totals.isPlain_accumulate ht page.1 hpage) hpages

theorem isKnown_of_mem_handed (hd : d.type.asKey = .ok type)
    (hw : w.totals.counters.AllOf Scalar.IsPlain type) :
    ∀ r ∈ handed src p within d w, r.IsKnown := by
  rw [handed_eq hd, Source.unitEffect]
  cases unitQuery p within d with
  | error fault => exact fun r h => absurd h List.not_mem_nil
  | ok q =>
    have hx := exchange_isPlain src p.options d src.limit w.asked q
    refine Batch.IsPlain.isKnown_of_mem_handedOut
      ((Batch.isPlain_start p.options d).collect fun r route hr => ?_) (hx.accumulate hw) _
    obtain ⟨page, hpage, hr⟩ := List.mem_flatMap.mp hr
    exact hx page hpage r route hr

/-! ### What a unit depends on -/

/-- A unit acts alike if its queries are answered alike and the totals of its type are the same. -/
theorem actsAlike_of_sameTracker (p : Plan) (within : Window) (hd : d.type.asKey = .ok type)
    (hw : w.Sound) (hw' : w'.Sound)
    (htotals : Totals.SameTracker type w.totals w'.totals)
    (hplain : w.totals.counters.AllOf Scalar.IsPlain type)
    (halike : AnswersAlike d.type src w.asked src' w'.asked) :
    ActsAlike p within d src w src' w' ∧ Totals.SameTracker type
      (runUnit src p within d w).2.totals (runUnit src' p within d w').2.totals := by
  have heffect := unitEffect_congr halike p within type
  have hlocal := unitEffect_isLocal src' p within d type w'.asked
  have hhanded : handed src p within d w = handed src' p within d w' := by
    rw [handed_eq hd, handed_eq hd, heffect]
    exact hlocal.readings _ _ htotals
  have hrefused : (w.sink.addAll (handed src p within d w)).2
      = (w'.sink.addAll (handed src' p within d w')).2 := by
    have hknown : ∀ r ∈ handed src p within d w, r.IsKnown := isKnown_of_mem_handed hd hplain
    rw [Sink.addAll_snd hw.sink hknown, Sink.addAll_snd hw'.sink (hhanded ▸ hknown), hhanded]
  have hfault : (runUnit src p within d w).1 = (runUnit src' p within d w').1 := by
    rw [handed_eq hd, handed_eq hd] at hrefused
    rw [runUnit_eq_apply hd, runUnit_eq_apply hd, Effect.apply, Effect.apply]
    dsimp only
    rw [hrefused, heffect]
  refine ⟨⟨⟨(src.unitEffect p within d type w.asked).asked, ?_, ?_⟩, hhanded, hrefused, hfault⟩, ?_⟩
  · rw [runUnit_eq_apply hd]
    rfl
  · rw [runUnit_eq_apply hd, heffect]
    rfl
  · rw [runUnit_eq_apply hd, runUnit_eq_apply hd, heffect]
    exact hlocal.totals _ _ hw.totals hw'.totals htotals

end

/-- **Sibling units are independent.**  Take two reports, of any descriptors and by any sources, in
which a type has the same descriptor and the window is the same, but whose units run in orders of
their own, with other siblings, other totals of these and other faults.  If the totals of the type
are the same when the reports begin, and the two sources answer the queries for the type alike from
where its unit begins, then the unit acts alike in both, and in the end the totals of the type are
the same. -/
theorem actsAlike_of_reports (src src' : Source) (p : Plan) (within : Window)
    (ds ds' before before' after after' : List Descriptor) (d : Descriptor) (w w' : Work)
    {type : Json.Key} (hd : d.type.asKey = .ok type)
    (h : IsReport src p ds w within (before ++ d :: after))
    (h' : IsReport src' p ds' w' within (before' ++ d :: after')) (hw : w.Sound) (hw' : w'.Sound)
    (htotals : Totals.SameTracker type w.totals w'.totals)
    (hplain : w.totals.counters.AllOf Scalar.IsPlain type)
    (halike : AnswersAlike d.type src (runUnits src p within before w).2.asked
      src' (runUnits src' p within before' w').2.asked) :
    ActsAlike p within d src (runUnits src p within before w).2
        src' (runUnits src' p within before' w').2 ∧
      Totals.SameTracker type (runUnits src p within (before ++ d :: after) w).2.totals
        (runUnits src' p within (before' ++ d :: after') w').2.totals := by
  have hothers := List.forall_mem_append.mp (h.others hd)
  have hothers' := List.forall_mem_append.mp (h'.others hd)
  -- the siblings before the unit leave the totals of the type as they are
  obtain ⟨hsound, hbefore⟩ := runUnits_sameTracker src p within hw hothers.1
  obtain ⟨hsound', hbefore'⟩ := runUnits_sameTracker src' p within hw' hothers'.1
  obtain ⟨hacts, hunit⟩ := actsAlike_of_sameTracker p within hd hsound hsound'
    (hbefore.trans (htotals.trans hbefore'.symm))
    (hplain.of_sameTracker hbefore.symm.counters) halike
  -- and so do the siblings after it
  have hafter := (runUnits_sameTracker src p within (hsound.runUnit src p within hd) hothers.2).2
  have hafter' :=
    (runUnits_sameTracker src' p within (hsound'.runUnit src' p within hd) hothers'.2).2
  refine ⟨hacts, ?_⟩
  rw [runUnits_append, runUnits_append]
  exact hafter.trans (hunit.trans hafter'.symm)

/-- A source that has one series of jobs and may refuse to answer anything else. -/
def jobsOnlySource (refuses : Bool) : Source where
  descriptors _ _ := .error .endless
  series _ q :=
    match q.subject with
    | .series (.text "jobs") _ _ => .ok ⟨[jobSeries 3], .text ""⟩
    | _ => if refuses then .error (.api "timeSeries" .notJson) else .ok ⟨[], .text ""⟩
  clock _ := 0
  now _ := .ok .epoch
  wall _ := 0
  limit := 5

theorem jobsOnlySource_answersAlike (asked asked' : History) :
    AnswersAlike (.text "jobs") (jobsOnlySource false) asked (jobsOnlySource true) asked' where
  limit := rfl
  series mine q hq := by
    obtain ⟨within, aggregation, h⟩ := hq q List.mem_cons_self
    simp only [jobsOnlySource, h]
  clock _ _ := rfl

theorem actsAlike_of_reports_jobs :
    let p : Plan := ⟨{}, "stackdriver", 0⟩
    let within : Window := ⟨⟨-300000000⟩, ⟨0⟩⟩
    let jobs : Descriptor := { type := .text "jobs" }
    let errors : Descriptor := { type := .text "errors" }
    let first := (runUnits (jobsOnlySource false) p within [] jobWork).2
    let last := (runUnits (jobsOnlySource true) p within [errors] jobWork).2
    IsReport (jobsOnlySource false) p [jobs, errors] jobWork within ([] ++ jobs :: [errors]) ∧
    IsReport (jobsOnlySource true) p [jobs, errors] jobWork within ([errors] ++ jobs :: []) ∧
    (runUnits (jobsOnlySource true) p within [errors] jobWork).1
      = some (.api "timeSeries" .notJson) ∧
    ActsAlike p within jobs (jobsOnlySource false) first (jobsOnlySource true) last := by
  intro p within jobs errors first last
  have hfirst : IsReport (jobsOnlySource false) p [jobs, errors] jobWork within
      ([] ++ jobs :: [errors]) := ⟨rfl, _, rfl, List.Perm.refl _⟩
  have hlast : IsReport (jobsOnlySource true) p [jobs, errors] jobWork within
      ([errors] ++ jobs :: []) := ⟨rfl, _, rfl, List.Perm.swap _ _ _⟩
  have hsound : jobWork.Sound :=
    ⟨⟨Delta.Store.tidy_empty 1800, Delta.Store.tidy_empty 1800⟩, Sink.wellNamed_nil⟩
  have hkey : jobs.type.asKey = .ok (.text "jobs") := rfl
  have hacts := actsAlike_of_reports (jobsOnlySource false) (jobsOnlySource true) p within _ _
    [] [errors] [errors] [] jobs jobWork jobWork hkey hfirst hlast hsound hsound
    ⟨⟨rfl, rfl⟩, ⟨rfl, rfl⟩⟩ (fun e he => absurd he List.not_mem_nil)
    (jobsOnlySource_answersAlike _ _)
  exact ⟨hfirst, hlast, rfl, hacts.1⟩

end MetricRelay.Scrape
