/-
Which fault stands for a scrape whose threads run one after the other.

A listing keeps the first fault of its units while it goes on.  A request that the service refuses
ends it with that fault, but any other fault of the listing itself ends it abruptly and stands for
it, whatever has failed before.  In the same way a fault of the sink hides the one with which the
pages of a unit have ended.  The first prefix with a fault stands for the scrape:

* `represented?` — the fault that stands for what occurs for a prefix;
* `ListingEnds.fault_eq`, `ScrapeEnds.fault_eq` — the faults of a listing and of a scrape;
* `run_fst_eq_first_iff` — when the fault of a scrape is the first one that occurs;
* `run_fst_ne_first` — a scrape whose fault is a later one.
-/
import MetricRelay.Proofs.Scrape.Failure

namespace MetricRelay.Scrape

open Monitoring Intake

/-- The fault of an occurrence that ends a listing or a report at once. -/
def Occurrence.abrupt? : Occurrence → Option Fault
  | request (.error (.api _ _)) => none
  | request (.error fault) => some fault
  | request (.ok _) => none
  | outset (.error fault) => some fault
  | outset (.ok _) => none
  | unit _ _ => none
  | endless => some .endless

/-- The fault that stands for what occurs for a prefix: an abrupt one, else the first one. -/
def represented? (os : List Occurrence) : Option Fault :=
  (os.findSome? Occurrence.abrupt?).orElse fun _ => os.findSome? Occurrence.fault?

theorem Occurrence.abrupt?_request {fault : Fault} (h : ∀ path problem, fault ≠ .api path problem) :
    (Occurrence.request (.error fault)).abrupt? = some fault := by
  cases fault with
  | api path problem => exact absurd rfl (h path problem)
  | _ => rfl

theorem Occurrence.fault?_of_abrupt? {o : Occurrence} {fault : Fault} (h : o.abrupt? = some fault) :
    o.fault? = some fault := by
  cases o with
  | request answer =>
    cases answer with
    | error f => cases f <;> first | exact h | cases h
    | ok page => cases h
  | outset outcome =>
    cases outcome with
    | error f => exact h
    | ok out => cases h
  | unit d faults => cases h
  | endless => exact h

theorem represented?_eq_none_iff {os : List Occurrence} :
    represented? os = none ↔ hasFailed os = false := by
  rw [hasFailed_eq_false_iff, represented?]
  constructor
  · intro h
    cases habrupt : os.findSome? Occurrence.abrupt? with
    | none =>
      rw [habrupt] at h
      exact List.findSome?_eq_none_iff.mp h
    | some fault =>
      rw [habrupt] at h
      cases h
  · intro h
    have habrupt : os.findSome? Occurrence.abrupt? = none := by
      refine List.findSome?_eq_none_iff.mpr fun o ho => ?_
      cases hf : o.abrupt? with
      | none => rfl
      | some fault => exact absurd ((h o ho).symm.trans (Occurrence.fault?_of_abrupt? hf)) (by simp)
    rw [habrupt]
    exact List.findSome?_eq_none_iff.mpr h

/-! ### The three levels -/

section

variable {src : Source} {p : Plan} {os : List Occurrence}

theorem UnitsEnd.abrupt? {within : Window} {ds : List Descriptor}
    (h : UnitsEnd src p within ds os) : os.findSome? Occurrence.abrupt? = none := by
  induction h with
  | nil => rfl
  | cons h hs ih => exact ih

theorem ReportEnds.fault_eq {ds : List Descriptor} {outcome : Except Fault (Option Fault)}
    (h : ReportEnds Eq src p ds os outcome) :
    (∀ fault, outcome = .ok fault → os.findSome? Occurrence.abrupt? = none ∧
      os.findSome? Occurrence.fault? = fault) ∧
    ∀ fault, outcome = .error fault → os.findSome? Occurrence.abrupt? = some fault := by
  cases h with
  | raised h =>
    refine ⟨fun _ h => (by cases h), ?_⟩
    rintro fault ⟨⟩
    rfl
  | joined h hunits hrecorded =>
    refine ⟨?_, fun _ h => (by cases h)⟩
    rintro fault ⟨⟩
    refine ⟨hunits.abrupt?, ?_⟩
    rw [← hrecorded, List.head?_filterMap]
    rfl

/-- A listing ends with its abrupt fault, else with the first fault that has occurred by then. -/
theorem ListingEnds.fault_eq {q : Query} {l : Listing} {fault : Option Fault}
    (h : ListingEnds Eq src p q l os fault) :
    fault = (os.findSome? Occurrence.abrupt?).orElse fun _ =>
      l.first.orElse fun _ => os.findSome? Occurrence.fault? := by
  induction h with
  | stopped => rfl
  | refused => rfl
  | broken h hapi =>
    rw [List.findSome?_cons, Occurrence.abrupt?_request hapi]
    rfl
  | unnamed => rfl
  | raised h hkeyed hreport =>
    have habrupt := hreport.fault_eq.2 _ rfl
    rw [List.findSome?_cons, Occurrence.abrupt?, habrupt]
    rfl
  | last h hkeyed hreport =>
    obtain ⟨habrupt, hfirst⟩ := hreport.fault_eq.1 _ rfl
    rw [List.findSome?_cons, Occurrence.abrupt?, habrupt, List.findSome?_cons, Occurrence.fault?,
      hfirst]
    rfl
  | @next _ _ l page _ os os' fault later _ h hkeyed hreport hnext hrest ih =>
    obtain ⟨habrupt, hfirst⟩ := hreport.fault_eq.1 _ rfl
    -- the first fault up to this page is handed on to the next one
    rw [ih, List.findSome?_cons, Occurrence.abrupt?, List.findSome?_append, habrupt,
      List.findSome?_cons, Occurrence.fault?, List.findSome?_append, hfirst]
    cases l.first <;> cases fault <;> rfl

theorem PrefixEnds.fault_eq {stem : String} {fault : Option Fault}
    (h : PrefixEnds Eq src p stem os fault) : fault = represented? os := by
  cases h with
  | listed h => exact h.fault_eq
  | hit h hreport =>
    obtain ⟨habrupt, hfirst⟩ := hreport.fault_eq.1 _ rfl
    rw [represented?, habrupt, hfirst]
    rfl
  | hitRaised h hreport =>
    rw [represented?, hreport.fault_eq.2 _ rfl]
    rfl

theorem PrefixesEnd.head?_eq {stems : List String} {oss : List (List Occurrence)}
    {faults : List Fault} (h : PrefixesEnd Eq src p stems oss faults) :
    faults.head? = oss.findSome? represented? := by
  induction h with
  | nil => rfl
  | @cons _ _ os oss fault faults h hs ih =>
    rw [List.findSome?_cons, ← h.fault_eq, ← ih]
    cases fault <;> rfl

theorem ScrapeEnds.fault_eq {oss : List (List Occurrence)} {fault : Option Fault}
    (h : ScrapeEnds Eq src p oss fault) : fault = oss.findSome? represented? := by
  obtain ⟨faults, recorded, hends, rfl, rfl⟩ := h
  exact hends.head?_eq

end

/-! ### The first fault -/

/-- The first fault of an occurrence that fails. -/
def Occurrence.first? : Occurrence → Option Fault
  | unit _ faults => faults.head?
  | o => o.fault?

theorem Occurrence.first?_eq_none_iff {o : Occurrence} : o.first? = none ↔ o.fault? = none := by
  cases o with
  | unit d faults => rw [first?, fault?, List.head?_eq_none_iff, List.getLast?_eq_none_iff]
  | _ => exact Iff.rfl

theorem Occurrence.fault?_eq_first?_iff {o : Occurrence} :
    o.fault? = o.first? ↔ ∀ d faults, o = .unit d faults → faults.getLast? = faults.head? := by
  cases o with
  | unit d faults =>
    constructor
    · rintro h _ _ ⟨⟩
      exact h
    · exact fun h => h d faults rfl
  | _ => exact ⟨fun _ _ _ h => (by cases h), fun _ => rfl⟩

theorem findSome?_first?_eq_none {os : List Occurrence} (h : hasFailed os = false) :
    os.findSome? Occurrence.first? = none :=
  List.findSome?_eq_none_iff.mpr fun o ho =>
    Occurrence.first?_eq_none_iff.mpr (hasFailed_eq_false_iff.mp h o ho)

theorem exists_first_of_hasFailed {os : List Occurrence} (h : hasFailed os = true) :
    ∃ o, os.find? (fun o => o.fault?.isSome) = some o ∧ o.fault? ≠ none ∧
      os.findSome? Occurrence.fault? = o.fault? ∧ os.findSome? Occurrence.first? = o.first? := by
  induction os with
  | nil => cases h
  | cons o os ih =>
    rw [List.find?_cons, List.findSome?_cons, List.findSome?_cons]
    cases hfault : o.fault? with
    | none =>
      rw [hasFailed, List.any_cons, hfault, Option.isSome_none, Bool.false_or] at h
      rw [Occurrence.first?_eq_none_iff.mpr hfault]
      exact ih h
    | some fault =>
      obtain ⟨first, hfirst⟩ : ∃ first, o.first? = some first := by
        refine Option.ne_none_iff_exists'.mp fun hnone => ?_
        rw [Occurrence.first?_eq_none_iff.mp hnone] at hfault
        cases hfault
      exact ⟨o, rfl, by simp [hfault], hfault.symm, by rw [hfirst]⟩

/-- The faults of listings and of units that come late do not hide an earlier one. -/
structure KeepsFirst (os : List Occurrence) : Prop where
  /-- If the listing ends abruptly, it does so with the first fault. -/
  abrupt : ∀ fault, os.findSome? Occurrence.abrupt? = some fault →
    os.findSome? Occurrence.first? = some fault
  /-- If it does not, and the first to fail is a unit, the first fault of that unit is its last
  one. -/
  unit : os.findSome? Occurrence.abrupt? = none → ∀ d faults,
    os.find? (fun o => o.fault?.isSome) = some (.unit d faults) → faults.getLast? = faults.head?

theorem represented?_eq_first_iff {os : List Occurrence} (h : hasFailed os = true) :
    represented? os = os.findSome? Occurrence.first? ↔ KeepsFirst os := by
  obtain ⟨o, hfind, -, hfault, hfirst⟩ := exists_first_of_hasFailed h
  rw [represented?]
  cases habrupt : os.findSome? Occurrence.abrupt? with
  | some fault =>
    -- the abrupt fault stands for the prefix, so it has to be the first one
    constructor
    · intro heq
      refine ⟨fun fault' hfault' => ?_, fun hnone => ?_⟩
      · rw [← heq, ← hfault', habrupt]
        rfl
      · rw [habrupt] at hnone
        cases hnone
    · exact fun hkeeps => (hkeeps.abrupt fault habrupt).symm
  | none =>
    -- the first occurrence that fails stands for it, and only a unit may have several faults
    have hsame : os.findSome? Occurrence.fault? = os.findSome? Occurrence.first? ↔
        ∀ d faults, o = .unit d faults → faults.getLast? = faults.head? := by
      rw [hfault, hfirst]
      exact Occurrence.fault?_eq_first?_iff
    refine hsame.trans ⟨fun hunit => ⟨fun fault hfault' => ?_, fun _ d faults hd => ?_⟩,
      fun hkeeps d faults hd => ?_⟩
    · rw [habrupt] at hfault'
      cases hfault'
    · exact hunit d faults (Option.some.inj (hfind.symm.trans hd))
    · exact hkeeps.unit habrupt d faults (hfind.trans (congrArg some hd))

/-- The fault that stands for several prefixes is the first one exactly if the first of them in
which something fails keeps its first fault. -/
theorem findSome?_represented?_eq_iff (oss : List (List Occurrence)) :
    oss.findSome? represented? = oss.flatten.findSome? Occurrence.first? ↔
      ∀ os, oss.find? hasFailed = some os → KeepsFirst os := by
  induction oss with
  | nil => simp
  | cons os oss ih =>
    rw [List.flatten_cons, List.findSome?_cons, List.findSome?_append, List.find?_cons]
    cases hos : hasFailed os with
    | false =>
      -- nothing fails for this prefix, so the others decide
      rw [represented?_eq_none_iff.mpr hos, findSome?_first?_eq_none hos]
      exact ih
    | true =>
      obtain ⟨o, -, hne, -, hfirst⟩ := exists_first_of_hasFailed hos
      obtain ⟨first, ho⟩ := Option.ne_none_iff_exists'.mp fun h =>
        hne (Occurrence.first?_eq_none_iff.mp h)
      obtain ⟨fault, hfault⟩ := Option.ne_none_iff_exists'.mp fun h => by
        rw [represented?_eq_none_iff.mp h] at hos
        cases hos
      have hiff := represented?_eq_first_iff hos
      rw [hfirst, ho, hfault] at hiff ⊢
      refine hiff.trans ⟨?_, fun h => h os rfl⟩
      rintro hkeeps os' ⟨⟩
      exact hkeeps

/-- **When the first fault stands for a scrape.**  Let prefixes, pages and units be processed in the
order of their lists.  The fault of the scrape is that of the first prefix in which something fails:
the one that ends its listing abruptly, that is any fault of the listing itself but a request that
the service refuses, and else the last one of the first occurrence that fails.  So it is the first
fault that occurs exactly if neither of these hides an earlier one. -/
theorem run_fst_eq_first_iff (src : Source) (p : Plan) (w : Work) :
    let oss := runOccurrences src p w
    (run src p w).1 = oss.findSome? represented? ∧
      ((run src p w).1 = oss.flatten.findSome? Occurrence.first? ↔
        ∀ os, oss.find? hasFailed = some os → KeepsFirst os) := by
  intro oss
  have hfault : (run src p w).1 = oss.findSome? represented? :=
    (scrapeEnds_run (fun _ => rfl) src p w).fault_eq
  refine ⟨hfault, ?_⟩
  rw [hfault]
  exact findSome?_represented?_eq_iff oss

/-- A source whose first page lists a type that it refuses to answer for, and whose second page is
no page. -/
def brokenSource : Source where
  descriptors _ q :=
    match q.token with
    | .text "" => .ok ⟨[{ type := .text "jobs/a" }], .text "rest"⟩
    | _ => .error .notObject
  series _ _ := .error (.api "timeSeries" (.refused 500 "boom"))
  clock _ := 0
  now _ := .ok .epoch
  wall _ := 0
  limit := 5

/-- The first fault is the refusal for the type on the first page, the fault of the scrape that of
the second page. -/
theorem run_fst_ne_first :
    let oss := runOccurrences brokenSource jobsExporter.plan jobWork
    oss.flatten.findSome? Occurrence.first? = some (.api "timeSeries" (.refused 500 "boom")) ∧
      (run brokenSource jobsExporter.plan jobWork).1 = some .notObject ∧
      (run brokenSource jobsExporter.plan jobWork).1 ≠ oss.flatten.findSome? Occurrence.first? := by
  intro oss
  have hfirst : oss.flatten.findSome? Occurrence.first? =
    some (.api "timeSeries" (.refused 500 "boom")) := rfl
  have hfault : (run brokenSource jobsExporter.plan jobWork).1 = some .notObject := rfl
  refine ⟨hfirst, hfault, ?_⟩
  rw [hfirst, hfault]
  simp

end MetricRelay.Scrape
