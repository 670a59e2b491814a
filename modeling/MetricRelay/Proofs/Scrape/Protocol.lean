/-
What a scrape asks its source for.

A scrape asks for pages of descriptors and runs units, which ask for pages of time series
(`unitAsks`).  `queries` reads all of these requests off the events of the scrape:

* `listingAsks` — the listing of a prefix follows the tokens with one query, whatever becomes of the
  units between its pages;
* `inWindows_prefixesEvents` — the units of a page share one window, which is counted back from the
  time at which the page came;
* `collect_protocol` — so it is in every collection, whose requests are counted one by one.
-/
import MetricRelay.Proofs.Scrape.Caching
import MetricRelay.Proofs.Scrape.Failure
import MetricRelay.Proofs.Scrape.Requests

namespace MetricRelay.Scrape

open Monitoring Exposition

variable {src : Source} {p : Plan} {stem : String} {w w' v : Work}

/-! ### Listings -/

/-- The requests of the scrape of a prefix. -/
structure ListingAsks (src : Source) (p : Plan) (stem : String) (w : Work) : Prop where
  /-- A hit asks for no descriptors. -/
  hit : (w.cache.lookup (src.clock w.asked) stem).isSome = true →
    requests (prefixEvents src p stem w) = []
  /-- A listing asks with one query: for the first page with an empty token, and with the token of
  the page before from then on. -/
  follows : w.cache.lookup (src.clock w.asked) stem = none →
    (descriptorQuery p.collection stem).token = .text "" ∧
    (∀ r ∈ requests (prefixEvents src p stem w),
      r.1 = { descriptorQuery p.collection stem with token := r.1.token }) ∧
    FollowsTokens (fun _ => True) DescriptorPage.nextToken (descriptorQuery p.collection stem)
      (requests (prefixEvents src p stem w))
  /-- It goes on to the page without a token, unless a request or a page fails. -/
  ends : w.cache.lookup (src.clock w.asked) stem = none →
    halted (prefixOccurrences src p stem w) = false →
    ∃ q page, (requests (prefixEvents src p stem w)).getLast? = some (q, .ok page) ∧
      IsNothing page.nextToken
  /-- Nothing occurs after what makes it fail. -/
  stops : w.cache.lookup (src.clock w.asked) stem = none →
    halted (prefixOccurrences src p stem w).dropLast = false
  /-- The pages that are asked for are the requests that occur. -/
  answers : (requests (prefixEvents src p stem w)).map Prod.snd
    = (prefixOccurrences src p stem w).filterMap Occurrence.answer?

theorem Course.followsTokens {q : Query} {listed : List Descriptor} {es : List Event}
    {os : List Occurrence} (h : Course src p stem q listed w es os w') :
    FollowsTokens (fun _ => True) DescriptorPage.nextToken q (Scrape.requests es) := by
  induction h with
  | stopped => exact followsTokens_nil
  | refused => exact followsTokens_singleton _
  | raised => exact followsTokens_singleton _
  | last =>
    rw [requests_page]
    exact followsTokens_singleton _
  | next h hwithin hunits hnext hrest ih =>
    rw [requests_page]
    obtain ⟨htoken, rfl⟩ := occupied_eq_some_iff.mp hnext
    exact .cons trivial htoken ih

theorem listingAsks (src : Source) (p : Plan) (stem : String) (w : Work) :
    ListingAsks src p stem w := by
  obtain ⟨hwhole, -⟩ := cachesWhole src p stem w
  refine ⟨fun hhit => ?_, fun hmiss => ?_, fun hmiss hnot => ?_,
    fun hmiss => (course_runPrefix hmiss).halted, hwhole.answers⟩
  · obtain ⟨ds, hds⟩ := Option.isSome_iff_exists.mp hhit
    simp only [prefixEvents, hds]
    exact (reportEvents_writes src p ds w).2.1
  · have hfollows := (course_runPrefix (p := p) hmiss).followsTokens
    exact ⟨rfl, hfollows.eq_withToken, hfollows⟩
  · obtain ⟨q, page, hlast, htoken⟩ := (hwhole.whole hmiss hnot).1
    exact ⟨q, page, hlast, occupied_eq_none_iff.mp htoken⟩

/-! ### All requests -/

/-- The queries that events make, when some queries have been made before. -/
def queries (src : Source) (p : Plan) : History → List Event → List Query
  | _, [] => []
  | asked, .page q _ :: es => q :: queries src p (q :: asked) es
  | asked, .unit within d :: es =>
    let rs := src.unitRequests p within d asked
    rs.map Prod.fst ++ queries src p (asked.after rs) es
  | asked, .hit _ _ :: es => queries src p asked es
  | asked, .stored _ _ :: es => queries src p asked es

/-- Events that lead from one state to another make all the queries that lie between these. -/
theorem Trace.asked {es : List Event} (h : Trace src p w es w') :
    w'.asked = (queries src p w.asked es).reverse ++ w.asked := by
  induction h with
  | nil => rfl
  | cons hstep _ ih =>
    rw [ih]
    cases hstep with
    | page => simp [queries, Work.ask]
    | hit => rfl
    | unit within d =>
      rw [runUnit_asked, queries]
      simp [History.after]
    | stored => rfl

/-! ### Windows -/

/-- Whether an event brings descriptors to report. -/
def Event.brings : Event → Bool
  | .page _ (.ok _) | .hit _ _ => true
  | _ => false

/-- Every unit runs within the window that the clock gives when the descriptors to report are there;
only other units of the same report come between. -/
def InWindows (src : Source) (p : Plan) (w : Work) (es : List Event) : Prop :=
  ∀ before within d after, es = before ++ .unit within d :: after →
    ∃ (head : List Event) (e : Event) (us : List Descriptor) (u : Work),
      before = head ++ e :: us.map (.unit within) ∧ e.brings = true ∧
      Trace src p w (head ++ [e]) u ∧ (src.now u.asked).bind (window p.collection) = .ok within

theorem inWindows_of_units {es : List Event} (h : units es = []) : InWindows src p w es := by
  rintro before within d after rfl
  rw [units_append] at h
  simp [units] at h

/-- The units of one report run within its window. -/
theorem inWindows_report {e : Event} {within : Window} (hstep : Step src p w e v)
    (he : e.brings = true) (hwithin : (src.now v.asked).bind (window p.collection) = .ok within)
    (us : List Descriptor) : InWindows src p w (e :: us.map (.unit within)) := by
  intro before within' d after h
  cases before with
  | nil =>
    obtain ⟨rfl, -⟩ := List.cons.inj h
    cases he
  | cons e' before =>
    obtain ⟨rfl, hrest⟩ := List.cons.inj h
    obtain ⟨us₁, us₂, -, hbefore, hafter⟩ := List.map_eq_append_iff.mp hrest
    obtain ⟨d', us₃, -, hd, -⟩ := List.map_eq_cons_iff.mp hafter
    cases hd
    exact ⟨[], e, us₁, v, by rw [hbefore]; rfl, he, .cons hstep (.nil v), hwithin⟩

theorem inWindows_append {es fs : List Event} (h : Trace src p w es v)
    (hes : InWindows src p w es) (hfs : InWindows src p v fs) : InWindows src p w (es ++ fs) := by
  intro before within d after heq
  rcases List.append_eq_append_iff.mp heq with ⟨mid, rfl, hmid⟩ | ⟨mid, rfl, hmid⟩
  · obtain ⟨head, e, us, u, rfl, he, htrace, hwithin⟩ := hfs mid within d after hmid
    refine ⟨es ++ head, e, us, u, by simp, he, ?_, hwithin⟩
    rw [List.append_assoc]
    exact h.append htrace
  · -- a unit of the first events, or the first of the others
    cases mid with
    | nil =>
      obtain ⟨head, e, us, u, hhead, he, htrace, hwithin⟩ := hfs [] within d after hmid.symm
      simp at hhead
    | cons x mid =>
      obtain ⟨rfl, -⟩ := List.cons.inj hmid
      exact hes before within d mid rfl

/-- A page and its units, with what follows them. -/
theorem inWindows_page {q : Query} {page : DescriptorPage} {within : Window} {us : List Descriptor}
    {es : List Event} (h : src.descriptors w.asked q = .ok page)
    (hwithin : (src.now (q :: w.asked)).bind (window p.collection) = .ok within)
    (hunits : (runUnits src p within us (w.ask q)).2 = v) (hes : InWindows src p v es) :
    InWindows src p w (.page q (.ok page) :: (us.map (.unit within) ++ es)) := by
  have hpage : Step src p w (.page q (.ok page)) (w.ask q) := .page h
  have htrace : Trace src p w (.page q (.ok page) :: us.map (.unit within)) v :=
    .cons hpage (hunits ▸ trace_runUnits within us (w.ask q))
  exact inWindows_append htrace (inWindows_report hpage rfl hwithin us) hes

theorem Course.inWindows {q : Query} {listed : List Descriptor} {es : List Event}
    {os : List Occurrence} (h : Course src p stem q listed w es os w') : InWindows src p w es := by
  induction h with
  | stopped => exact inWindows_of_units rfl
  | refused => exact inWindows_of_units rfl
  | raised => exact inWindows_of_units rfl
  | last h hwithin hunits => exact inWindows_page h hwithin hunits (inWindows_of_units rfl)
  | next h hwithin hunits _ _ ih => exact inWindows_page h hwithin hunits ih

theorem inWindows_prefixEvents (stem : String) (w : Work) :
    InWindows src p w (prefixEvents src p stem w) := by
  cases hlookup : w.cache.lookup (src.clock w.asked) stem with
  | none => exact (course_runPrefix hlookup).inWindows
  | some ds =>
    simp only [prefixEvents, hlookup, reportEvents_eq]
    cases hout : src.outset p ds w.asked with
    | error fault => exact inWindows_of_units rfl
    | ok out => exact inWindows_report (.hit hlookup) rfl (window_of_outset hout) out.1

theorem inWindows_prefixesEvents (stems : List String) (w : Work) :
    InWindows src p w (prefixesEvents src p stems w) := by
  induction stems generalizing w with
  | nil => exact inWindows_of_units rfl
  | cons stem stems ih =>
    exact inWindows_append (trace_runPrefix stem w) (inWindows_prefixEvents stem w)
      (ih (runPrefix src p stem w).2)

/-! ### Collections -/

/-- The time from which the window of a unit is counted back. -/
theorem exists_now_of_window {asked : History} {within : Window}
    (h : (src.now asked).bind (window p.collection) = .ok within) :
    ∃ now, src.now asked = .ok now ∧
      within.stop.micros = now.micros - p.collection.offset.micros ∧
      within.stop.micros - within.start.micros = p.collection.interval.micros := by
  obtain ⟨now, hnow, hwindow⟩ := Except.bind_eq_ok_iff.mp h
  exact ⟨now, hnow, micros_of_window hwindow⟩

/-- A collection counts its requests, one by one. -/
theorem calls_collect (e : Exporter) (src : Source) :
    (e.collect src).2.meters.stem = e.meters.stem ∧
      (e.collect src).2.meters.apiCalls = e.meters.apiCalls + (e.collect src).1.asked.length := by
  obtain ⟨qs, hasked, hmeters⟩ := counts_run src e.plan e.work
  have hlength : (e.collect src).1.asked.length = qs.length := by
    show (run src e.plan e.work).2.asked.reverse.length = _
    rw [hasked, List.length_reverse]
    exact congrArg List.length (List.append_nil qs)
  constructor
  · show (run src e.plan e.work).2.meters.stem = _
    rw [hmeters]
    rfl
  · show (run src e.plan e.work).2.meters.apiCalls = _
    rw [hmeters, hlength]
    rfl

/-- **The request protocol of a collection.**  The listing of every prefix and every unit ask for
one page after the other with one query, following the tokens up to a page without one or a fault.
A unit asks within the window of its report, moved back by the delay that counts; this window ends
the offset before the time that the clock shows when the descriptors have come, and is as long as
the interval.  The requests of all these are the queries that are made, and each one is counted,
whether it is answered or not. -/
theorem collect_protocol (e : Exporter) (src : Source) :
    let p := e.plan
    let w := e.work
    let es := runEvents src p w
    Trace src p w es (run src p w).2 ∧
    (∀ before stem after, p.collection.prefixes = before ++ stem :: after →
      let begun := (runPrefixes src p before w).2
      es = prefixesEvents src p before w ++ (prefixEvents src p stem begun
        ++ prefixesEvents src p after (runPrefix src p stem begun).2) ∧
      ListingAsks src p stem begun) ∧
    (∀ before within d after, es = before ++ .unit within d :: after →
      UnitAsks src p within d (queries src p [] before).reverse ∧
      ∃ (head : List Event) (brought : Event) (us : List Descriptor) (u : Work)
        (now : Time.Instant),
        before = head ++ brought :: us.map (.unit within) ∧ brought.brings = true ∧
        Trace src p w (head ++ [brought]) u ∧ src.now u.asked = .ok now ∧
        within.stop.micros = now.micros - p.collection.offset.micros ∧
        within.stop.micros - within.start.micros = p.collection.interval.micros) ∧
    (e.collect src).1.asked = queries src p [] es ∧
    (e.collect src).2.meters.apiCalls = e.meters.apiCalls + (queries src p [] es).length ∧
    Shows (e.collect src).1.meters p.collection.projectId (e.meters.stem ++ "api_calls_total")
      (Float.ofNat (e.meters.apiCalls + (queries src p [] es).length)) := by
  intro p w es
  have htrace : Trace src p w es (run src p w).2 := trace_run src p w
  have hasked : (run src p w).2.asked = (queries src p [] es).reverse :=
    htrace.asked.trans (List.append_nil _)
  have hmade : (e.collect src).1.asked = queries src p [] es := by
    show (run src p w).2.asked.reverse = _
    rw [hasked, List.reverse_reverse]
  obtain ⟨hstem, hcalls⟩ := calls_collect e src
  rw [hmade] at hcalls
  refine ⟨htrace, fun before stem after hprefixes => ⟨?_, listingAsks src p stem _⟩,
    fun before within d after hes => ⟨unitAsks src p within d _, ?_⟩, hmade, hcalls, ?_⟩
  · show runEvents src p w = _
    rw [runEvents, hprefixes, prefixesEvents_append, prefixesEvents]
  · obtain ⟨head, brought, us, u, hbefore, hbrings, hu, hwithin⟩ :=
      inWindows_prefixesEvents p.collection.prefixes w before within d after hes
    obtain ⟨now, hnow, hwindow⟩ := exists_now_of_window hwithin
    exact ⟨head, brought, us, u, now, hbefore, hbrings, hu, hnow, hwindow⟩
  · have hshows := (e.collect src).2.meters.shows_apiCalls p.collection.projectId
    rwa [hstem, hcalls] at hshows

/-- An exporter for jobs that heeds the delays that descriptors declare. -/
def heedingExporter : Exporter :=
  { jobsExporter with plan :=
    { collection := { projectId := "mine", prefixes := ["jobs/"], ingestDelay := true },
      metricNamespace := "stackdriver" } }

/-- A source that lists two types on two pages, the first one with a delay of a minute and the
second one with a delay that is no duration, and that has two pages of time series for every
type. -/
def pagedSource : Source where
  descriptors _ q :=
    match q.token with
    | .text "" => .ok ⟨[{ type := .text "jobs/a", ingestDelay := some (.text "60s") }], .text "2"⟩
    | _ => .ok ⟨[{ type := .text "jobs/b", ingestDelay := some (.text "soon") }], .text ""⟩
  series _ q :=
    match q.token with
    | .text "" => .ok ⟨[], .text "more"⟩
    | _ => .ok ⟨[], .text ""⟩
  clock _ := 0
  now _ := .ok .epoch
  wall _ := 0
  limit := 5

/-- The token of a query and, if it asks for time series, the ends of its window. -/
def tokenAndWindow (q : Query) : String × Option (Int × Int) :=
  (q.token.formatted,
    match q.subject with
    | .descriptors _ => none
    | .series _ w _ => some (w.start.micros, w.stop.micros))

/-- The unit of the first type asks for both of its pages within a window that ends a minute before
now, and the one of the second type asks for nothing. -/
theorem collect_protocol_paged :
    (heedingExporter.collect pagedSource).1.asked.map tokenAndWindow
      = [("", none), ("", some (-360000000, -60000000)), ("more", some (-360000000, -60000000)),
        ("2", none)] ∧
    (heedingExporter.collect pagedSource).2.meters.apiCalls = 4 ∧
    Shows (heedingExporter.collect pagedSource).1.meters "mine"
      "stackdriver_monitoring_api_calls_total" 4 := by
  obtain ⟨-, -, -, hasked, hcalls, hshows⟩ := collect_protocol heedingExporter pagedSource
  have hqueries : (queries pagedSource heedingExporter.plan []
      (runEvents pagedSource heedingExporter.plan heedingExporter.work)).map tokenAndWindow
      = [("", none), ("", some (-360000000, -60000000)), ("more", some (-360000000, -60000000)),
        ("2", none)] := by
    decide +kernel
  have hfour := congrArg List.length hqueries
  rw [List.length_map] at hfour
  rw [hfour] at hcalls hshows
  exact ⟨by rw [hasked, hqueries], hcalls, hshows⟩

end MetricRelay.Scrape
