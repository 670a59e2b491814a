/-
The events of a scrape.

A scrape asks for pages of descriptors or takes the cached ones, runs units, and offers what it has
listed to the cache.  `runEvents` says what happens, in order:

* `trace_run` — the events lead, step by step, from the state in which a scrape begins to the one
  that it leaves, and every page and every hit is what the source and the cache then have;
* `units`, `received` — the units that have run, and the descriptors that the scrape has got hold
  of;
* `counts_run` — each request is counted, and the meters change in nothing else.
-/
import MetricRelay.Proofs.Exposition.Meters
import MetricRelay.Proofs.Scrape.Descriptors
import MetricRelay.Scrape.Listing

namespace MetricRelay.Scrape

open Monitoring

/-- Something that happens in a scrape. -/
inductive Event where
  /-- A page of descriptors is asked for. -/
  | page (q : Query) (answer : Except Fault DescriptorPage)
  /-- The descriptors under a prefix are taken from the cache. -/
  | hit (stem : String) (ds : List Descriptor)
  /-- The unit of a descriptor runs. -/
  | unit (within : Window) (d : Descriptor)
  /-- The descriptors under a prefix are offered to the cache. -/
  | stored (stem : String) (ds : List Descriptor)

/-- What an event does to the state in which it happens. -/
inductive Step (src : Source) (p : Plan) : Work → Event → Work → Prop
  | page {w : Work} {q : Query} {answer : Except Fault DescriptorPage}
      (h : src.descriptors w.asked q = answer) : Step src p w (.page q answer) (w.ask q)
  | hit {w : Work} {stem : String} {ds : List Descriptor}
      (h : w.cache.lookup (src.clock w.asked) stem = some ds) : Step src p w (.hit stem ds) w
  | unit (w : Work) (within : Window) (d : Descriptor) :
      Step src p w (.unit within d) (runUnit src p within d w).2
  | stored (w : Work) (stem : String) (ds : List Descriptor) :
      Step src p w (.stored stem ds)
        { w with cache := w.cache.store (src.clock w.asked) stem ds }

/-- Events that lead from one state to another. -/
inductive Trace (src : Source) (p : Plan) : Work → List Event → Work → Prop
  | nil (w : Work) : Trace src p w [] w
  | cons {w w' w'' : Work} {e : Event} {es : List Event} (h : Step src p w e w')
      (hs : Trace src p w' es w'') : Trace src p w (e :: es) w''

/-- The descriptors whose units run. -/
def units (es : List Event) : List Descriptor :=
  es.filterMap fun
    | .unit _ d => some d
    | _ => none

/-- The descriptors on pages that come without a fault and those from the cache. -/
def received (es : List Event) : List Descriptor :=
  es.flatMap fun
    | .page _ (.ok page) => page.descriptors
    | .hit _ ds => ds
    | _ => []

/-! ### What happens -/

/-- The events of a report. -/
def reportEvents (src : Source) (p : Plan) (ds : List Descriptor) (w : Work) : List Event :=
  match unique ds, (src.now w.asked).bind (window p.collection) with
  | .ok us, .ok within => us.map (.unit within)
  | _, _ => []

/-- The events of a listing that starts with a query; `limit` bounds the pages. -/
def listEvents (src : Source) (p : Plan) (stem : String) :
    Nat → Query → Listing → Work → List Event
  | 0, _, _, _ => []
  | limit + 1, q, l, w =>
    let page := src.descriptors w.asked q
    let w := w.ask q
    .page q page ::
      match page with
      | .error _ => []
      | .ok page =>
        match keyed page.descriptors with
        | .error _ => []
        | .ok entries =>
          let fresh := (entries.filter fun e => !l.seen.contains e.1).map Prod.snd
          reportEvents src p fresh w ++
            match report src p fresh w with
            | (.error _, _) => []
            | (.ok fault, w) =>
              let l : Listing :=
                { seen := l.seen ++ entries.map Prod.fst
                  listed := l.listed ++ page.descriptors
                  first := l.first.orElse fun _ => fault }
              match following? page.nextToken with
              | none => [.stored stem l.listed]
              | some token => listEvents src p stem limit (q.forPage token) l w

/-- The events for one prefix. -/
def prefixEvents (src : Source) (p : Plan) (stem : String) (w : Work) : List Event :=
  match w.cache.lookup (src.clock w.asked) stem with
  | none => listEvents src p stem src.limit (descriptorQuery p.collection stem) {} w
  | some ds => .hit stem ds :: reportEvents src p ds w

/-- The events for prefixes, one after the other. -/
def prefixesEvents (src : Source) (p : Plan) : List String → Work → List Event
  | [], _ => []
  | stem :: stems, w =>
    prefixEvents src p stem w ++ prefixesEvents src p stems (runPrefix src p stem w).2

/-- The events of a scrape. -/
def runEvents (src : Source) (p : Plan) (w : Work) : List Event :=
  prefixesEvents src p p.collection.prefixes w

theorem units_append (es fs : List Event) : units (es ++ fs) = units es ++ units fs :=
  List.filterMap_append

theorem received_append (es fs : List Event) : received (es ++ fs) = received es ++ received fs :=
  List.flatMap_append

/-- The pages of a unit change nothing but the queries made, their count and the totals. -/
theorem addPages_keeps (src : Source) (limit : Nat) (q : Query) (b : Intake.Batch) (w : Work) :
    ∃ asked meters totals,
      (addPages src limit q b w).2.2 = { w with asked, meters, totals } := by
  induction limit generalizing q b w with
  | zero => exact ⟨w.asked, w.meters, w.totals, rfl⟩
  | succ limit ih =>
    rw [addPages]
    cases src.series w.asked q with
    | error fault => exact ⟨_, _, _, rfl⟩
    | ok page =>
      dsimp only
      split
      · exact ⟨_, _, _, rfl⟩
      · exact ⟨_, _, _, rfl⟩
      · obtain ⟨asked, meters, totals, h⟩ := ih (q.forPage _) _ { w.ask q with totals := _ }
        exact ⟨asked, meters, totals, h⟩

/-! ### What happens is what is done -/

section

variable {src : Source} {p : Plan} {stem : String} {w w' w'' : Work}

theorem Trace.append {es fs : List Event} (h : Trace src p w es w') (h' : Trace src p w' fs w'') :
    Trace src p w (es ++ fs) w'' := by
  induction h with
  | nil w => exact h'
  | cons hstep _ ih => exact .cons hstep (ih h')

/-- The last event happens in the state that the others lead to. -/
theorem Trace.exists_step {es : List Event} {e : Event} (h : Trace src p w (es ++ [e]) w'') :
    ∃ v, Trace src p w es v ∧ Step src p v e w'' := by
  induction es generalizing w with
  | nil =>
    cases h with
    | cons hstep hrest =>
      cases hrest
      exact ⟨w, .nil w, hstep⟩
  | cons d es ih =>
    cases h with
    | cons hstep hrest =>
      obtain ⟨v, hv, hlast⟩ := ih hrest
      exact ⟨v, .cons hstep hv, hlast⟩

theorem trace_runUnits (within : Window) (ds : List Descriptor) (w : Work) :
    Trace src p w (ds.map (.unit within)) (runUnits src p within ds w).2 := by
  induction ds generalizing w with
  | nil => exact .nil w
  | cons d ds ih => exact .cons (.unit w within d) (ih (runUnit src p within d w).2)

theorem trace_report (src : Source) (p : Plan) (ds : List Descriptor) (w : Work) :
    Trace src p w (reportEvents src p ds w) (report src p ds w).2 := by
  rw [reportEvents, report]
  cases unique ds with
  | error fault => exact .nil w
  | ok us =>
    cases (src.now w.asked).bind (window p.collection) with
    | error fault => exact .nil w
    | ok within => exact trace_runUnits within us w

theorem trace_listPages (limit : Nat) (q : Query) (l : Listing) (w : Work) :
    Trace src p w (listEvents src p stem limit q l w) (listPages src p stem limit q l w).2 := by
  -- on the bound of the pages, case by case as the listing decides
  induction limit generalizing q l w with
  | zero => exact .nil w
  | succ limit ih =>
    rw [listEvents, listPages]
    refine .cons (.page rfl) ?_
    cases src.descriptors w.asked q with
    | error fault => cases fault <;> exact .nil (w.ask q)
    | ok page =>
      dsimp only
      cases keyed page.descriptors with
      | error fault => exact .nil (w.ask q)
      | ok entries =>
        dsimp only
        obtain ⟨fresh, hfresh⟩ : ∃ fresh,
          (entries.filter fun e => !l.seen.contains e.1).map Prod.snd = fresh := ⟨_, rfl⟩
        rw [hfresh]
        have hreport := trace_report src p fresh (w.ask q)
        obtain ⟨⟨outcome, v⟩, houtcome⟩ : ∃ r, report src p fresh (w.ask q) = r := ⟨_, rfl⟩
        rw [houtcome] at hreport ⊢
        refine hreport.append ?_
        cases outcome with
        | error fault => exact .nil v
        | ok fault =>
          dsimp only
          cases following? page.nextToken with
          | none => exact .cons (.stored v stem _) (.nil _)
          | some token => exact ih _ _ v

theorem trace_runPrefix (stem : String) (w : Work) :
    Trace src p w (prefixEvents src p stem w) (runPrefix src p stem w).2 := by
  rw [prefixEvents, runPrefix]
  cases h : w.cache.lookup (src.clock w.asked) stem with
  | none => exact trace_listPages _ _ _ w
  | some ds =>
    refine .cons (.hit h) ?_
    have hreport := trace_report src p ds w
    obtain ⟨⟨outcome, v⟩, houtcome⟩ : ∃ r, report src p ds w = r := ⟨_, rfl⟩
    rw [houtcome] at hreport
    cases outcome <;> simpa only [houtcome] using hreport

theorem trace_runPrefixes (stems : List String) (w : Work) :
    Trace src p w (prefixesEvents src p stems w) (runPrefixes src p stems w).2 := by
  induction stems generalizing w with
  | nil => exact .nil w
  | cons stem stems ih => exact (trace_runPrefix stem w).append (ih (runPrefix src p stem w).2)

/-- **The events of a scrape lead to the state that it leaves.** -/
theorem trace_run (src : Source) (p : Plan) (w : Work) :
    Trace src p w (runEvents src p w) (run src p w).2 :=
  trace_runPrefixes p.collection.prefixes w

end

/-! ### The count of requests -/

/-- From one state to another each query that is made is counted once, and the meters change in
nothing else. -/
def Counts (w w' : Work) : Prop :=
  ∃ qs : List Query, w'.asked = qs ++ w.asked ∧ w'.meters = w.meters.recordCalls qs.length

theorem counts_refl (w : Work) : Counts w w :=
  ⟨[], rfl, rfl⟩

theorem counts_ask (w : Work) (q : Query) : Counts w (w.ask q) :=
  ⟨[q], rfl, rfl⟩

theorem Counts.trans {w w' w'' : Work} (h : Counts w w') (h' : Counts w' w'') : Counts w w'' := by
  obtain ⟨qs, hasked, hmeters⟩ := h
  obtain ⟨qs', hasked', hmeters'⟩ := h'
  refine ⟨qs' ++ qs, ?_, ?_⟩
  · rw [hasked', hasked, List.append_assoc]
  · rw [hmeters', hmeters, Exposition.Meters.recordCalls_recordCalls, List.length_append,
      Nat.add_comm]

theorem counts_addPages (src : Source) (limit : Nat) (q : Query) (b : Intake.Batch) (w : Work) :
    Counts w (addPages src limit q b w).2.2 := by
  -- on the bound of the pages; what a page does to the totals is not counted
  induction limit generalizing q b w with
  | zero => exact counts_refl w
  | succ limit ih =>
    rw [addPages]
    cases src.series w.asked q with
    | error fault => exact counts_ask w q
    | ok page =>
      dsimp only
      split
      · exact counts_ask w q
      · exact counts_ask w q
      · exact (counts_ask w q).trans (ih (q.forPage _) _ { w.ask q with totals := _ })

theorem counts_runUnit (src : Source) (p : Plan) (within : Window) (d : Descriptor) (w : Work) :
    Counts w (runUnit src p within d w).2 := by
  rw [runUnit]
  cases unitQuery p within d with
  | error fault => exact counts_refl w
  | ok q =>
    have hpages := counts_addPages src src.limit q (.start p.options d) w
    dsimp only
    rw [finish]
    split
    · exact hpages
    · exact hpages

theorem Step.counts {src : Source} {p : Plan} {w w' : Work} {e : Event} (h : Step src p w e w') :
    Counts w w' := by
  cases h with
  | page => exact counts_ask _ _
  | hit => exact counts_refl _
  | unit => exact counts_runUnit _ _ _ _ _
  | stored => exact counts_refl w

theorem Trace.counts {src : Source} {p : Plan} {w w' : Work} {es : List Event}
    (h : Trace src p w es w') : Counts w w' := by
  induction h with
  | nil w => exact counts_refl w
  | cons hstep _ ih => exact hstep.counts.trans ih

/-- A scrape counts each of its requests when it is made, whatever the answer is. -/
theorem counts_run (src : Source) (p : Plan) (w : Work) : Counts w (run src p w).2 :=
  (trace_run src p w).counts

end MetricRelay.Scrape
