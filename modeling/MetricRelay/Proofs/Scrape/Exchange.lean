/-
What a unit hears from its source, and what it does with it.

A unit asks for page after page, and what it asks and takes in depends on the source and on nothing
that the scrape has collected so far (`Source.exchange`).  The rest is a function of the totals with
which the unit begins (`Effect`):

* `runUnit_eq_apply` — a unit is its effect, applied to the state in which it begins;
* `unitEffect_isLocal` — the effect changes the totals of its own type only and depends on no
  others;
* `unitEffect_congr` — two sources that answer the queries for a type alike give its unit one
  effect.
-/
import MetricRelay.Proofs.Exposition.Meters
import MetricRelay.Proofs.Intake.Contribution
import MetricRelay.Scrape.Unit

namespace MetricRelay.Scrape

open Monitoring Intake Exposition

/-- What a unit hears from its source. -/
structure Exchange where
  /-- The queries, the latest first. -/
  asked : List Query
  /-- What the pages contribute and what the clock shows when they are taken in. -/
  pages : List (Float × List (Reading × Route))
  /-- The fault that ended it. -/
  fault : Option Fault
  /-- What the clock shows at the end. -/
  finished : Float

namespace Exchange

/-- The exchange with a first page before it. -/
def after (x : Exchange) (q : Query) (page : Float × List (Reading × Route)) : Exchange :=
  { x with asked := x.asked ++ [q], pages := page :: x.pages }

/-- The readings of all pages and where they go. -/
def contributed (x : Exchange) : List (Reading × Route) :=
  x.pages.flatMap Prod.snd

/-- The totals with what the pages contribute. -/
def accumulate (x : Exchange) (type : Json.Key) (t : Totals) : Totals :=
  x.pages.foldl (fun t page => t.accumulate page.1 type page.2) t

end Exchange

/-- What a unit that starts with a query hears when some queries have been made before; `limit`
bounds the pages. -/
def Source.exchange (src : Source) (options : Options) (d : Descriptor) :
    Nat → History → Query → Exchange
  | 0, asked, _ => ⟨[], [], some .endless, src.clock asked⟩
  | limit + 1, asked, q =>
    let now := src.clock (q :: asked)
    match src.series asked q with
    | .error fault => ⟨[q], [], some fault, now⟩
    | .ok page =>
      let given := (now, contributions options d (unfailing options d page.series))
      match page.series.findSome? (raised? options d), following? page.nextToken with
      | some fault, _ => ⟨[q], [given], some fault, now⟩
      | none, none => ⟨[q], [given], none, now⟩
      | none, some token =>
        (src.exchange options d limit (q :: asked) (q.forPage token)).after q given

/-- What a unit does to the state in which it begins. -/
structure Effect where
  /-- The queries, the latest first. -/
  asked : List Query
  /-- What is handed to the sink. -/
  readings : Totals → List Reading
  totals : Totals → Totals
  /-- The fault, if the sink has none. -/
  fault : Option Fault

/-- The fault and the state that an effect leaves. -/
def Effect.apply (e : Effect) (w : Work) : Option Fault × Work :=
  let (sink, fault) := w.sink.addAll (e.readings w.totals)
  (fault.orElse fun _ => e.fault,
    { w with
      asked := e.asked ++ w.asked
      meters := w.meters.recordCalls e.asked.length
      totals := e.totals w.totals
      sink })

/-- The effect of what a unit has heard: it adds up and hands out what was contributed. -/
def Exchange.effect (x : Exchange) (options : Options) (d : Descriptor) (type : Json.Key) :
    Effect where
  asked := x.asked
  readings t :=
    ((Batch.start options d).collect x.contributed).handedOut (x.accumulate type t) x.finished type
  totals t := (x.accumulate type t).concluded options x.finished type
  fault := x.fault

/-- The effect of the unit of a descriptor when some queries have been made before. -/
def Source.unitEffect (src : Source) (p : Plan) (within : Window) (d : Descriptor) (type : Json.Key)
    (asked : History) : Effect :=
  match unitQuery p within d with
  | .error fault => ⟨[], fun _ => [], id, some fault⟩
  | .ok q => (src.exchange p.options d src.limit asked q).effect p.options d type

/-! ### Units are their effects -/

theorem addPages_eq_exchange {src : Source} {type : Json.Key} (limit : Nat) (q : Query) (b : Batch)
    (w : Work) (hd : b.descriptor.type.asKey = .ok type) :
    addPages src limit q b w =
      let x := src.exchange b.options b.descriptor limit w.asked q
      (x.fault, b.collect x.contributed,
        { w with
          asked := x.asked ++ w.asked
          meters := w.meters.recordCalls x.asked.length
          totals := x.accumulate type w.totals }) := by
  -- on the bound of the pages, for every batch and every state that the pages so far leave
  induction limit generalizing q b w with
  | zero => rfl
  | succ limit ih =>
    rw [addPages, Source.exchange]
    cases hpage : src.series w.asked q with
    | error fault => rfl
    | ok page =>
      dsimp only
      rw [Batch.addPage_eq hd]
      dsimp only
      cases page.series.findSome? (raised? b.options b.descriptor) with
      | some fault =>
        simp only [Exchange.contributed, Exchange.accumulate, List.flatMap_cons, List.flatMap_nil,
          List.append_nil, List.foldl_cons, List.foldl_nil]
        rfl
      | none =>
        cases following? page.nextToken with
        | none =>
          simp only [Exchange.contributed, Exchange.accumulate, List.flatMap_cons, List.flatMap_nil,
            List.append_nil, List.foldl_cons, List.foldl_nil]
          rfl
        | some token =>
          -- the batch and the totals after this page are those with which the next one is taken in
          dsimp only
          rw [ih _ _ _ (by exact hd)]
          simp only [Exchange.after, Exchange.contributed, Exchange.accumulate, List.flatMap_cons,
            List.foldl_cons, Batch.collect_append, List.append_assoc, List.length_append,
            List.length_singleton, Work.ask, Exposition.Meters.recordCalls_recordCall]
          rfl

/-- The time at the end is what the clock shows after all queries. -/
theorem exchange_finished (src : Source) (options : Options) (d : Descriptor) (limit : Nat)
    (asked : History) (q : Query) :
    let x := src.exchange options d limit asked q
    x.finished = src.clock (x.asked ++ asked) := by
  induction limit generalizing asked q with
  | zero => rfl
  | succ limit ih =>
    rw [Source.exchange]
    cases src.series asked q with
    | error fault => rfl
    | ok page =>
      dsimp only
      cases page.series.findSome? (raised? options d) with
      | some fault => rfl
      | none =>
        cases following? page.nextToken with
        | none => rfl
        | some token =>
          have hrest := ih (q :: asked) (q.forPage token)
          dsimp only at hrest
          simp only [Exchange.after, List.append_assoc, List.cons_append, List.nil_append]
          exact hrest

/-- **A unit is its effect**, applied to the state in which it begins. -/
theorem runUnit_eq_apply {src : Source} {p : Plan} {within : Window} {d : Descriptor}
    {type : Json.Key} (hd : d.type.asKey = .ok type) (w : Work) :
    runUnit src p within d w = (src.unitEffect p within d type w.asked).apply w := by
  rw [runUnit, Source.unitEffect]
  cases unitQuery p within d with
  | error fault => rfl
  | ok q =>
    have hfinished := exchange_finished src p.options d src.limit w.asked q
    dsimp only at hfinished ⊢
    rw [addPages_eq_exchange src.limit q (.start p.options d) w hd]
    dsimp only [Batch.start]
    rw [finish, Batch.complete_eq (by exact hd), ← hfinished]
    rfl

/-! ### Effects are local -/

theorem Exchange.changesOnly_accumulate (x : Exchange) (type : Json.Key) {t : Totals}
    (ht : t.Tidy) : Totals.ChangesOnly type t (x.accumulate type t) := by
  rw [Exchange.accumulate]
  induction x.pages generalizing t with
  | nil => exact .refl ht
  | cons page pages ih =>
    have hpage : Totals.ChangesOnly type t (t.accumulate page.1 type page.2) :=
      .accumulate ht page.1 page.2
    exact hpage.trans (ih hpage.tidy)

theorem Exchange.sameTracker_accumulate (x : Exchange) {type : Json.Key} {t u : Totals}
    (h : Totals.SameTracker type t u) :
    Totals.SameTracker type (x.accumulate type t) (x.accumulate type u) := by
  rw [Exchange.accumulate, Exchange.accumulate]
  induction x.pages generalizing t u with
  | nil => exact h
  | cons page pages ih => exact ih (h.accumulate page.1 page.2)

/-- An effect changes the totals of one type only, and what becomes of these and what is handed to
the sink depends on no other totals. -/
structure Effect.IsLocal (type : Json.Key) (e : Effect) : Prop where
  changesOnly : ∀ t : Totals, t.Tidy → Totals.ChangesOnly type t (e.totals t)
  totals : ∀ t u : Totals, t.Tidy → u.Tidy → Totals.SameTracker type t u →
    Totals.SameTracker type (e.totals t) (e.totals u)
  readings : ∀ t u : Totals, Totals.SameTracker type t u → e.readings t = e.readings u

theorem Exchange.effect_isLocal (x : Exchange) (options : Options) (d : Descriptor)
    (type : Json.Key) : (x.effect options d type).IsLocal type where
  changesOnly t ht := by
    have hadded := x.changesOnly_accumulate type ht
    exact hadded.trans (.concluded hadded.tidy options x.finished)
  totals t u ht hu h := (x.sameTracker_accumulate h).concluded
    (x.changesOnly_accumulate type ht).tidy (x.changesOnly_accumulate type hu).tidy _ _
  readings t u h := (x.sameTracker_accumulate h).handedOut _ _

theorem unitEffect_isLocal (src : Source) (p : Plan) (within : Window) (d : Descriptor)
    (type : Json.Key) (asked : History) : (src.unitEffect p within d type asked).IsLocal type := by
  rw [Source.unitEffect]
  split
  · exact ⟨fun _ ht => .refl ht, fun _ _ _ _ h => h, fun _ _ _ => rfl⟩
  · exact Exchange.effect_isLocal _ _ _ _

/-! ### Effects depend on the answers -/

/-- A query asks for time series of a type. -/
def AsksFor (type : Json) (q : Query) : Prop :=
  ∃ within aggregation, q.subject = .series type within aggregation

/-- From some queries on, two sources follow as many pages, answer whatever is asked for a type
alike and show the same time. -/
structure AnswersAlike (type : Json) (src : Source) (asked : History) (src' : Source)
    (asked' : History) : Prop where
  limit : src.limit = src'.limit
  series : ∀ mine q, (∀ r ∈ q :: mine, AsksFor type r) →
    src.series (mine ++ asked) q = src'.series (mine ++ asked') q
  clock : ∀ mine, (∀ r ∈ mine, AsksFor type r) →
    src.clock (mine ++ asked) = src'.clock (mine ++ asked')

/-- The query of a unit asks for its type. -/
theorem asks_of_unitQuery {p : Plan} {within : Window} {d : Descriptor} {q : Query}
    (h : unitQuery p within d = .ok q) : AsksFor d.type q := by
  obtain ⟨v, -, h⟩ := Except.bind_eq_ok_iff.mp h
  obtain ⟨filter, -, h⟩ := Except.bind_eq_ok_iff.mp h
  obtain ⟨aggregation, -, h⟩ := Except.bind_eq_ok_iff.mp h
  cases h
  exact ⟨v, aggregation, rfl⟩

theorem exchange_congr {src src' : Source} {type : Json} {asked asked' : History}
    (h : AnswersAlike type src asked src' asked') (options : Options) (d : Descriptor) (limit : Nat)
    (mine : List Query) (q : Query) (hmine : ∀ r ∈ q :: mine, AsksFor type r) :
    src.exchange options d limit (mine ++ asked) q
      = src'.exchange options d limit (mine ++ asked') q := by
  -- on the bound of the pages; the queries made so far are all for the type
  induction limit generalizing mine q with
  | zero =>
    rw [Source.exchange, Source.exchange,
      h.clock mine fun r hr => hmine r (List.mem_cons_of_mem q hr)]
  | succ limit ih =>
    have hnow : src.clock (q :: (mine ++ asked)) = src'.clock (q :: (mine ++ asked')) :=
      h.clock (q :: mine) hmine
    rw [Source.exchange, Source.exchange, h.series mine q hmine, hnow]
    cases src'.series (mine ++ asked') q with
    | error fault => rfl
    | ok page =>
      dsimp only
      cases page.series.findSome? (raised? options d) with
      | some fault => rfl
      | none =>
        cases following? page.nextToken with
        | none => rfl
        | some token =>
          have hnext : ∀ r ∈ q.forPage token :: q :: mine, AsksFor type r := by
            intro r hr
            rcases List.mem_cons.mp hr with rfl | hr
            · exact hmine q List.mem_cons_self
            · exact hmine r hr
          have hrest := ih (q :: mine) (q.forPage token) hnext
          rw [List.cons_append, List.cons_append] at hrest
          dsimp only
          rw [hrest]

/-- **Two sources that answer alike give a unit one effect.** -/
theorem unitEffect_congr {src src' : Source} {d : Descriptor} {asked asked' : History}
    (h : AnswersAlike d.type src asked src' asked') (p : Plan) (within : Window) (type : Json.Key) :
    src.unitEffect p within d type asked = src'.unitEffect p within d type asked' := by
  rw [Source.unitEffect, Source.unitEffect]
  cases hq : unitQuery p within d with
  | error fault => rfl
  | ok q =>
    have hasks : ∀ r ∈ [q], AsksFor d.type r := by
      intro r hr
      rw [List.mem_singleton.mp hr]
      exact asks_of_unitQuery hq
    have hexchange := exchange_congr h p.options d src'.limit [] q hasks
    rw [List.nil_append, List.nil_append] at hexchange
    dsimp only
    rw [h.limit, hexchange]

end MetricRelay.Scrape
