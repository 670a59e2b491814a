/-
What a unit asks its source for.

`Source.unitRequests` lists the requests of a unit with the answers to them.  A unit asks for one
page after the other with one query, of which nothing changes but the page token:

* `FollowsTokens` — the first request is a given query, and each later one asks for the page that
  the answer before it names;
* `runUnit_asked` — the requests of a unit are all that it adds to the queries of a scrape;
* `unitAsks` — they follow the tokens, up to a page without one or the first fault, within the
  window that is moved back by the delay that counts; a delay that cannot be read keeps the unit
  from asking.
-/
import MetricRelay.Proofs.Intake.Batch
import MetricRelay.Scrape.Unit

namespace MetricRelay.Scrape

open Monitoring Intake

/-! ### Values that stand for nothing -/

/-- A value that stands for nothing: null, false, zero, or an empty text, list or object.  Such a
token names no page, and such a delay does not count. -/
inductive IsNothing : Json → Prop
  | null : IsNothing .null
  | false : IsNothing (.bool false)
  | zero : IsNothing (.int 0)
  | realZero {x : Float} (h : (x == 0) = true) : IsNothing (.real x)
  | text : IsNothing (.text "")
  | list : IsNothing (.list [])
  | object : IsNothing (.object [])

theorem isVacant_iff {v : Json} : v.isVacant = true ↔ IsNothing v := by
  constructor
  · intro h
    cases v with
    | null => exact .null
    | bool b => cases b <;> first | exact .false | cases h
    | int n =>
      obtain rfl : n = 0 := by simpa [Json.isVacant] using h
      exact .zero
    | real x => exact .realZero h
    | text s =>
      obtain rfl : s = "" := by simpa [Json.isVacant] using h
      exact .text
    | list items => cases items <;> first | exact .list | cases h
    | object members => cases members <;> first | exact .object | cases h
  · intro h
    cases h with
    | realZero h => exact h
    | _ => rfl

theorem occupied_eq_none_iff {v : Json} : v.occupied = none ↔ IsNothing v := by
  rw [← isVacant_iff, Json.occupied]
  cases v.isVacant <;> simp

theorem occupied_eq_some_iff {v u : Json} : v.occupied = some u ↔ ¬IsNothing v ∧ u = v := by
  rw [← isVacant_iff, Json.occupied]
  cases v.isVacant <;> simp [eq_comm]

/-! ### Requests for one page after the other -/

section

variable {α : Type} {passes : α → Prop} {token : α → Json} {q : Query}
  {rs : List (Query × Except Fault α)}

/-- Requests for pages: the first one is a given query, and each later one is the request before it
with the token that the answer to that one names.  Only a page that passes and names a token is
followed by another one. -/
structure FollowsTokens (passes : α → Prop) (token : α → Json) (q : Query)
    (rs : List (Query × Except Fault α)) : Prop where
  first : ∀ r ∈ rs.head?, r.1 = q
  later : rs.IsChain fun r s => ∃ page, r.2 = .ok page ∧ passes page ∧ ¬IsNothing (token page) ∧
    s.1 = { r.1 with token := token page }

theorem followsTokens_nil : FollowsTokens passes token q [] where
  first r hr := by cases hr
  later := List.isChain_nil

theorem followsTokens_singleton (answer : Except Fault α) :
    FollowsTokens passes token q [(q, answer)] where
  first r hr := by
    cases hr
    rfl
  later := List.isChain_singleton _

theorem FollowsTokens.cons {page : α} (hpasses : passes page) (hnext : ¬IsNothing (token page))
    (h : FollowsTokens passes token (q.forPage (token page)) rs) :
    FollowsTokens passes token q ((q, .ok page) :: rs) where
  first r hr := by
    cases hr
    rfl
  later := by
    cases rs with
    | nil => exact List.isChain_singleton _
    | cons s rs =>
      have hlink := h.first s rfl
      exact List.isChain_cons_cons.mpr ⟨⟨page, rfl, hpasses, hnext, hlink⟩, h.later⟩

/-- Requests that follow the tokens differ in nothing but the tokens. -/
theorem FollowsTokens.eq_withToken (h : FollowsTokens passes token q rs) :
    ∀ r ∈ rs, r.1 = { q with token := r.1.token } := by
  obtain ⟨hfirst, hlater⟩ := h
  induction rs generalizing q with
  | nil => exact fun r hr => absurd hr List.not_mem_nil
  | cons r rs ih =>
    obtain rfl : r.1 = q := hfirst r rfl
    refine List.forall_mem_cons.mpr ⟨rfl, ?_⟩
    cases rs with
    | nil => exact fun s hs => absurd hs List.not_mem_nil
    | cons s rs =>
      obtain ⟨⟨page, -, -, -, hs⟩, hrest⟩ := List.isChain_cons_cons.mp hlater
      refine ih (q := { r.1 with token := token page }) (fun t ht => ?_) hrest
      cases ht
      exact hs

end

/-! ### The requests of a unit -/

/-- No series of a page raises a fault. -/
def Passes (options : Options) (d : Descriptor) (page : SeriesPage) : Prop :=
  ∀ s ∈ page.series, raised? options d s = none

/-- The token with which a unit goes on after a page.  There is none after the last page, and none
after a page with a series that raises a fault. -/
def continuation? (options : Options) (d : Descriptor) (page : SeriesPage) : Option Json :=
  match page.series.findSome? (raised? options d) with
  | some _ => none
  | none => following? page.nextToken

theorem findSome?_raised?_eq_none_iff {options : Options} {d : Descriptor} {page : SeriesPage} :
    page.series.findSome? (raised? options d) = none ↔ Passes options d page :=
  List.findSome?_eq_none_iff

theorem continuation?_eq_some_iff {options : Options} {d : Descriptor} {page : SeriesPage}
    {token : Json} : continuation? options d page = some token ↔
      Passes options d page ∧ ¬IsNothing page.nextToken ∧ token = page.nextToken := by
  rw [continuation?, ← findSome?_raised?_eq_none_iff, ← occupied_eq_some_iff, ← following?]
  cases page.series.findSome? (raised? options d) <;> simp

theorem continuation?_eq_none_iff {options : Options} {d : Descriptor} {page : SeriesPage} :
    continuation? options d page = none ↔
      ¬Passes options d page ∨ IsNothing page.nextToken := by
  rw [continuation?, ← findSome?_raised?_eq_none_iff, ← occupied_eq_none_iff, ← following?]
  cases page.series.findSome? (raised? options d) <;> simp

/-- The requests for the pages of a unit that starts with a query, with the answers, when some
queries have been made before; `limit` bounds the pages. -/
def Source.pageRequests (src : Source) (options : Options) (d : Descriptor) :
    Nat → History → Query → List (Query × Except Fault SeriesPage)
  | 0, _, _ => []
  | limit + 1, asked, q =>
    (q, src.series asked q) ::
      match src.series asked q with
      | .error _ => []
      | .ok page =>
        match continuation? options d page with
        | none => []
        | some token => src.pageRequests options d limit (q :: asked) (q.forPage token)

/-- The requests of a unit with the answers, when some queries have been made before. -/
def Source.unitRequests (src : Source) (p : Plan) (within : Window) (d : Descriptor)
    (asked : History) : List (Query × Except Fault SeriesPage) :=
  match unitQuery p within d with
  | .error _ => []
  | .ok q => src.pageRequests p.options d src.limit asked q

/-- A history with requests after it. -/
def History.after {α : Type} (asked : History) (rs : List (Query × Except Fault α)) : History :=
  (rs.map Prod.fst).reverse ++ asked

section

variable {src : Source} {p : Plan} {options : Options} {d : Descriptor}

theorem addPages_asked (limit : Nat) (q : Query) (b : Batch) (w : Work) :
    (addPages src limit q b w).2.2.asked
      = w.asked.after (src.pageRequests b.options b.descriptor limit w.asked q) := by
  -- on the bound of the pages, for every batch that the pages so far leave
  induction limit generalizing q b w with
  | zero => rfl
  | succ limit ih =>
    rw [addPages, Source.pageRequests]
    cases hpage : src.series w.asked q with
    | error fault => rfl
    | ok page =>
      have hfault := b.addPage_snd w.totals (src.clock (q :: w.asked)) page.series
      have hfits := b.addPage_fits w.totals (src.clock (q :: w.asked)) page.series
      obtain ⟨⟨⟨b', totals⟩, fault⟩, hadd⟩ :
        ∃ r, b.addPage w.totals (src.clock (q :: w.asked)) page.series = r := ⟨_, rfl⟩
      rw [hadd] at hfault hfits
      simp only [Work.ask, hadd, continuation?, ← hfault]
      cases fault with
      | some fault => rfl
      | none =>
        dsimp only
        cases following? page.nextToken with
        | none => rfl
        | some token =>
          dsimp only
          rw [ih, ← hfits.options, ← hfits.descriptor]
          simp [History.after]

theorem finish_asked (b : Batch) (w : Work) : (finish src b w).2.asked = w.asked := by
  rw [finish]
  split <;> rfl

/-- The requests of a unit are all that it adds to the queries of a scrape. -/
theorem runUnit_asked (within : Window) (d : Descriptor) (w : Work) :
    (runUnit src p within d w).2.asked = w.asked.after (src.unitRequests p within d w.asked) := by
  rw [runUnit, Source.unitRequests]
  cases unitQuery p within d with
  | error fault => rfl
  | ok q =>
    have hasked := @addPages_asked src src.limit q (.start p.options d) w
    dsimp only
    rw [finish_asked]
    exact hasked

/-- Every answer is the one that the source gives after the requests before. -/
theorem pageRequests_answers (limit : Nat) (asked : History) (q : Query) :
    ∀ before r after, src.pageRequests options d limit asked q = before ++ r :: after →
      r.2 = src.series (asked.after before) r.1 := by
  induction limit generalizing asked q with
  | zero =>
    intro before r after h
    simp [Source.pageRequests] at h
  | succ limit ih =>
    intro before r after h
    rw [Source.pageRequests] at h
    cases before with
    | nil =>
      obtain rfl := (List.cons.inj h).1
      rfl
    | cons s before =>
      obtain ⟨rfl, hrest⟩ := List.cons.inj h
      change _ = before ++ r :: after at hrest
      cases hpage : src.series asked q with
      | error fault =>
        rw [hpage] at hrest
        simp at hrest
      | ok page =>
        rw [hpage] at hrest
        dsimp only at hrest
        cases hnext : continuation? options d page with
        | none =>
          rw [hnext] at hrest
          simp at hrest
        | some token =>
          rw [hnext] at hrest
          rw [ih _ _ before r after hrest]
          simp [History.after]

theorem pageRequests_followsTokens (limit : Nat) (asked : History) (q : Query) :
    FollowsTokens (Passes options d) SeriesPage.nextToken q
      (src.pageRequests options d limit asked q) := by
  induction limit generalizing asked q with
  | zero => exact followsTokens_nil
  | succ limit ih =>
    rw [Source.pageRequests]
    cases src.series asked q with
    | error fault => exact followsTokens_singleton _
    | ok page =>
      dsimp only
      cases hnext : continuation? options d page with
      | none => exact followsTokens_singleton _
      | some token =>
        obtain ⟨hpasses, htoken, rfl⟩ := continuation?_eq_some_iff.mp hnext
        exact .cons hpasses htoken (ih _ _)

/-- Unless as many pages as are followed have been asked for, the last page does not come or has no
continuation. -/
theorem pageRequests_ends (limit : Nat) (asked : History) (q : Query)
    (h : (src.pageRequests options d limit asked q).length < limit) :
    ∃ r ∈ (src.pageRequests options d limit asked q).getLast?,
      ∀ page, r.2 = .ok page → ¬Passes options d page ∨ IsNothing page.nextToken := by
  induction limit generalizing asked q with
  | zero => exact absurd h (Nat.not_lt_zero _)
  | succ limit ih =>
    rw [Source.pageRequests] at h ⊢
    cases hpage : src.series asked q with
    | error fault => exact ⟨_, rfl, fun page h => by cases h⟩
    | ok page =>
      rw [hpage] at h
      dsimp only at h ⊢
      cases hnext : continuation? options d page with
      | none =>
        refine ⟨_, rfl, fun page' h => ?_⟩
        cases h
        exact continuation?_eq_none_iff.mp hnext
      | some token =>
        rw [hnext] at h
        obtain ⟨r, hr, hlast⟩ := ih (q :: asked) (q.forPage token) (Nat.lt_of_succ_lt_succ h)
        refine ⟨r, ?_, hlast⟩
        rw [Option.mem_def] at hr ⊢
        rw [List.getLast?_cons, hr]
        rfl

/-! ### The window of a unit -/

/-- The delay by which the window of a descriptor is moved back: none unless declared delays count
and the descriptor declares one, and otherwise the duration that it declares. -/
inductive IsDelay (c : Settings.Collection) (d : Descriptor) : Time.Span → Prop
  | off (h : c.ingestDelay = false) : IsDelay c d ⟨0⟩
  | undeclared (h : ∀ v, d.ingestDelay = some v → IsNothing v) : IsDelay c d ⟨0⟩
  | declared {text : String} {delay : Time.Span} (hon : c.ingestDelay = true)
      (h : d.ingestDelay = some (.text text)) (htext : text ≠ "")
      (hparse : Time.Duration.parse text = .ok delay) : IsDelay c d delay

/-- A declared delay that counts and is no duration is no delay. -/
theorem not_isDelay_of_parse {c : Settings.Collection} {d : Descriptor} {text : String}
    (hon : c.ingestDelay = true) (h : d.ingestDelay = some (.text text)) (htext : text ≠ "")
    (hparse : ∀ delay, Time.Duration.parse text ≠ .ok delay) (delay : Time.Span) :
    ¬IsDelay c d delay := by
  intro hdelay
  cases hdelay with
  | off hoff => exact absurd (hon.symm.trans hoff) (by decide)
  | undeclared hnone =>
    cases hnone _ h
    exact htext rfl
  | declared _ h' _ hparse' =>
    obtain rfl : text = _ := by simpa using h.symm.trans h'
    exact hparse _ hparse'

theorem isDelay_of_delay?_eq_none {c : Settings.Collection} {d : Descriptor}
    (h : delay? c d = none) : IsDelay c d ⟨0⟩ := by
  rw [delay?] at h
  split at h
  · refine .undeclared fun v hv => ?_
    rw [hv] at h
    exact occupied_eq_none_iff.mp h
  · next hoff => exact .off (Bool.eq_false_iff.mpr hoff)

theorem isDelay_of_delay?_eq_some {c : Settings.Collection} {d : Descriptor} {text : String}
    {delay : Time.Span} (h : delay? c d = some (.text text))
    (hparse : Time.Duration.parse text = .ok delay) : IsDelay c d delay := by
  rw [delay?] at h
  split at h
  · next hon =>
    obtain ⟨v, hv, hoccupied⟩ := Option.bind_eq_some_iff.mp h
    obtain ⟨hsome, rfl⟩ := occupied_eq_some_iff.mp hoccupied
    exact .declared hon hv (fun htext => hsome (htext ▸ .text)) hparse
  · cases h

theorem micros_of_sub? {t u : Time.Instant} {s : Time.Span} (h : existing (t.sub? s) = .ok u) :
    u.micros = t.micros - s.micros := by
  rw [Time.Instant.sub?, Time.Instant.ofMicros?] at h
  split at h
  · cases h
    rfl
  · cases h

/-- The window of a scrape ends the offset before now and is as long as the interval. -/
theorem micros_of_window {c : Settings.Collection} {now : Time.Instant} {within : Window}
    (h : window c now = .ok within) :
    within.stop.micros = now.micros - c.offset.micros ∧
      within.stop.micros - within.start.micros = c.interval.micros := by
  obtain ⟨stop, hstop, h⟩ := Except.bind_eq_ok_iff.mp h
  obtain ⟨start, hstart, h⟩ := Except.bind_eq_ok_iff.mp h
  cases h
  have hstop' := micros_of_sub? hstop
  have hstart' := micros_of_sub? hstart
  dsimp only
  omega

theorem micros_of_delayedWindow {c : Settings.Collection} {within within' : Window}
    (h : delayedWindow c d within = .ok within') :
    ∃ delay, IsDelay c d delay ∧ within'.start.micros = within.start.micros - delay.micros ∧
      within'.stop.micros = within.stop.micros - delay.micros := by
  rw [delayedWindow] at h
  cases hdelay : delay? c d with
  | none =>
    rw [hdelay] at h
    cases h
    exact ⟨⟨0⟩, isDelay_of_delay?_eq_none hdelay, by simp, by simp⟩
  | some v =>
    rw [hdelay] at h
    obtain ⟨text, htext, h⟩ := Except.bind_eq_ok_iff.mp h
    obtain ⟨delay, hparse, h⟩ := Except.bind_eq_ok_iff.mp h
    obtain ⟨start, hstart, h⟩ := Except.bind_eq_ok_iff.mp h
    obtain ⟨stop, hstop, h⟩ := Except.bind_eq_ok_iff.mp h
    cases h
    obtain rfl : v = .text text := by
      cases v <;> cases htext
      rfl
    refine ⟨delay, isDelay_of_delay?_eq_some hdelay ?_, micros_of_sub? hstart, micros_of_sub? hstop⟩
    cases hp : Time.Duration.parse text with
    | error fault =>
      rw [hp] at hparse
      cases hparse
    | ok span =>
      rw [hp] at hparse
      cases hparse
      rfl

/-! ### The protocol of a unit -/

/-- The requests of a unit, when some queries have been made before. -/
structure UnitAsks (src : Source) (p : Plan) (within : Window) (d : Descriptor) (asked : History) :
    Prop where
  /-- A delay that cannot be read keeps the unit from asking. -/
  unread : (∀ delay, ¬IsDelay p.collection d delay) → src.unitRequests p within d asked = []
  /-- In particular one that is no duration does. -/
  malformed : ∀ text, p.collection.ingestDelay = true → d.ingestDelay = some (.text text) →
    text ≠ "" → (∀ delay, Time.Duration.parse text ≠ .ok delay) →
    src.unitRequests p within d asked = []
  /-- So does whatever else keeps it from having a query. -/
  unasked : ∀ fault, unitQuery p within d = .error fault → src.unitRequests p within d asked = []
  /-- Else it asks with one query: for the first page with an empty token, and with the token of the
  page before from then on. -/
  follows : ∀ q, unitQuery p within d = .ok q →
    q.token = .text "" ∧
    (∀ r ∈ src.unitRequests p within d asked, r.1 = { q with token := r.1.token }) ∧
    FollowsTokens (Passes p.options d) SeriesPage.nextToken q (src.unitRequests p within d asked)
  /-- The query bears the filter and the aggregation for the type, and the window moved back. -/
  query : ∀ q, unitQuery p within d = .ok q →
    ∃ delay moved aggregation, q.project = p.collection.projectId ∧
      seriesFilter p.collection d.type = .ok q.filter ∧
      aggregationFor p.collection d.type = .ok aggregation ∧
      q.subject = .series d.type moved aggregation ∧ IsDelay p.collection d delay ∧
      moved.start.micros = within.start.micros - delay.micros ∧
      moved.stop.micros = within.stop.micros - delay.micros
  /-- It stops at the first page without a token, with a series that raises a fault, or that does
  not come. -/
  ends : ∀ q, unitQuery p within d = .ok q →
    (src.unitRequests p within d asked).length < src.limit →
    ∃ r ∈ (src.unitRequests p within d asked).getLast?,
      ∀ page, r.2 = .ok page → ¬Passes p.options d page ∨ IsNothing page.nextToken
  /-- The answers are those of the source. -/
  answers : ∀ before r after, src.unitRequests p within d asked = before ++ r :: after →
    r.2 = src.series (asked.after before) r.1

theorem query_of_unitQuery {within : Window} {q : Query} (h : unitQuery p within d = .ok q) :
    q.token = .text "" ∧ ∃ delay moved aggregation, q.project = p.collection.projectId ∧
      seriesFilter p.collection d.type = .ok q.filter ∧
      aggregationFor p.collection d.type = .ok aggregation ∧
      q.subject = .series d.type moved aggregation ∧ IsDelay p.collection d delay ∧
      moved.start.micros = within.start.micros - delay.micros ∧
      moved.stop.micros = within.stop.micros - delay.micros := by
  obtain ⟨moved, hmoved, h⟩ := Except.bind_eq_ok_iff.mp h
  obtain ⟨filter, hfilter, h⟩ := Except.bind_eq_ok_iff.mp h
  obtain ⟨aggregation, haggregation, h⟩ := Except.bind_eq_ok_iff.mp h
  cases h
  obtain ⟨delay, hdelay, hstart, hstop⟩ := micros_of_delayedWindow hmoved
  exact ⟨rfl, delay, moved, aggregation, rfl, hfilter, haggregation, rfl, hdelay, hstart, hstop⟩

theorem unitAsks (src : Source) (p : Plan) (within : Window) (d : Descriptor) (asked : History) :
    UnitAsks src p within d asked := by
  cases hquery : unitQuery p within d with
  | error fault =>
    have hnone : src.unitRequests p within d asked = [] := by
      rw [Source.unitRequests, hquery]
    refine ⟨fun _ => hnone, fun _ _ _ _ _ => hnone, fun _ _ => hnone, fun q h => ?_,
      fun q h => ?_, fun q h => ?_, ?_⟩
    · cases hquery.symm.trans h
    · cases hquery.symm.trans h
    · cases hquery.symm.trans h
    · intro before r after h
      rw [hnone] at h
      simp at h
  | ok q =>
    have hrequests : src.unitRequests p within d asked
        = src.pageRequests p.options d src.limit asked q := by
      rw [Source.unitRequests, hquery]
    obtain ⟨htoken, hbears⟩ := query_of_unitQuery hquery
    have hfollows := @pageRequests_followsTokens src p.options d src.limit asked q
    rw [← hrequests] at hfollows
    obtain ⟨delay, -, -, -, -, -, -, hdelay, -⟩ := id hbears
    refine ⟨fun hunread => ?_, fun text hon h htext hparse => ?_, fun fault h => ?_, fun q' h => ?_,
      fun q' h => ?_, fun q' h => ?_, ?_⟩
    · exact absurd hdelay (hunread delay)
    · exact absurd hdelay (not_isDelay_of_parse hon h htext hparse delay)
    · cases hquery.symm.trans h
    · cases hquery.symm.trans h
      exact ⟨htoken, hfollows.eq_withToken, hfollows⟩
    · cases hquery.symm.trans h
      exact hbears
    · cases hquery.symm.trans h
      rw [hrequests]
      exact pageRequests_ends src.limit asked q
    · rw [hrequests]
      exact pageRequests_answers src.limit asked q

end

end MetricRelay.Scrape
