/-
Where the readings of a page go.

A reading goes to one place: into the store of its form if its series is a difference and
differences are added up, else to the end of its family's list (`Placed`).  What a series does to a
batch and the totals is a relation (`Routed`), and what a page does is the relation for its series,
one after the other (`Translates`).

* `routed_of_addSeries`, `Routed.unique` — the step of one series;
* `addPage_translates` — a page that is taken in without a fault is translated series by series.
-/
import MetricRelay.Proofs.Assoc
import MetricRelay.Proofs.Intake.Given

namespace MetricRelay.Intake

open Monitoring

/-! ### Where readings go -/

/-- A map of lists gets an element at the end of a key's list, which is the last list if the key is
new. -/
inductive EndsUpIn {α : Type} (key : String) (a : α) :
    Assoc String (List α) → Assoc String (List α) → Prop where
  | more (before after : Assoc String (List α)) (as : List α) (h : key ∉ Assoc.keys before) :
      EndsUpIn key a (before ++ (key, as) :: after) (before ++ (key, as ++ [a]) :: after)
  | first (m : Assoc String (List α)) (h : key ∉ Assoc.keys m) :
      EndsUpIn key a m (m ++ [(key, [a])])

/-- Where a reading goes: to the end of its family's list, or into the store of its form. -/
inductive Placed (now : Float) (added : Prop) (b : Batch) (t : Totals) :
    Reading → Batch × Totals → Prop where
  | scalar {r : Scalar} {scalars : Assoc String (List Scalar)} (way : ¬added)
      (h : EndsUpIn r.name r b.scalars scalars) :
      Placed now added b t (.scalar r) ({ b with scalars }, t)
  | histogram {r : HistogramReading} {histograms : Assoc String (List HistogramReading)}
      (way : ¬added) (h : EndsUpIn r.name r b.histograms histograms) :
      Placed now added b t (.histogram r) ({ b with histograms }, t)
  | addedScalar {r : Scalar} {type : Json.Key} (way : added)
      (h : b.descriptor.type.asKey = .ok type) :
      Placed now added b t (.scalar r) (b, { t with counters := t.counters.increment now type r })
  | addedHistogram {r : HistogramReading} {type : Json.Key} (way : added)
      (h : b.descriptor.type.asKey = .ok type) :
      Placed now added b t (.histogram r) (b,
        { t with histograms := t.histograms.increment now type r })

/-- What a series does to a batch and the totals. -/
inductive Routed (now : Float) (s : Series) : Batch × Totals → Batch × Totals → Prop where
  | skipped {b : Batch} {t : Totals} (h : Skipped b.options b.descriptor s) :
      Routed now s (b, t) (b, t)
  | given {b : Batch} {t : Totals} {r : Reading} {x : Batch × Totals}
      (h : Gives b.options b.descriptor s r) (place : Placed now (IsAddedUp b.options s) b t r x) :
      Routed now s (b, t) x

/-- What series do to a batch and the totals, one after the other. -/
inductive Translates (now : Float) : List Series → Batch × Totals → Batch × Totals → Prop where
  | nil {x : Batch × Totals} : Translates now [] x x
  | cons {s : Series} {ss : List Series} {x y z : Batch × Totals} (head : Routed now s x y)
      (tail : Translates now ss y z) : Translates now (s :: ss) x z

/-! ### Ends of lists -/

section

variable {α : Type} {key : String} {a : α} {m n : Assoc String (List α)}

theorem endsUpIn_append (m : Assoc String (List α)) (key : String) (a : α) :
    EndsUpIn key a m (append m key a) := by
  cases hget : Assoc.get? m key with
  | none =>
    have hnot := Assoc.get?_eq_none_iff.mp hget
    rw [append, hget, Assoc.put_of_not_mem hnot]
    exact .first m hnot
  | some as =>
    obtain ⟨before, after, rfl, hnot⟩ := Assoc.exists_split hget
    rw [append, hget, Assoc.put_split hnot]
    exact .more before after as hnot

theorem EndsUpIn.eq (h : EndsUpIn key a m n) : n = append m key a := by
  cases h with
  | more before after as hnot =>
    rw [append, Assoc.get?_split hnot, Assoc.put_split hnot, Option.getD_some]
  | first _ hnot =>
    rw [append, Assoc.get?_eq_none_iff.mpr hnot, Assoc.put_of_not_mem hnot, Option.getD_none,
      List.nil_append]

end

/-! ### Series and pages -/

section

variable {b : Batch} {t : Totals} {now : Float} {s : Series}

/-- A reading has one place to go. -/
theorem Placed.unique {added : Prop} {r : Reading} {x y : Batch × Totals}
    (h : Placed now added b t r x) (h' : Placed now added b t r y) : x = y := by
  cases h with
  | scalar hway hend =>
    cases h' with
    | scalar _ hend' => rw [hend.eq, hend'.eq]
    | addedScalar hway' => exact absurd hway' hway
  | histogram hway hend =>
    cases h' with
    | histogram _ hend' => rw [hend.eq, hend'.eq]
    | addedHistogram hway' => exact absurd hway' hway
  | addedScalar hway htype =>
    cases h' with
    | scalar hway' => exact absurd hway hway'
    | addedScalar _ htype' => rw [Except.ok.inj (htype.symm.trans htype')]
  | addedHistogram hway htype =>
    cases h' with
    | histogram hway' => exact absurd hway hway'
    | addedHistogram _ htype' => rw [Except.ok.inj (htype.symm.trans htype')]

theorem placed_of_place {added : Prop} {r : Reading} {route : Route} {x : Batch × Totals}
    (hway : route = .accumulated ↔ added) (h : b.place t now (r, route) = .ok x) :
    Placed now added b t r x := by
  cases route with
  | collected =>
    have hcollected : ¬added := fun hadded => nomatch hway.mpr hadded
    cases r with
    | scalar r =>
      obtain rfl := Except.ok.inj h
      exact .scalar hcollected (endsUpIn_append ..)
    | histogram r =>
      obtain rfl := Except.ok.inj h
      exact .histogram hcollected (endsUpIn_append ..)
  | accumulated =>
    -- a total needs labels that can be sorted and a type that can be a key
    have hadded : added := hway.mp rfl
    cases r with
    | scalar r =>
      obtain ⟨_, -, h⟩ := Except.bind_eq_ok_iff.mp h
      obtain ⟨type, htype, h⟩ := Except.bind_eq_ok_iff.mp h
      obtain rfl := Except.ok.inj h
      exact .addedScalar hadded htype
    | histogram r =>
      obtain ⟨_, -, h⟩ := Except.bind_eq_ok_iff.mp h
      obtain ⟨type, htype, h⟩ := Except.bind_eq_ok_iff.mp h
      obtain rfl := Except.ok.inj h
      exact .addedHistogram hadded htype

/-- What is computed for a series is what becomes of it. -/
theorem routed_of_addSeries {x : Batch × Totals} (h : b.addSeries t now s = .ok x) :
    Routed now s (b, t) x := by
  obtain ⟨r?, hr, h⟩ := Except.bind_eq_ok_iff.mp h
  rcases readingOf?_eq_ok hr with ⟨rfl, hskipped⟩ | ⟨r, route, rfl, hgives, hway⟩
  · obtain rfl := Except.ok.inj h
    exact .skipped hskipped
  · exact .given hgives (placed_of_place hway h)

/-- One state and one series leave one state. -/
theorem Routed.unique {x y z : Batch × Totals} (h : Routed now s x y) (h' : Routed now s x z) :
    y = z := by
  cases h with
  | skipped hskipped =>
    cases h' with
    | skipped => rfl
    | given hgives => exact absurd hskipped hgives.not_skipped
  | given hgives hplace =>
    cases h' with
    | skipped hskipped => exact absurd hskipped hgives.not_skipped
    | given hgives' hplace' =>
      obtain rfl := hgives.unique hgives'
      exact hplace.unique hplace'

theorem Translates.unique {ss : List Series} {x y z : Batch × Totals} (h : Translates now ss x y)
    (h' : Translates now ss x z) : y = z := by
  induction h with
  | nil => cases h'; rfl
  | cons hhead _ ih =>
    cases h' with
    | cons hhead' htail' =>
      obtain rfl := hhead.unique hhead'
      exact ih htail'

theorem translates_of_addPage {ss : List Series} (h : (b.addPage t now ss).2 = none) :
    Translates now ss (b, t) (b.addPage t now ss).1 := by
  induction ss generalizing b t with
  | nil => exact .nil
  | cons s ss ih =>
    cases hs : b.addSeries t now s with
    | error fault =>
      rw [Batch.addPage_cons_of_error hs] at h
      cases h
    | ok x =>
      rw [Batch.addPage_cons_of_ok hs] at h ⊢
      exact .cons (routed_of_addSeries hs) (ih h)

/-- **Routing.**  A page that is taken in without a fault has the effect of its series one after the
other and no other effect: each is skipped, or gives the one reading of its newest point, which goes
to one place. -/
theorem addPage_translates {ss : List Series} (h : (b.addPage t now ss).2 = none)
    (x : Batch × Totals) :
    Translates now ss (b, t) x ↔ x = (b.addPage t now ss).1 := by
  have htranslates := translates_of_addPage h
  exact ⟨fun hx => hx.unique htranslates, fun hx => hx ▸ htranslates⟩

end

/-- A series of a kind and a value type with one point, of a queue in a zone. -/
def measured (kind valueType : String) (value : TypedValue) : Series :=
  { jobsOf [(.ofText "queue", .text "a")]
      [(.ofText "queue", .text "b"), (.ofText "zone", .text "eu")] with
    metricType := .text "queue/Jobs.done", kind := .text kind, valueType := .text valueType
    points := [⟨.null, .text "2024-05-01T00:00:00Z", value⟩] }

/-- Three observations, of which one is at most one. -/
def threeJobs : Distribution where
  count := 3
  mean := 1.5
  options := { explicit := some [1] }
  bucketCounts := [1, 2]

/-- Values of all types.  The text, the distribution that is missing, the series of no known kind
and that of another project are skipped. -/
def measuredPage : List Series :=
  [measured "GAUGE" "INT64" { int64 := some 7 }, measured "GAUGE" "BOOL" { bool := some true },
    measured "CUMULATIVE" "DOUBLE" { double := some 2.5 },
    measured "GAUGE" "DOUBLE" { double := some (-0.0) }, measured "GAUGE" "STRING" {},
    measured "GAUGE" "DISTRIBUTION" { distribution := some threeJobs },
    measured "GAUGE" "DISTRIBUTION" {}, measured "DELTA" "INT64" { int64 := some 3 },
    measured "OTHER" "INT64" { int64 := some 5 }, jobsOf [] [(projectLabel, .text "q")]]

/-- Differences are added up, and the other values are collected under the name of the family. -/
theorem addPage_translates_jobs :
    let t : Totals := ⟨.empty 30, .empty 30⟩
    let b := Batch.start ⟨"p", "relay", false, true, true, 0⟩ { type := .text "jobs" }
    let after := (b.addPage t 0 measuredPage).1
    (b.addPage t 0 measuredPage).2 = none ∧
    (∀ x, Translates 0 measuredPage (b, t) x ↔ x = after) ∧
    after.1.scalars.map (fun f => (f.1, f.2.map fun r => (r.value, r.kind)))
      = [("relay_host_queue_jobs_done",
          [(7, .gauge), (1, .gauge), (2.5, .counter), (0, .gauge)])] ∧
    (∀ f ∈ after.1.scalars, ∀ r ∈ f.2, r.time.micros = 1714521600000000 ∧
      r.labels.map (fun l => (l.1.written.formatted, l.2.formatted))
        = [("unit", ""), ("queue", "a"), ("zone", "eu")]) ∧
    after.1.histograms.map (fun f => (f.1, f.2.map fun r => (r.count, r.sum)))
      = [("relay_host_queue_jobs_done", [(3, 4.5)])] ∧
    after.1.histograms.map (fun f => f.2.map fun r => r.buckets)
      = [[[(1, 1), (Decimal.infinity, 3)]]] ∧
    (after.2.counters.list 0 (.text "jobs")).1.map (fun r => (r.name, r.value, r.time.micros))
      = [("relay_host_queue_jobs_done", 3, 1714521600000000)] ∧
    after.2.histograms.size = 0 := by
  intro t b after
  have h : (b.addPage t 0 measuredPage).2 = none := by
    rw [← Option.isNone_iff_eq_none]
    decide +kernel
  refine ⟨h, addPage_translates h, ?_, ?_, ?_, ?_, ?_, ?_⟩
  · decide +kernel
  · decide +kernel
  · decide +kernel
  · decide +kernel
  · decide +kernel
  · decide +kernel

end MetricRelay.Intake
