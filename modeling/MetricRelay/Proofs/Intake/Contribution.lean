/-
What series contribute to a batch and to the running totals.

Which readings series give and where they go depends on nothing but the series (`contributions`).  A
page collects those that are collected in the batch and adds up those that are accumulated, and a
batch that is completed hands out what it has collected together with the totals of its type:

* `addPage_eq` — the effect of a page;
* `complete_eq` — the readings that a batch hands out, and the totals that it leaves;
* `ChangesOnly.accumulate`, `ChangesOnly.concluded` — the totals of other types stay;
* `SameTracker.accumulate`, `SameTracker.concluded`, `SameTracker.handedOut` — what happens to the
  totals of a type and what is handed out depends on the totals of this type only.
-/
import MetricRelay.Proofs.Delta.Frame
import MetricRelay.Proofs.Intake.Batch

namespace MetricRelay.Intake

open Monitoring

/-- The readings that series give and where they go; a series that raises a fault gives none. -/
def contributions (options : Options) (d : Descriptor) (ss : List Series) :
    List (Reading × Route) :=
  ss.filterMap fun s => (readingOf? options d s).toOption.join

/-- The scalars among readings that go one way. -/
def scalarsBy (route : Route) (xs : List (Reading × Route)) : List Scalar :=
  xs.filterMap fun
    | (.scalar r, way) => if way = route then some r else none
    | _ => none

/-- The histograms among readings that go one way. -/
def histogramsBy (route : Route) (xs : List (Reading × Route)) : List HistogramReading :=
  xs.filterMap fun
    | (.histogram r, way) => if way = route then some r else none
    | _ => none

/-- The batch with the readings that are collected. -/
def Batch.collect (b : Batch) (xs : List (Reading × Route)) : Batch :=
  { b with
    scalars := appendAll (fun r => r.name) b.scalars (scalarsBy .collected xs)
    histograms := appendAll (fun r => r.name) b.histograms (histogramsBy .collected xs) }

/-- The totals with the readings that are accumulated. -/
def Totals.accumulate (t : Totals) (now : Float) (type : Json.Key) (xs : List (Reading × Route)) :
    Totals where
  counters := t.counters.incrementAll now type (scalarsBy .accumulated xs)
  histograms := t.histograms.incrementAll now type (histogramsBy .accumulated xs)

/-- The totals after a batch has been completed, which forgets stale ones of its type. -/
def Totals.concluded (t : Totals) (options : Options) (now : Float) (type : Json.Key) : Totals :=
  if options.aggregateDeltas then
    { counters := (t.counters.list now type).2, histograms := (t.histograms.list now type).2 }
  else t

/-- What a batch hands out when it is completed. -/
def Batch.handedOut (b : Batch) (t : Totals) (now : Float) (type : Json.Key) : List Reading :=
  if b.options.aggregateDeltas then
    { b with
      scalars := appendAll (fun r => r.name) b.scalars (t.counters.list now type).1
      histograms := appendAll (fun r => r.name) b.histograms (t.histograms.list now type).1
      : Batch }.readings
  else b.readings

/-! ### Pages -/

theorem contributions_cons (options : Options) (d : Descriptor) (s : Series) (ss : List Series) :
    contributions options d (s :: ss) = contributions options d [s] ++ contributions options d ss :=
  List.filterMap_append (l := [s])

theorem scalarsBy_append (route : Route) (xs ys : List (Reading × Route)) :
    scalarsBy route (xs ++ ys) = scalarsBy route xs ++ scalarsBy route ys :=
  List.filterMap_append

theorem histogramsBy_append (route : Route) (xs ys : List (Reading × Route)) :
    histogramsBy route (xs ++ ys) = histogramsBy route xs ++ histogramsBy route ys :=
  List.filterMap_append

@[simp] theorem Batch.collect_nil (b : Batch) : b.collect [] = b := rfl

@[simp] theorem Totals.accumulate_nil (t : Totals) (now : Float) (type : Json.Key) :
    t.accumulate now type [] = t := rfl

theorem Batch.collect_append (b : Batch) (xs ys : List (Reading × Route)) :
    b.collect (xs ++ ys) = (b.collect xs).collect ys := by
  simp only [Batch.collect, scalarsBy_append, histogramsBy_append, appendAll, List.foldl_append]

theorem Totals.accumulate_append (t : Totals) (now : Float) (type : Json.Key)
    (xs ys : List (Reading × Route)) :
    t.accumulate now type (xs ++ ys) = (t.accumulate now type xs).accumulate now type ys := by
  simp only [Totals.accumulate, scalarsBy_append, histogramsBy_append, Delta.Store.incrementAll,
    List.foldl_append]

section

variable {b b' : Batch} {t t' : Totals} {now : Float} {type : Json.Key}

theorem Batch.place_eq (hd : b.descriptor.type.asKey = .ok type) {x : Reading × Route}
    (h : b.place t now x = .ok (b', t')) : b' = b.collect [x] ∧ t' = t.accumulate now type [x] := by
  obtain ⟨r | r, _ | _⟩ := x <;> simp only [Batch.place, Except.bind_eq_ok_iff] at h
  · obtain ⟨rfl, rfl⟩ := Prod.mk.inj (Except.ok.inj h)
    exact ⟨rfl, rfl⟩
  · obtain ⟨_, -, key, hkey, h⟩ := h
    obtain rfl : type = key := Except.ok.inj (hd.symm.trans hkey)
    obtain ⟨rfl, rfl⟩ := Prod.mk.inj (Except.ok.inj h)
    exact ⟨rfl, rfl⟩
  · obtain ⟨rfl, rfl⟩ := Prod.mk.inj (Except.ok.inj h)
    exact ⟨rfl, rfl⟩
  · obtain ⟨_, -, key, hkey, h⟩ := h
    obtain rfl : type = key := Except.ok.inj (hd.symm.trans hkey)
    obtain ⟨rfl, rfl⟩ := Prod.mk.inj (Except.ok.inj h)
    exact ⟨rfl, rfl⟩

theorem Batch.addSeries_eq (hd : b.descriptor.type.asKey = .ok type) {s : Series}
    (h : b.addSeries t now s = .ok (b', t')) :
    b' = b.collect (contributions b.options b.descriptor [s]) ∧
      t' = t.accumulate now type (contributions b.options b.descriptor [s]) := by
  obtain ⟨r?, hr, h⟩ := Except.bind_eq_ok_iff.mp h
  cases r? with
  | none =>
    have hnone : contributions b.options b.descriptor [s] = [] := by
      simp [contributions, hr, Except.toOption]
    obtain ⟨rfl, rfl⟩ := Prod.mk.inj (Except.ok.inj h)
    rw [hnone]
    exact ⟨rfl, rfl⟩
  | some x =>
    have hsome : contributions b.options b.descriptor [s] = [x] := by
      simp [contributions, hr, Except.toOption]
    rw [hsome]
    exact Batch.place_eq hd h

/-- A page has the effect of what its series before the first fault contribute. -/
theorem Batch.addPage_eq (hd : b.descriptor.type.asKey = .ok type) (ss : List Series) :
    b.addPage t now ss =
      let xs := contributions b.options b.descriptor (unfailing b.options b.descriptor ss)
      ((b.collect xs, t.accumulate now type xs),
        ss.findSome? (raised? b.options b.descriptor)) := by
  induction ss generalizing b t with
  | nil => rfl
  | cons s ss ih =>
    cases h : b.addSeries t now s with
    | error fault =>
      have hs := Batch.addSeries_eq_error_iff.mp h
      simp [Batch.addPage_cons_of_error h, unfailing, hs, contributions]
    | ok r =>
      obtain ⟨b', t'⟩ := r
      have hs := Batch.raised?_eq_none h
      have hunfailing : unfailing b.options b.descriptor (s :: ss)
          = s :: unfailing b.options b.descriptor ss := by
        rw [unfailing, List.takeWhile_cons_of_pos (by simp [hs]), unfailing]
      have hsplit := contributions_cons b.options b.descriptor s
        (unfailing b.options b.descriptor ss)
      obtain ⟨rfl, rfl⟩ := Batch.addSeries_eq hd h
      rw [Batch.addPage_cons_of_ok h, ih (by exact hd), hunfailing, List.findSome?_cons, hs]
      simp only [hsplit, Batch.collect_append, Totals.accumulate_append]
      rfl

/-- A completed batch hands out its readings and the totals of its type. -/
theorem Batch.complete_eq (hd : b.descriptor.type.asKey = .ok type) (t : Totals) (now : Float) :
    b.complete t now = .ok (b.handedOut t now type, .start b.options b.descriptor,
      t.concluded b.options now type) := by
  rw [Batch.complete, Batch.withTotals, Batch.handedOut, Totals.concluded]
  split
  · rw [hd]
    rfl
  · rfl

end

/-! ### The totals of other types -/

/-- Neither store has a type with two trackers or a key with two entries. -/
structure Totals.Tidy (t : Totals) : Prop where
  counters : t.counters.Tidy
  histograms : t.histograms.Tidy

/-- Tidy totals in which no type but one has other entries than before. -/
structure Totals.ChangesOnly (type : Json.Key) (t t' : Totals) : Prop where
  counters : Delta.Store.ChangesOnly type t.counters t'.counters
  histograms : Delta.Store.ChangesOnly type t.histograms t'.histograms

namespace Totals

section ChangesOnly

variable {type : Json.Key} {t t' t'' : Totals}

theorem ChangesOnly.tidy (h : ChangesOnly type t t') : t'.Tidy :=
  ⟨h.counters.tidy, h.histograms.tidy⟩

theorem ChangesOnly.refl (ht : t.Tidy) : ChangesOnly type t t :=
  ⟨.refl ht.counters, .refl ht.histograms⟩

theorem ChangesOnly.trans (h : ChangesOnly type t t') (h' : ChangesOnly type t' t'') :
    ChangesOnly type t t'' :=
  ⟨h.counters.trans h'.counters, h.histograms.trans h'.histograms⟩

theorem ChangesOnly.accumulate (ht : t.Tidy) (now : Float) (xs : List (Reading × Route)) :
    ChangesOnly type t (t.accumulate now type xs) :=
  ⟨.incrementAll ht.counters now _, .incrementAll ht.histograms now _⟩

theorem ChangesOnly.concluded (ht : t.Tidy) (options : Options) (now : Float) :
    ChangesOnly type t (t.concluded options now type) := by
  rw [Totals.concluded]
  split
  · exact ⟨.list ht.counters now, .list ht.histograms now⟩
  · exact .refl ht

end ChangesOnly

/-! ### The totals of one type -/

/-- Totals with the same times to live and the same entries of a type. -/
structure SameTracker (type : Json.Key) (t u : Totals) : Prop where
  counters : Delta.Store.SameTracker type t.counters u.counters
  histograms : Delta.Store.SameTracker type t.histograms u.histograms

section SameTracker

variable {type : Json.Key} {t u : Totals}

theorem SameTracker.symm (h : SameTracker type t u) : SameTracker type u t :=
  ⟨h.counters.symm, h.histograms.symm⟩

theorem SameTracker.trans {v : Totals} (h : SameTracker type t u) (h' : SameTracker type u v) :
    SameTracker type t v :=
  ⟨h.counters.trans h'.counters, h.histograms.trans h'.histograms⟩

theorem ChangesOnly.sameTracker {t' : Totals} {other : Json.Key} (h : ChangesOnly other t t')
    (hne : type ≠ other) : SameTracker type t' t :=
  ⟨h.counters.sameTracker hne, h.histograms.sameTracker hne⟩

theorem SameTracker.accumulate (h : SameTracker type t u) (now : Float)
    (xs : List (Reading × Route)) :
    SameTracker type (t.accumulate now type xs) (u.accumulate now type xs) :=
  ⟨h.counters.incrementAll now _, h.histograms.incrementAll now _⟩

theorem SameTracker.concluded (h : SameTracker type t u) (ht : t.Tidy) (hu : u.Tidy)
    (options : Options) (now : Float) :
    SameTracker type (t.concluded options now type) (u.concluded options now type) := by
  rw [Totals.concluded, Totals.concluded]
  split
  · exact ⟨h.counters.list ht.counters hu.counters now,
      h.histograms.list ht.histograms hu.histograms now⟩
  · exact h

theorem SameTracker.handedOut (h : SameTracker type t u) (b : Batch) (now : Float) :
    b.handedOut t now type = b.handedOut u now type := by
  rw [Batch.handedOut, Batch.handedOut, h.counters.totals, h.histograms.totals]

end SameTracker

end Totals

end MetricRelay.Intake
