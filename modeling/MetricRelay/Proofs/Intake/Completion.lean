/-
What a completed batch hands out.

A batch that is completed hands out each reading that it has collected, and if differences are
aggregated each running total of its type that is not stale, in groups of one form and name.  If
labels are filled, the readings of a group get the label names of all of them (`fillsUp_filled`);
nothing else about a reading changes, and the totals in the stores do not change at all.

* `Batch.readings_eq` — the readings of a batch in groups;
* `complete_handsOut` — a completed batch, and the same batch completed once more.
-/
import MetricRelay.Proofs.Intake.Contribution
import MetricRelay.Proofs.Intake.Groups

namespace MetricRelay

/-- Labels with the same values, apart from those that are empty. -/
def Labels.Agree (l m : Labels) : Prop :=
  ∀ name v, v ≠ .text "" → (Assoc.get? l name = some v ↔ Assoc.get? m name = some v)

theorem Labels.Agree.symm {l m : Labels} (h : l.Agree m) : m.Agree l :=
  fun name v hv => (h name v hv).symm

/-- Labels agree under a name if a missing one counts as empty. -/
theorem Labels.Agree.getD_eq {l m : Labels} (h : l.Agree m) {name : LabelName} {v : Json}
    (hl : Assoc.get? l name = some v) : (Assoc.get? m name).getD (.text "") = v := by
  by_cases hv : v = .text ""
  · cases hm : Assoc.get? m name with
    | none => exact hv.symm
    | some w =>
      by_contra hne
      have hw : w ≠ .text "" := fun hw => hne (hw.trans hv.symm)
      exact hne (Option.some.inj (((h name w hw).mpr hm).symm.trans hl))
  · rw [(h name v hv).mp hl, Option.getD_some]

namespace Intake

open Monitoring

/-! ### Filled labels -/

/-- The reading under other labels. -/
def Reading.withLabels : Reading → Labels → Reading
  | .scalar r, labels => .scalar { r with labels }
  | .histogram r, labels => .histogram { r with labels }

@[simp] theorem Reading.labels_withLabels (r : Reading) (labels : Labels) :
    (r.withLabels labels).labels = labels := by
  cases r <;> rfl

/-- The label names of readings, each at its first place. -/
def namesOf (rs : List Reading) : List LabelName :=
  (rs.flatMap fun r => Assoc.keys r.labels).eraseDups

/-- What the readings of a group become when their labels are filled: each gets the label names of
all of them, keeps its own labels, and is empty under the other names; those that become equal are
those that agree. -/
structure FillsUp (group : List Reading) (give : Reading → Reading) : Prop where
  rest : ∀ r ∈ group, give r = r.withLabels (give r).labels
  names : ∀ r ∈ group, Assoc.keys (give r).labels = namesOf group
  kept : ∀ r ∈ group, ∀ name v, Assoc.get? r.labels name = some v →
    Assoc.get? (give r).labels name = some v
  added : ∀ r ∈ group, ∀ name v, Assoc.get? (give r).labels name = some v →
    Assoc.get? r.labels name = some v ∨ Assoc.get? r.labels name = none ∧ v = .text ""
  equal : ∀ r ∈ group, ∀ q ∈ group,
    (give r).labels = (give q).labels ↔ r.labels.Agree q.labels

/-- Names that are added one after the other, as far as they are new, are all names without
repetitions. -/
theorem foldl_addName (ks ns : List LabelName) :
    ks.foldl (fun names name => if names.contains name then names else names ++ [name]) ns.eraseDups
      = (ns ++ ks).eraseDups := by
  induction ks generalizing ns with
  | nil => rw [List.foldl_nil, List.append_nil]
  | cons k ks ih =>
    have hcontains : ns.eraseDups.contains k = ns.any fun n => n == k := by
      rw [← Assoc.any_eraseDups, List.contains_eq_any_beq]
      simp only [BEq.comm]
    have hstep : (if ns.eraseDups.contains k then ns.eraseDups else ns.eraseDups ++ [k])
        = (ns ++ [k]).eraseDups := by
      rw [Assoc.eraseDups_append, hcontains]
      cases hk : ns.any fun n => n == k <;> simp [hk, List.eraseDups_cons]
    rw [List.foldl_cons, hstep, ih, List.append_assoc, List.singleton_append]

theorem labelNames_eq (headings : List Heading) :
    labelNames headings = (headings.flatMap fun h => Assoc.keys h.labels).eraseDups := by
  rw [labelNames, ← List.foldl_flatMap]
  exact foldl_addName _ []

theorem get?_filled (names : List LabelName) (labels : Labels) (name : LabelName) :
    Assoc.get? (filled names labels) name =
      if names.any (fun n => n == name) then some ((Assoc.get? labels name).getD (.text ""))
      else none :=
  Assoc.get?_map_keys (fun n hn => by rw [Assoc.get?_congr labels hn]) names

theorem any_namesOf {rs : List Reading} {r : Reading} (hr : r ∈ rs) {name : LabelName} {v : Json}
    (h : Assoc.get? r.labels name = some v) : ((namesOf rs).any fun n => n == name) = true := by
  have hhas : Assoc.has r.labels name = true := by rw [Assoc.has, h]; rfl
  rw [Assoc.has_eq_any, List.any_eq_true] at hhas
  obtain ⟨n, hn, heq⟩ := hhas
  rw [namesOf, Assoc.any_eraseDups, List.any_eq_true]
  exact ⟨n, List.mem_flatMap.mpr ⟨r, hr, hn⟩, heq⟩

theorem get?_of_filled_eq {rs : List Reading} {r q : Reading} (hr : r ∈ rs)
    (heq : filled (namesOf rs) r.labels = filled (namesOf rs) q.labels) {name : LabelName}
    {v : Json} (hv : v ≠ .text "") (h : Assoc.get? r.labels name = some v) :
    Assoc.get? q.labels name = some v := by
  have hget := congrArg (Assoc.get? · name) heq
  simp only [get?_filled, if_pos (any_namesOf hr h), h, Option.getD_some] at hget
  cases hq : Assoc.get? q.labels name with
  | none =>
    rw [hq] at hget
    exact absurd (Option.some.inj hget) hv
  | some w =>
    rw [hq] at hget
    exact hget.symm

/-- Readings of a group are equal in their filled labels if they agree in their own. -/
theorem filled_eq_iff {rs : List Reading} {r q : Reading} (hr : r ∈ rs) (hq : q ∈ rs) :
    filled (namesOf rs) r.labels = filled (namesOf rs) q.labels ↔ r.labels.Agree q.labels := by
  constructor
  · exact fun heq name v hv => ⟨get?_of_filled_eq hr heq hv, get?_of_filled_eq hq heq.symm hv⟩
  · intro hagree
    refine List.map_congr_left fun name _ => congrArg (name, ·) ?_
    cases h : Assoc.get? r.labels name with
    | some v => exact (hagree.getD_eq h).symm
    | none =>
      cases h' : Assoc.get? q.labels name with
      | none => rfl
      | some w =>
        have hempty := hagree.symm.getD_eq h'
        rw [h] at hempty
        exact hempty

theorem fillsUp_filled (group : List Reading) :
    FillsUp group fun r => r.withLabels (filled (namesOf group) r.labels) where
  rest r _ := by rw [Reading.labels_withLabels]
  names r _ := by rw [Reading.labels_withLabels, keys_filled]
  kept r hr name v h := by
    rw [Reading.labels_withLabels, get?_filled, if_pos (any_namesOf hr h), h]
    rfl
  added r _ name v h := by
    rw [Reading.labels_withLabels, get?_filled] at h
    split at h
    · cases hown : Assoc.get? r.labels name with
      | none =>
        rw [hown] at h
        exact Or.inr ⟨rfl, (Option.some.inj h).symm⟩
      | some w =>
        rw [hown] at h
        exact Or.inl h
    · cases h
  equal r hr q hq := by
    rw [Reading.labels_withLabels, Reading.labels_withLabels]
    exact filled_eq_iff hr hq

/-! ### The readings of a batch -/

/-- What becomes of a reading of a group when labels are filled or not. -/
def given (fill : Bool) (group : List Reading) (r : Reading) : Reading :=
  if fill then r.withLabels (filled (namesOf group) r.labels) else r

/-- Readings that are handed out: each once, in groups of one form and name, with its labels filled
or as it is. -/
structure HandsOut (fill : Bool) (rs out : List Reading) : Prop where
  once : (arranged rs).flatten.Perm rs
  groups : ∃ give : List Reading → Reading → Reading,
    (∀ g ∈ arranged rs, if fill then FillsUp g (give g) else ∀ r ∈ g, give g r = r) ∧
    out = (arranged rs).flatMap fun g => g.map (give g)

theorem handsOut_given (fill : Bool) (rs : List Reading) :
    HandsOut fill rs ((arranged rs).flatMap fun g => g.map (given fill g)) := by
  refine ⟨flatten_arranged_perm rs, given fill, fun g _ => ?_, rfl⟩
  cases fill with
  | true => exact fillsUp_filled g
  | false => exact fun r _ => rfl

section Form

variable {α : Type} (form : α → Reading)

/-- Readings of one form, filled together. -/
theorem map_fill {heading : α → Heading} (fillOne : List LabelName → α → α)
    (hlabels : ∀ a, (form a).labels = (heading a).labels)
    (hfill : ∀ names a, form (fillOne names a) = (form a).withLabels (filled names (form a).labels))
    (fill : Bool) (as : List α) :
    (if fill then as.map (fillOne (labelNames (as.map heading))) else as).map form
      = (as.map form).map (given fill (as.map form)) := by
  cases fill with
  | false => simp [given, Function.comp_def]
  | true =>
    have hnames : labelNames (as.map heading) = namesOf (as.map form) := by
      rw [labelNames_eq, namesOf, List.flatMap_map, List.flatMap_map]
      simp only [hlabels]
    rw [if_pos rfl, hnames, List.map_map, List.map_map]
    exact List.map_congr_left fun a _ => hfill _ a

/-- Families of one form, as they are handed out. -/
theorem map_flatten_families (key : α → String) {fillAll : List α → List α} {fill : Bool}
    (h : ∀ as, (fillAll as).map form = (as.map form).map (given fill (as.map form))) (as : List α) :
    ((appendAll key [] as).map fun f => fillAll f.2).flatten.map form
      = ((groupsBy key as).map (List.map form)).flatMap fun g => g.map (given fill g) := by
  rw [← values_appendAll, List.map_flatten, List.map_map, List.flatMap_def, List.map_map,
    List.map_map]
  simp only [Function.comp_def, h]

end Form

namespace Batch

/-- The readings of a batch, in groups. -/
theorem readings_eq {b : Batch} {ss : List Scalar} {hs : List HistogramReading} {rs : List Reading}
    (hscalars : b.scalars = appendAll (fun r => r.name) [] ss)
    (hhistograms : b.histograms = appendAll (fun r => r.name) [] hs) (h : AreMadeOf rs ss hs) :
    b.readings
      = (arranged rs).flatMap fun g => g.map (given b.options.fillMissingLabels g) := by
  rw [readings, scalarFamilies, histogramFamilies, hscalars, hhistograms, h.arranged_eq,
    List.flatMap_append]
  congr 1
  · exact map_flatten_families .scalar _ (map_fill .scalar
      (fun names r => { r with labels := filled names r.labels }) (fun _ => rfl)
      (fun _ _ => rfl) _) ss
  · exact map_flatten_families .histogram _ (map_fill .histogram
      (fun names r => { r with labels := filled names r.labels }) (fun _ => rfl)
      (fun _ _ => rfl) _) hs

end Batch

/-! ### Pages and totals -/

/-- A page of series, and the totals and the time that it finds. -/
structure Page where
  totals : Totals
  now : Float
  series : List Series

/-- What pages contribute, each up to its first fault. -/
def contributed (options : Options) (d : Descriptor) (pages : List Page) : List (Reading × Route) :=
  pages.flatMap fun p => contributions options d (unfailing options d p.series)

/-- The readings that are collected. -/
def collected (xs : List (Reading × Route)) : List Reading :=
  (xs.filter fun x => x.2 = .collected).map Prod.fst

theorem areMadeOf_collected (xs : List (Reading × Route)) :
    AreMadeOf (collected xs) (scalarsBy .collected xs) (histogramsBy .collected xs) := by
  induction xs with
  | nil => exact ⟨rfl, rfl⟩
  | cons x xs ih =>
    have happend : collected (x :: xs) = collected [x] ++ collected xs := by
      rw [collected, ← List.singleton_append, List.filter_append, List.map_append]
      rfl
    rw [happend, ← List.singleton_append (l := xs), scalarsBy_append, histogramsBy_append]
    refine AreMadeOf.append ?_ ih
    obtain ⟨r | r, _ | _⟩ := x <;> exact ⟨rfl, rfl⟩

/-- The running totals of a type that are not stale. -/
def Totals.live (t : Totals) (options : Options) (now : Float) (type : Json.Key) : List Reading :=
  if options.aggregateDeltas then
    ((t.counters.tracker type).filter fun e => !t.counters.drops now e.2).map
        (fun e => .scalar e.2.total) ++
      ((t.histograms.tracker type).filter fun e => !t.histograms.drops now e.2).map
        (fun e => .histogram e.2.total)
  else []

namespace Batch

/-- The batch after pages have been taken in one after the other. -/
def afterPages (b : Batch) (pages : List Page) : Batch :=
  pages.foldl (fun b p => (b.addPage p.totals p.now p.series).1.1) b

theorem afterPages_eq {b : Batch} {type : Json.Key} (hd : b.descriptor.type.asKey = .ok type)
    (pages : List Page) :
    b.afterPages pages = b.collect (contributed b.options b.descriptor pages) := by
  induction pages generalizing b with
  | nil => rfl
  | cons p pages ih =>
    rw [contributed, List.flatMap_cons, collect_append]
    show afterPages (b.addPage p.totals p.now p.series).1.1 pages = _
    rw [addPage_eq hd, ih (by exact hd)]
    rfl

/-- What has been collected is handed out together with the totals that are not stale. -/
theorem handedOut_collect (options : Options) (d : Descriptor) (xs : List (Reading × Route))
    (t : Totals) (now : Float) (type : Json.Key) :
    ((start options d).collect xs).handedOut t now type
      = (arranged (collected xs ++ t.live options now type)).flatMap fun g =>
          g.map (given options.fillMissingLabels g) := by
  have hcollected := areMadeOf_collected xs
  rw [handedOut, Totals.live]
  show (if options.aggregateDeltas then _ else _) = _
  split
  · have hlive : AreMadeOf _ _ _ :=
      areMadeOf_map (t.counters.list now type).1 (t.histograms.list now type).1
    rw [Delta.Store.list_fst, Delta.Store.list_fst, Delta.Store.live_eq_filter,
      Delta.Store.live_eq_filter, List.map_map, List.map_map] at hlive
    refine readings_eq ?_ ?_ (hcollected.append hlive)
    · rw [Delta.Store.list_fst t.counters, Delta.Store.live_eq_filter]
      exact List.foldl_append.symm
    · rw [Delta.Store.list_fst t.histograms, Delta.Store.live_eq_filter]
      exact List.foldl_append.symm
  · rw [List.append_nil]
    exact readings_eq rfl rfl hcollected

end Batch

/-! ### Completion -/

/-- Totals after a batch of a type has been completed: if differences are aggregated, stale ones of
the type have gone. -/
def Totals.Swept (options : Options) (type : Json.Key) (now : Float) (t t' : Totals) : Prop :=
  if options.aggregateDeltas then
    t.counters.Swept type now t'.counters ∧ t.histograms.Swept type now t'.histograms
  else t' = t

theorem Totals.swept_concluded {t : Totals} (ht : t.Tidy) (options : Options) (type : Json.Key)
    (now : Float) : t.Swept options type now (t.concluded options now type) := by
  rw [Totals.Swept, Totals.concluded]
  split
  · exact ⟨Delta.Store.swept_list ht.counters now type,
      Delta.Store.swept_list ht.histograms now type⟩
  · rfl

/-- **A completed batch hands out everything once.**  After any pages and with any totals, a batch
hands out the readings that it has collected and, if differences are aggregated, the totals of its
type that are not stale, in groups of one form and name and with their labels filled as the options
say.  Of the totals it forgets the stale ones of its type and changes nothing else.  The batch is as
at its start then, so that completed again, whatever the totals are by that time, it hands out
nothing but the totals. -/
theorem complete_handsOut {options : Options} {d : Descriptor} {type : Json.Key}
    (hd : d.type.asKey = .ok type) (pages : List Page) {t : Totals} (ht : t.Tidy) (now : Float) :
    ∃ rs t', ((Batch.start options d).afterPages pages).complete t now
        = .ok (rs, .start options d, t') ∧
      HandsOut options.fillMissingLabels
        (collected (contributed options d pages) ++ t.live options now type) rs ∧
      t.Swept options type now t' ∧
      ∀ (u : Totals) (later : Float), ∃ rs' u',
        (Batch.start options d).complete u later = .ok (rs', .start options d, u') ∧
        HandsOut options.fillMissingLabels (u.live options later type) rs' := by
  have hcomplete : ∀ (xs : List (Reading × Route)) (u : Totals) (later : Float),
      ((Batch.start options d).collect xs).complete u later
        = .ok ((arranged (collected xs ++ u.live options later type)).flatMap fun g =>
            g.map (given options.fillMissingLabels g), .start options d,
          u.concluded options later type) := by
    intro xs u later
    rw [Batch.complete_eq (by exact hd), Batch.handedOut_collect]
    rfl
  refine ⟨_, _, ?_, handsOut_given _ _, Totals.swept_concluded ht options type now,
    fun u later => ⟨_, _, hcomplete [] u later, handsOut_given _ _⟩⟩
  rw [Batch.afterPages_eq hd]
  exact hcomplete _ t now

/-- A gauge with a label. -/
def queueSeries : Series :=
  { metricType := .text "jobs", resourceType := .text "host", kind := .text "GAUGE"
    valueType := .text "INT64", metricLabels := [(.ofText "queue", .text "a")]
    points := [⟨.null, .text "2024-05-01T00:00:00Z", { int64 := some 3 }⟩] }

/-- A running total of the same name with another label. -/
def workerTotal : Scalar :=
  { name := "relay_host_jobs", help := .null, kind := .counter
    labels := [(.ofText "worker", .text "b")], time := ⟨0⟩, value := 1 }

theorem complete_handsOut_jobs :
    let options : Options := ⟨"project", "relay", true, false, true, 0⟩
    let d : Descriptor := { type := .text "jobs" }
    let t : Totals := ⟨(Delta.Store.empty 30).increment 0 (.text "jobs") workerTotal, .empty 30⟩
    let pages : List Page := [⟨t, 5, [queueSeries]⟩]
    d.type.asKey = .ok (.text "jobs") ∧ t.Tidy ∧
    (collected (contributed options d pages)).map Reading.name = ["relay_host_jobs"] ∧
    ∃ rs t', ((Batch.start options d).afterPages pages).complete t 10
        = .ok (rs, .start options d, t') ∧
      HandsOut true
        (collected (contributed options d pages) ++ t.live options 10 (.text "jobs")) rs ∧
      t.Swept options (.text "jobs") 10 t' := by
  intro options d t pages
  have ht : t.Tidy :=
    ⟨(Delta.Store.tidy_empty 30).increment 0 _ _, Delta.Store.tidy_empty 30⟩
  obtain ⟨rs, t', hcomplete, hout, hswept, -⟩ := complete_handsOut (d := d) rfl pages ht 10
  exact ⟨rfl, ht, by decide, rs, t', hcomplete, hout, hswept⟩

end Intake

end MetricRelay
