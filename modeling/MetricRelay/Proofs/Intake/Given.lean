/-
The reading that a series gives.

A series is skipped (`Skipped`), or it gives one reading of its newest point (`Gives`).  Both are
said without the order in which a series is looked at, and the reading is said by its parts: the
name of the family (`IsFamilyName`), the labels (`AreLabelsOf`) and the value that the point has for
the value type (`IsNumberOf`, `IsHistogramOf`).

* `readingOf?_eq_ok` — what is computed for a series;
* `Gives.unique`, `Gives.not_skipped` — there is one outcome.
-/
import MetricRelay.Proofs.Histogram.Decoded
import MetricRelay.Proofs.Intake.Merge
import MetricRelay.Proofs.Intake.Name
import MetricRelay.Proofs.Monitoring.Newest

namespace MetricRelay.Intake

open Monitoring Time

/-! ### What series give -/

/-- The kinds of series that give readings. -/
def IsKnownKind (kind : Json) : Prop :=
  kind = .text "GAUGE" ∨ kind = .text "DELTA" ∨ kind = .text "CUMULATIVE"

/-- The value types of series that give readings. -/
def IsKnownType (valueType : Json) : Prop :=
  valueType = .text "BOOL" ∨ valueType = .text "INT64" ∨ valueType = .text "DOUBLE" ∨
    valueType = .text "DISTRIBUTION"

/-- The series is a difference, and differences are added up. -/
def IsAddedUp (options : Options) (s : Series) : Prop :=
  s.kind = .text "DELTA" ∧ options.aggregateDeltas = true

/-- The filter of other projects is on, and the labels name another project. -/
def IsRejected (options : Options) (labels : Labels) : Prop :=
  options.dropDelegated = true ∧ ∃ v, Assoc.get? labels projectLabel = some v ∧ v ≠ .null ∧
    v ≠ .text options.projectId

/-- Why a series gives no reading. -/
inductive Skipped (options : Options) (d : Descriptor) (s : Series) : Prop where
  | old (h : HasNoNewest s.points)
  | rejected {labels : Labels} (hlabels : AreLabelsOf d s labels) (h : IsRejected options labels)
  | kind (h : ¬IsKnownKind s.kind)
  | valueType (h : ¬IsKnownType s.valueType)
  | empty {p : Point} {stop : Instant} (hp : IsNewest s.points p stop)
      (htype : s.valueType = .text "DISTRIBUTION") (h : p.value.distribution = none)
  | layout {p : Point} {stop : Instant} {dist : Distribution} (hp : IsNewest s.points p stop)
      (htype : s.valueType = .text "DISTRIBUTION") (hdist : p.value.distribution = some dist)
      (h : Histogram.IsUndeclared dist.options)

/-- The heading of a reading that a series gives. -/
structure IsHeadingOf (options : Options) (d : Descriptor) (s : Series) (stop : Instant)
    (h : Heading) : Prop where
  name : IsFamilyName options s h.name
  help : h.help = d.help
  kind : h.kind = .gauge ∨ h.kind = .counter
  counter : h.kind = .counter ↔ s.kind = .text "CUMULATIVE" ∨ IsAddedUp options s
  labels : AreLabelsOf d s h.labels
  time : h.time = stop

/-- The number that a point has for a value type.  What is missing is false or zero, and zero has no
sign. -/
inductive IsNumberOf (v : TypedValue) (valueType : Json) : Float → Prop where
  | yes (htype : valueType = .text "BOOL") (h : v.bool = some true) : IsNumberOf v valueType 1.0
  | no (htype : valueType = .text "BOOL") (h : v.bool ≠ some true) : IsNumberOf v valueType 0.0
  | whole {n : Int} {x : Float} (htype : valueType = .text "INT64")
      (h : v.int64 = some n ∨ v.int64 = none ∧ n = 0) (hx : Decimal.ofInt? n = some x) :
      IsNumberOf v valueType x
  | double {x : Float} (htype : valueType = .text "DOUBLE") (h : v.double = some x)
      (hx : (x == 0.0) = false) : IsNumberOf v valueType x
  | zero (htype : valueType = .text "DOUBLE") (h : ∀ x, v.double = some x → (x == 0.0) = true) :
      IsNumberOf v valueType 0.0

/-- The count, sum and buckets of a distribution. -/
structure IsHistogramOf (dist : Distribution) (r : HistogramReading) : Prop where
  count : r.count = dist.count
  sum : ∃ x, Decimal.ofInt? dist.count = some x ∧ r.sum = dist.mean * x
  buckets : ∃ finite, Histogram.IsLaidOut dist.options finite ∧
    Histogram.IsBucketsOf (Histogram.closed finite) dist.bucketCounts r.buckets

/-- The reading that a value makes under a heading. -/
inductive IsReadingOf (v : TypedValue) (valueType : Json) (h : Heading) : Reading → Prop where
  | scalar {r : Scalar} (heading : r.toHeading = h) (number : IsNumberOf v valueType r.value) :
      IsReadingOf v valueType h (.scalar r)
  | histogram {dist : Distribution} {r : HistogramReading} (heading : r.toHeading = h)
      (htype : valueType = .text "DISTRIBUTION") (hdist : v.distribution = some dist)
      (histogram : IsHistogramOf dist r) : IsReadingOf v valueType h (.histogram r)

/-- The series gives a reading, that of its newest point. -/
inductive Gives (options : Options) (d : Descriptor) (s : Series) (r : Reading) : Prop where
  | intro {p : Point} {stop : Instant} {h : Heading} (newest : IsNewest s.points p stop)
      (heading : IsHeadingOf options d s stop h) (own : ¬IsRejected options h.labels)
      (kind : IsKnownKind s.kind) (reading : IsReadingOf p.value s.valueType h r)

/-! ### There is one outcome -/

section

variable {options : Options} {d : Descriptor} {s : Series}

theorem isRejected_iff {labels : Labels} :
    IsRejected options labels ↔ isDelegated options labels = true := by
  rw [isDelegated, Bool.and_eq_true, Option.any_eq_true]
  simp only [IsRejected, isForeign_iff]
  rfl

theorem IsHeadingOf.unique {stop : Instant} {h h' : Heading} (hh : IsHeadingOf options d s stop h)
    (hh' : IsHeadingOf options d s stop h') : h = h' := by
  have hname : h.name = h'.name := hh.name.unique hh'.name
  have hlabels : h.labels = h'.labels := hh.labels.unique hh'.labels
  have hkind : h.kind = h'.kind := by
    -- of the two kinds that are left, the series decides
    have hiff := hh.counter.trans hh'.counter.symm
    rcases hh.kind with hk | hk
    · rcases hh'.kind with hk' | hk'
      · rw [hk, hk']
      · rw [hiff.mpr hk', hk']
    · rw [hk, hiff.mp hk]
  have hhelp : h.help = h'.help := hh.help.trans hh'.help.symm
  have htime : h.time = h'.time := hh.time.trans hh'.time.symm
  cases h
  cases h'
  simp only at hname hhelp hkind hlabels htime
  rw [hname, hhelp, hkind, hlabels, htime]

theorem floatOfInt_eq_ok_iff {n : Int} {x : Float} :
    floatOfInt n = .ok x ↔ Decimal.ofInt? n = some x := by
  unfold floatOfInt
  cases Decimal.ofInt? n with
  | none => simp
  | some y => simp

theorem isNumberOf_unsignedZero (v : TypedValue) :
    IsNumberOf v (.text "DOUBLE") (unsignedZero (v.double.getD 0.0)) := by
  rw [unsignedZero]
  cases hdouble : v.double with
  | none =>
    rw [Option.getD_none, ite_self]
    exact .zero rfl (by simp [hdouble])
  | some x =>
    rw [Option.getD_some]
    split
    · next hx =>
      refine .zero rfl fun y hy => ?_
      rwa [← Option.some.inj (hdouble.symm.trans hy)]
    · next hx => exact .double rfl hdouble (Bool.eq_false_iff.mpr hx)

theorem scalarValue?_eq_some_iff {v : TypedValue} {valueType : Json} {x : Float} :
    scalarValue? v valueType = .ok (some x) ↔ IsNumberOf v valueType x := by
  constructor
  · intro h
    unfold scalarValue? at h
    split at h
    · cases h
      cases hbool : v.bool with
      | none => exact .no rfl (by rw [hbool]; simp)
      | some b =>
        cases b with
        | true => exact .yes rfl hbool
        | false => exact .no rfl (by rw [hbool]; simp)
    · cases hint : floatOfInt (v.int64.getD 0) with
      | error fault =>
        rw [hint] at h
        cases h
      | ok y =>
        rw [hint] at h
        cases h
        refine .whole rfl ?_ (floatOfInt_eq_ok_iff.mp hint)
        cases hint64 : v.int64 with
        | none => exact Or.inr ⟨rfl, rfl⟩
        | some n => exact Or.inl rfl
    · cases h
      exact isNumberOf_unsignedZero v
    · cases h
  · rintro (⟨rfl, h⟩ | ⟨rfl, h⟩ | @⟨n, _, rfl, h, hx⟩ | ⟨rfl, h, hx⟩ | ⟨rfl, h⟩)
    · rw [scalarValue?, h]
      rfl
    · have hno : v.bool.getD false = false := by
        cases hbool : v.bool with
        | none => rfl
        | some b => exact Bool.eq_false_iff.mpr fun hb => h (hbool.trans (congrArg some hb))
      rw [scalarValue?, hno]
      rfl
    · have hn : v.int64.getD 0 = n := by
        rcases h with h | ⟨h, rfl⟩
        · rw [h, Option.getD_some]
        · rw [h, Option.getD_none]
      rw [scalarValue?, hn, floatOfInt_eq_ok_iff.mpr hx]
      rfl
    · rw [scalarValue?, h, Option.getD_some, unsignedZero, hx]
      rfl
    · have hzero : (v.double.getD 0.0 == 0.0) = true := by
        cases hdouble : v.double with
        | none => rfl
        | some x => exact h x hdouble
      rw [scalarValue?, unsignedZero, if_pos hzero]

theorem IsNumberOf.ne_distribution {v : TypedValue} {valueType : Json} {x : Float}
    (h : IsNumberOf v valueType x) : valueType ≠ .text "DISTRIBUTION" := by
  rcases h with ⟨rfl, -⟩ | ⟨rfl, -⟩ | ⟨rfl, -, -⟩ | ⟨rfl, -, -⟩ | ⟨rfl, -⟩ <;> simp

theorem IsNumberOf.isKnownType {v : TypedValue} {valueType : Json} {x : Float}
    (h : IsNumberOf v valueType x) : IsKnownType valueType := by
  rcases h with ⟨h, -⟩ | ⟨h, -⟩ | ⟨h, -, -⟩ | ⟨h, -, -⟩ | ⟨h, -⟩
  · exact Or.inl h
  · exact Or.inl h
  · exact Or.inr (Or.inl h)
  · exact Or.inr (Or.inr (Or.inl h))
  · exact Or.inr (Or.inr (Or.inl h))

/-- A scalar has a heading and a value. -/
theorem scalar_ext {r r' : Scalar} (hheading : r.toHeading = r'.toHeading)
    (hvalue : r.value = r'.value) :
    r = r' := by
  cases r
  cases r'
  simp only at hheading hvalue
  rw [hheading, hvalue]

theorem IsHistogramOf.unique {dist : Distribution} {r r' : HistogramReading}
    (h : IsHistogramOf dist r) (h' : IsHistogramOf dist r')
    (hheading : r.toHeading = r'.toHeading) : r = r' := by
  obtain ⟨x, hx, hsum⟩ := h.sum
  obtain ⟨y, hy, hsum'⟩ := h'.sum
  obtain rfl : x = y := Option.some.inj (hx.symm.trans hy)
  have hcount : r.count = r'.count := h.count.trans h'.count.symm
  obtain ⟨finite, hfinite, hbuckets⟩ := h.buckets
  obtain ⟨finite', hfinite', hbuckets'⟩ := h'.buckets
  obtain rfl := hfinite.unique hfinite'
  have hbuckets := hbuckets.unique hbuckets'
  cases r
  cases r'
  simp only at hheading hcount hbuckets hsum hsum'
  rw [hheading, hcount, hbuckets, hsum, hsum']

theorem IsReadingOf.unique {v : TypedValue} {valueType : Json} {heading : Heading} {r r' : Reading}
    (h : IsReadingOf v valueType heading r) (h' : IsReadingOf v valueType heading r') : r = r' := by
  cases h with
  | scalar hheading hnumber =>
    cases h' with
    | scalar hheading' hnumber' =>
      have hvalue :=
        (scalarValue?_eq_some_iff.mpr hnumber).symm.trans (scalarValue?_eq_some_iff.mpr hnumber')
      rw [scalar_ext (hheading.trans hheading'.symm) (Option.some.inj (Except.ok.inj hvalue))]
    | histogram _ htype => exact absurd htype hnumber.ne_distribution
  | histogram hheading htype hdist hhistogram =>
    cases h' with
    | scalar _ hnumber' => exact absurd htype hnumber'.ne_distribution
    | histogram hheading' _ hdist' hhistogram' =>
      obtain rfl := Option.some.inj (hdist.symm.trans hdist')
      rw [hhistogram.unique hhistogram' (hheading.trans hheading'.symm)]

theorem IsReadingOf.isKnownType {v : TypedValue} {valueType : Json} {heading : Heading}
    {r : Reading} (h : IsReadingOf v valueType heading r) : IsKnownType valueType := by
  cases h with
  | scalar _ hnumber => exact hnumber.isKnownType
  | histogram _ htype => exact Or.inr (Or.inr (Or.inr htype))

/-- The reading of a distribution needs one, in a layout that is known. -/
theorem IsReadingOf.exists_distribution {v : TypedValue} {valueType : Json} {heading : Heading}
    {r : Reading} (h : IsReadingOf v valueType heading r)
    (htype : valueType = .text "DISTRIBUTION") :
    ∃ dist, v.distribution = some dist ∧ ¬Histogram.IsUndeclared dist.options := by
  cases h with
  | scalar _ hnumber => exact absurd htype hnumber.ne_distribution
  | histogram _ _ hdist hhistogram =>
    refine ⟨_, hdist, fun hundeclared => ?_⟩
    obtain ⟨finite, hfinite, -⟩ := hhistogram.buckets
    exact hfinite.not_isUndeclared hundeclared

/-- A series gives one reading only. -/
theorem Gives.unique {r r' : Reading} (h : Gives options d s r) (h' : Gives options d s r') :
    r = r' := by
  obtain ⟨hnewest, hheading, -, -, hreading⟩ := h
  obtain ⟨hnewest', hheading', -, -, hreading'⟩ := h'
  obtain ⟨rfl, rfl⟩ := hnewest.unique hnewest'
  obtain rfl := hheading.unique hheading'
  exact hreading.unique hreading'

/-- A series that gives a reading is not skipped. -/
theorem Gives.not_skipped {r : Reading} (h : Gives options d s r) : ¬Skipped options d s := by
  obtain ⟨hnewest, hheading, hown, hkind, hreading⟩ := h
  intro hs
  cases hs with
  | old hold => exact hnewest.not_hasNoNewest hold
  | rejected hlabels hrejected =>
    obtain rfl := hlabels.unique hheading.labels
    exact hown hrejected
  | kind hunknown => exact hunknown hkind
  | valueType hunknown => exact hunknown hreading.isKnownType
  | empty hnewest' htype hnone =>
    obtain ⟨rfl, -⟩ := hnewest.unique hnewest'
    obtain ⟨dist, hdist, -⟩ := hreading.exists_distribution htype
    cases hdist.symm.trans hnone
  | layout hnewest' htype hdist' hundeclared =>
    obtain ⟨rfl, -⟩ := hnewest.unique hnewest'
    obtain ⟨dist, hdist, hdeclared⟩ := hreading.exists_distribution htype
    obtain rfl := Option.some.inj (hdist.symm.trans hdist')
    exact hdeclared hundeclared

end

/-! ### What is computed -/

section

variable {options : Options} {d : Descriptor} {s : Series}

theorem routing?_eq_none (h : routing? options s.kind = none) : ¬IsKnownKind s.kind := by
  rintro (hkind | hkind | hkind)
  · rw [hkind] at h
    cases h
  · rw [hkind, routing?] at h
    split at h
    · cases h
    · cases h
  · rw [hkind] at h
    cases h

/-- Which way a kind goes, and how its values develop. -/
theorem routing?_eq_some {kind : ValueKind} {route : Route}
    (h : routing? options s.kind = some (kind, route)) :
    IsKnownKind s.kind ∧ (kind = .gauge ∨ kind = .counter) ∧
      (kind = .counter ↔ s.kind = .text "CUMULATIVE" ∨ IsAddedUp options s) ∧
      (route = .accumulated ↔ IsAddedUp options s) := by
  unfold routing? at h
  simp only [IsKnownKind, IsAddedUp]
  split at h
  · next hkind =>
    cases h
    simp [hkind]
  · next hkind =>
    cases h
    simp [hkind]
  · next hkind =>
    split at h
    · next hadd =>
      cases h
      simp [hkind, hadd]
    · next hadd =>
      cases h
      simp [hkind, hadd]
  · cases h

/-- A value has a number, or it is no number. -/
theorem scalarValue?_eq_none {v : TypedValue} {valueType : Json}
    (h : scalarValue? v valueType = .ok none) (htype : valueType ≠ .text "DISTRIBUTION") :
    ¬IsKnownType valueType := by
  rintro (rfl | rfl | rfl | rfl)
  · cases h
  · rw [scalarValue?] at h
    cases hfloat : floatOfInt (v.int64.getD 0) with
    | error fault => rw [hfloat] at h; cases h
    | ok x => rw [hfloat] at h; cases h
  · cases h
  · exact htype rfl

theorem histogramReading?_eq_ok {room : Nat} {heading : Heading} {dist : Distribution}
    {r? : Option HistogramReading} (h : histogramReading? room heading dist = .ok r?) :
    (r? = none ∧ Histogram.IsUndeclared dist.options) ∨
      ∃ r, r? = some r ∧ r.toHeading = heading ∧ IsHistogramOf dist r := by
  unfold histogramReading? at h
  split at h
  · next hunknown =>
    cases h
    exact Or.inl ⟨rfl, Histogram.ofDistribution_eq_unknownBuckets_iff.mp hunknown⟩
  · cases h
  · next buckets hbuckets =>
    obtain ⟨x, hx, h⟩ := Except.bind_eq_ok_iff.mp h
    cases h
    exact Or.inr ⟨_, rfl, rfl, rfl, ⟨x, floatOfInt_eq_ok_iff.mp hx, rfl⟩,
      Histogram.isBucketsOf_of_ofDistribution hbuckets⟩

/-- The reading of a point, if it has one for the value type. -/
theorem reading?_eq_ok {room : Nat} {heading : Heading} {v : TypedValue} {valueType : Json}
    {r? : Option Reading} (h : reading? room heading v valueType = .ok r?) :
    (r? = none ∧ (¬IsKnownType valueType ∨ valueType = .text "DISTRIBUTION" ∧
      (v.distribution = none ∨
        ∃ dist, v.distribution = some dist ∧ Histogram.IsUndeclared dist.options))) ∨
    ∃ r, r? = some r ∧ IsReadingOf v valueType heading r := by
  unfold reading? at h
  split at h
  · split at h
    · next hnone =>
      cases h
      exact Or.inl ⟨rfl, Or.inr ⟨rfl, Or.inl hnone⟩⟩
    · next dist hdist =>
      obtain ⟨x?, hx, h⟩ := Except.bind_eq_ok_iff.mp h
      obtain rfl := Except.ok.inj h
      rcases histogramReading?_eq_ok hx with ⟨rfl, hundeclared⟩ | ⟨r, rfl, hheading, hr⟩
      · exact Or.inl ⟨rfl, Or.inr ⟨rfl, Or.inr ⟨dist, hdist, hundeclared⟩⟩⟩
      · exact Or.inr ⟨_, rfl, .histogram hheading rfl hdist hr⟩
  · next hne =>
    obtain ⟨x?, hx, h⟩ := Except.bind_eq_ok_iff.mp h
    obtain rfl := Except.ok.inj h
    cases x? with
    | none => exact Or.inl ⟨rfl, Or.inl (scalarValue?_eq_none hx hne)⟩
    | some x => exact Or.inr ⟨_, rfl, .scalar rfl (scalarValue?_eq_some_iff.mp hx)⟩

/-- What becomes of a series.  It is skipped, or it gives a reading and says where that goes. -/
theorem readingOf?_eq_ok {r? : Option (Reading × Route)} (h : readingOf? options d s = .ok r?) :
    (r? = none ∧ Skipped options d s) ∨
      ∃ r route, r? = some (r, route) ∧ Gives options d s r ∧ (route = .accumulated ↔
        IsAddedUp options s) := by
  -- in the order of the computation: the point, the labels, the kind and the value
  obtain ⟨⟨found, stop⟩, hnewest, h⟩ := Except.bind_eq_ok_iff.mp h
  cases found with
  | none =>
    obtain rfl := Except.ok.inj h
    exact Or.inl ⟨rfl, .old (newest_eq_none hnewest)⟩
  | some found =>
    obtain ⟨place, p⟩ := found
    have hp : IsNewest s.points p stop := ⟨place, newest_eq_some hnewest⟩
    obtain ⟨labels, hlabels, h⟩ := Except.bind_eq_ok_iff.mp h
    split at h
    · next hdelegated =>
      obtain rfl := Except.ok.inj h
      exact Or.inl ⟨rfl, .rejected (areLabelsOf_of_merged hlabels) (isRejected_iff.mpr hdelegated)⟩
    · next hdelegated =>
      have hown : ¬IsRejected options labels :=
        fun hrejected => hdelegated (isRejected_iff.mp hrejected)
      split at h
      · next hrouting =>
        obtain rfl := Except.ok.inj h
        exact Or.inl ⟨rfl, .kind (routing?_eq_none hrouting)⟩
      · next kind route hrouting =>
        obtain ⟨hkind, hword, hcounter, hroute⟩ := routing?_eq_some hrouting
        obtain ⟨name, hname, h⟩ := Except.bind_eq_ok_iff.mp h
        obtain ⟨x?, hx, h⟩ := Except.bind_eq_ok_iff.mp h
        obtain rfl := Except.ok.inj h
        have hheading : IsHeadingOf options d s stop ⟨name, d.help, kind, labels, stop⟩ :=
          ⟨isFamilyName_iff.mpr hname, rfl, hword, hcounter, areLabelsOf_of_merged hlabels, rfl⟩
        rcases reading?_eq_ok hx with ⟨rfl, htype | ⟨htype, hdist | ⟨dist, hdist, hundeclared⟩⟩⟩
          | ⟨r, rfl, hr⟩
        · exact Or.inl ⟨rfl, .valueType htype⟩
        · exact Or.inl ⟨rfl, .empty hp htype hdist⟩
        · exact Or.inl ⟨rfl, .layout hp htype hdist hundeclared⟩
        · exact Or.inr ⟨r, route, rfl, ⟨hp, hheading, hown, hkind, hr⟩, hroute⟩

end

end MetricRelay.Intake
