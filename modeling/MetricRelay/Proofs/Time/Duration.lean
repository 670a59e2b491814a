/-
Durations and their parts.

A component is a decimal number with a unit behind it.  As no number goes on with a letter and no
unit with a digit or a point, the parts of a text can be taken off from the left without a choice:

* `takePart?_append`, `takePart?_eq_some` — a part that is taken off is the component that comes
  first;
* `Scans` — what taking off one part after the other leads to, and `scans_parts?`, that it ends;
* `spelled_injective` — a text has one decomposition at most;
* `isNaN_seconds` — the sum of the parts is a number, if an infinite one;
* `parse_grammar` — the texts that are durations, and what they last.
-/
import Mathlib.Data.List.TakeWhile
import MetricRelay.Proofs.Decimal.Numeral
import MetricRelay.Time.Duration

namespace MetricRelay.Time

open Float.Model Float.Model.UnpackedFloat

/-- A fault of what is written, or a length that is no number.  A length that is too long is
none. -/
def DurationFault.IsValueFault : DurationFault → Prop
  | .empty | .invalid _ | .span .notANumber => True
  | .span .infinite | .span (.tooLong _) => False

namespace Duration

/-- A decimal number: digits, with a point and further digits behind them or without, or a point and
digits. -/
inductive IsNumber : List Char → Prop
  | whole {ds : List Char} : ds ≠ [] → (∀ c ∈ ds, Text.isDecimal c = true) → IsNumber ds
  | pointed {ds fs : List Char} : ds ≠ [] → (∀ c ∈ ds, Text.isDecimal c = true) →
    (∀ c ∈ fs, Text.isDecimal c = true) → IsNumber (ds ++ '.' :: fs)
  | fraction {fs : List Char} : fs ≠ [] → (∀ c ∈ fs, Text.isDecimal c = true) → IsNumber ('.' :: fs)

/-- A unit of time. -/
inductive TimeUnit where
  | nano
  | micro
  /-- The microsecond with the micro sign. -/
  | microSign
  | milli
  | second
  | minute
  | hour

namespace TimeUnit

/-- How a unit is written. -/
def name : TimeUnit → List Char
  | nano => ['n', 's']
  | micro => ['u', 's']
  | microSign => ['µ', 's']
  | milli => ['m', 's']
  | second => ['s']
  | minute => ['m']
  | hour => ['h']

/-- The seconds of a unit. -/
def seconds : TimeUnit → Float
  | nano => 1e-9
  | micro => 1e-6
  | microSign => 1e-6
  | milli => 1e-3
  | second => 1.0
  | minute => 60.0
  | hour => 3600.0

end TimeUnit

/-- A number with its unit, as it is written. -/
structure Component where
  number : List Char
  unit : TimeUnit
  isNumber : IsNumber number

namespace Component

/-- The text of a component. -/
def chars (c : Component) : List Char :=
  c.number ++ c.unit.name

/-- What is read of a component. -/
def part (c : Component) : Part :=
  ⟨c.number, c.unit.seconds⟩

/-- The seconds that a component lasts, if its number can be read. -/
def seconds? (c : Component) : Option Float :=
  (Decimal.real? c.number).map (· * c.unit.seconds)

end Component

/-- The text of components. -/
def spelled (cs : List Component) : List Char :=
  cs.flatMap Component.chars

/-- A text that neither a digit nor a point starts. -/
def IsNumberEnd (cs : List Char) : Prop :=
  ∀ c, cs.head? = some c → c ≠ '.' ∧ Text.isDecimal c = false

/-- A text that nothing but a digit or a point starts. -/
def IsUnitEnd (cs : List Char) : Prop :=
  ∀ c, cs.head? = some c → c = '.' ∨ Text.isDecimal c = true

/-! ### Numbers -/

theorem isDecimal_point : Text.isDecimal '.' = false := by decide

section

theorem span_append {ds : List Char} (rest : List Char) (hds : ∀ c ∈ ds, Text.isDecimal c = true)
    (hrest : ∀ c, rest.head? = some c → Text.isDecimal c = false) :
    (ds ++ rest).takeWhile Text.isDecimal = ds ∧ (ds ++ rest).dropWhile Text.isDecimal = rest := by
  have htake : rest.takeWhile Text.isDecimal = [] := by
    cases rest with
    | nil => rfl
    | cons c rest => rw [List.takeWhile_cons_of_neg (by simp [hrest c rfl])]
  have hdrop : rest.dropWhile Text.isDecimal = rest := Text.dropWhile_eq_self_of_head? hrest
  rw [List.takeWhile_append_of_pos hds, List.dropWhile_append_of_pos hds, htake, hdrop,
    List.append_nil]
  exact ⟨rfl, rfl⟩

variable {rest : List Char}

theorem takeNumber?_append {n : List Char} (hn : IsNumber n) (hrest : IsNumberEnd rest) :
    takeNumber? (n ++ rest) = some (n, rest) := by
  have hend : ∀ c, rest.head? = some c → Text.isDecimal c = false := fun c hc => (hrest c hc).2
  cases hn with
  | whole hne hds =>
    obtain ⟨htake, hdrop⟩ := span_append rest hds hend
    obtain ⟨d, ds, rfl⟩ := List.exists_cons_of_ne_nil hne
    simp only [takeNumber?, htake, hdrop]
    cases rest with
    | nil => rfl
    | cons c rest =>
      have hc := (hrest c rfl).1
      simp [hc]
  | @pointed ds fs hne hds hfs =>
    obtain ⟨htake, hdrop⟩ := span_append ('.' :: (fs ++ rest)) hds fun c hc => by
      obtain rfl := Option.some.inj hc
      exact isDecimal_point
    obtain ⟨htake', hdrop'⟩ := span_append rest hfs hend
    obtain ⟨d, ds, rfl⟩ := List.exists_cons_of_ne_nil hne
    rw [List.append_assoc, List.cons_append (a := '.')]
    simp only [takeNumber?, htake, hdrop, htake', hdrop']
  | @fraction fs hne hfs =>
    obtain ⟨htake, hdrop⟩ := span_append rest hfs hend
    obtain ⟨d, fs, rfl⟩ := List.exists_cons_of_ne_nil hne
    rw [List.cons_append, takeNumber?, List.takeWhile_cons_of_neg (by simp [isDecimal_point]),
      List.dropWhile_cons_of_neg (by simp [isDecimal_point])]
    simp only [htake, hdrop]

theorem takeNumber?_eq_some {cs n : List Char} (h : takeNumber? cs = some (n, rest)) :
    IsNumber n ∧ cs = n ++ rest := by
  have hdigits : ∀ cs : List Char, ∀ c ∈ cs.takeWhile Text.isDecimal, Text.isDecimal c = true :=
    fun _ _ hc => List.mem_takeWhile_imp hc
  have hsplit : cs.takeWhile Text.isDecimal ++ cs.dropWhile Text.isDecimal = cs :=
    List.takeWhile_append_dropWhile
  simp only [takeNumber?] at h
  split at h
  · -- no digits, but a point
    next hwhole hrest =>
    split at h
    · cases h
    · next d ds hfraction =>
      obtain ⟨rfl, rfl⟩ := Prod.mk.inj (Option.some.inj h)
      rw [hwhole, hrest] at hsplit
      refine ⟨.fraction (List.cons_ne_nil d ds) (hfraction ▸ hdigits _), ?_⟩
      rw [← hsplit, List.cons_append, ← hfraction, List.takeWhile_append_dropWhile]
      rfl
  · cases h
  · -- digits and a point
    next back hrest hwhole =>
    obtain ⟨rfl, rfl⟩ := Prod.mk.inj (Option.some.inj h)
    refine ⟨.pointed hwhole (hdigits _) (hdigits _), ?_⟩
    rw [List.append_assoc, List.cons_append, List.takeWhile_append_dropWhile, ← hrest, hsplit]
  · -- digits alone
    next hwhole _ _ =>
    obtain ⟨rfl, rfl⟩ := Prod.mk.inj (Option.some.inj h)
    exact ⟨.whole hwhole (hdigits _), hsplit.symm⟩

end

/-! ### Units -/

theorem takeUnit?_append (u : TimeUnit) {rest : List Char} (hrest : IsUnitEnd rest) :
    takeUnit? (u.name ++ rest) = some (u.seconds, rest) := by
  -- a minute is not taken for a millisecond, since no s follows it
  have hs : rest.head? ≠ some 's' := fun h => by
    rcases hrest 's' h with hpoint | hdigit
    · exact absurd hpoint (by decide)
    · exact absurd hdigit (by decide)
  cases u with
  | minute =>
    cases rest with
    | nil => rfl
    | cons c rest =>
      have hc : 's' ≠ c := fun h => hs (h ▸ rfl)
      simp [takeUnit?, units, TimeUnit.name, TimeUnit.seconds, hc]
  | _ => rfl

theorem takeUnit?_eq_some {cs rest : List Char} {x : Float} (h : takeUnit? cs = some (x, rest)) :
    ∃ u : TimeUnit, u.seconds = x ∧ cs = u.name ++ rest := by
  obtain ⟨⟨name, seconds⟩, hmem, hfound⟩ := List.exists_of_findSome?_eq_some h
  have hunits : units = [TimeUnit.nano, .micro, .microSign, .milli, .second, .minute, .hour].map
      fun u => (u.name, u.seconds) := rfl
  split at hfound
  · next hprefix =>
    obtain ⟨rfl, rfl⟩ := Prod.mk.inj (Option.some.inj hfound)
    obtain ⟨u, -, hu⟩ := List.mem_map.mp (hunits ▸ hmem)
    obtain ⟨rfl, rfl⟩ := Prod.mk.inj hu
    obtain ⟨rest, rfl⟩ := List.isPrefixOf_iff_prefix.mp hprefix
    exact ⟨u, rfl, by rw [List.drop_left]⟩
  · cases hfound

/-! ### Parts -/

theorem IsNumber.exists_cons {n : List Char} (hn : IsNumber n) :
    ∃ c cs, n = c :: cs ∧ (c = '.' ∨ Text.isDecimal c = true) := by
  cases hn with
  | whole hne hds =>
    obtain ⟨c, cs, rfl⟩ := List.exists_cons_of_ne_nil hne
    exact ⟨c, cs, rfl, Or.inr (hds c List.mem_cons_self)⟩
  | pointed hne hds hfs =>
    obtain ⟨c, cs, rfl⟩ := List.exists_cons_of_ne_nil hne
    exact ⟨c, _, rfl, Or.inr (hds c List.mem_cons_self)⟩
  | fraction hne hfs => exact ⟨'.', _, rfl, Or.inl rfl⟩

theorem isNumberEnd_name_append (u : TimeUnit) (rest : List Char) :
    IsNumberEnd (u.name ++ rest) := by
  intro c hc
  cases u <;> obtain rfl := Option.some.inj hc <;> decide

theorem isUnitEnd_spelled (cs : List Component) : IsUnitEnd (spelled cs) := by
  cases cs with
  | nil => exact nofun
  | cons c cs =>
    obtain ⟨d, ds, hnumber, hd⟩ := c.isNumber.exists_cons
    have hchars : spelled (c :: cs) = d :: (ds ++ c.unit.name ++ spelled cs) := by
      rw [spelled, List.flatMap_cons, Component.chars, hnumber]
      rfl
    rw [hchars]
    intro e he
    exact Option.some.inj he ▸ hd

theorem chars_ne_nil (c : Component) : c.chars ≠ [] := by
  obtain ⟨d, ds, hnumber, -⟩ := c.isNumber.exists_cons
  rw [Component.chars, hnumber]
  exact List.cons_ne_nil _ _

theorem takePart?_append (c : Component) {rest : List Char} (hrest : IsUnitEnd rest) :
    takePart? (c.chars ++ rest) = some (c.part, rest) := by
  rw [takePart?, Component.chars, List.append_assoc,
    takeNumber?_append c.isNumber (isNumberEnd_name_append c.unit rest)]
  show (takeUnit? (c.unit.name ++ rest)).bind _ = _
  rw [takeUnit?_append c.unit hrest]
  rfl

theorem takePart?_eq_some {cs rest : List Char} {p : Part} (h : takePart? cs = some (p, rest)) :
    ∃ c : Component, c.part = p ∧ cs = c.chars ++ rest := by
  obtain ⟨⟨n, back⟩, hnumber, h⟩ := Option.bind_eq_some_iff.mp h
  obtain ⟨⟨x, back'⟩, hunit, h⟩ := Option.bind_eq_some_iff.mp h
  obtain ⟨rfl, rfl⟩ := Prod.mk.inj (Option.some.inj h)
  obtain ⟨hn, rfl⟩ := takeNumber?_eq_some hnumber
  obtain ⟨u, rfl, rfl⟩ := takeUnit?_eq_some hunit
  exact ⟨⟨n, u, hn⟩, rfl, (List.append_assoc ..).symm⟩

/-! ### The loop -/

/-- What taking off parts leads to: the parts, if the end of the text is reached, and nothing if no
part comes next.  Each part that is taken off leaves a shorter text. -/
inductive Scans : List Char → Option (List Part) → Prop
  | done : Scans [] (some [])
  | stuck {cs : List Char} : cs ≠ [] → takePart? cs = none → Scans cs none
  | next {cs rest : List Char} {p : Part} {r : Option (List Part)} :
    takePart? cs = some (p, rest) → rest.length < cs.length → Scans rest r →
      Scans cs (r.map (p :: ·))

theorem length_lt_of_takePart? {cs rest : List Char} {p : Part}
    (h : takePart? cs = some (p, rest)) :
    rest.length < cs.length := by
  obtain ⟨c, -, rfl⟩ := takePart?_eq_some h
  rw [List.length_append]
  exact Nat.lt_add_of_pos_left (List.length_pos_iff.mpr (chars_ne_nil c))

theorem scans_partsWithin? {fuel : Nat} {cs : List Char} (h : cs.length ≤ fuel) :
    Scans cs (partsWithin? fuel cs) := by
  induction fuel generalizing cs with
  | zero =>
    obtain rfl := List.length_eq_zero_iff.mp (Nat.le_zero.mp h)
    exact .done
  | succ fuel ih =>
    cases cs with
    | nil => exact .done
    | cons c cs =>
      rw [partsWithin?]
      cases htake : takePart? (c :: cs) with
      | none => exact .stuck (List.cons_ne_nil c cs) htake
      | some part =>
        obtain ⟨p, rest⟩ := part
        have hlt := length_lt_of_takePart? htake
        have hrest : Scans rest (partsWithin? fuel rest) := ih (by omega)
        have hnext := Scans.next htake hlt hrest
        cases hparts : partsWithin? fuel rest with
        | none =>
          rw [hparts] at hnext
          simpa [hparts] using hnext
        | some ps =>
          rw [hparts] at hnext
          simpa [hparts] using hnext

/-- Taking off parts comes to an end on every text. -/
theorem scans_parts? (cs : List Char) : Scans cs (parts? cs) :=
  scans_partsWithin? le_rfl

theorem spelled_cons (c : Component) (cs : List Component) :
    spelled (c :: cs) = c.chars ++ spelled cs :=
  List.flatMap_cons ..

theorem Scans.eq_of_spelled {text : List Char} {r : Option (List Part)} (h : Scans text r)
    {cs : List Component} (hcs : spelled cs = text) : r = some (cs.map Component.part) := by
  induction h generalizing cs with
  | done =>
    cases cs with
    | nil => rfl
    | cons c cs =>
      rw [spelled_cons, List.append_eq_nil_iff] at hcs
      exact absurd hcs.1 (chars_ne_nil c)
  | stuck hne hnone =>
    cases cs with
    | nil => exact absurd hcs.symm hne
    | cons c cs =>
      rw [← hcs, spelled_cons, takePart?_append c (isUnitEnd_spelled cs)] at hnone
      cases hnone
  | next htake hlt _ ih =>
    cases cs with
    | nil =>
      rw [← hcs] at hlt
      exact absurd hlt (Nat.not_lt_zero _)
    | cons c cs =>
      rw [← hcs, spelled_cons, takePart?_append c (isUnitEnd_spelled cs)] at htake
      obtain ⟨rfl, hrest⟩ := Prod.mk.inj (Option.some.inj htake)
      rw [ih hrest]
      rfl

theorem Scans.exists_spelled {text : List Char} {r : Option (List Part)} (h : Scans text r)
    {ps : List Part} (hps : r = some ps) :
    ∃ cs, spelled cs = text ∧ cs.map Component.part = ps := by
  induction h generalizing ps with
  | done => exact ⟨[], rfl, Option.some.inj hps⟩
  | stuck => cases hps
  | next htake _ _ ih =>
    obtain ⟨qs, hqs, rfl⟩ := Option.map_eq_some_iff.mp hps
    obtain ⟨cs, rfl, rfl⟩ := ih hqs
    obtain ⟨c, rfl, rfl⟩ := takePart?_eq_some htake
    exact ⟨c :: cs, spelled_cons c cs, rfl⟩

theorem parts?_spelled (cs : List Component) : parts? (spelled cs) = some (cs.map Component.part) :=
  (scans_parts? _).eq_of_spelled rfl

theorem TimeUnit.name_injective {u v : TimeUnit} (h : u.name = v.name) : u = v := by
  cases u <;> cases v <;> simp_all [name]

/-- A text has one decomposition at most. -/
theorem spelled_injective {cs ds : List Component} (h : spelled cs = spelled ds) : cs = ds := by
  induction cs generalizing ds with
  | nil =>
    cases ds with
    | nil => rfl
    | cons d ds =>
      rw [spelled_cons] at h
      exact absurd (List.append_eq_nil_iff.mp h.symm).1 (chars_ne_nil d)
  | cons c cs ih =>
    cases ds with
    | nil =>
      rw [spelled_cons] at h
      exact absurd (List.append_eq_nil_iff.mp h).1 (chars_ne_nil c)
    | cons d ds =>
      rw [spelled_cons, spelled_cons] at h
      -- the first part that is taken off is that of either component
      have htake := congrArg takePart? h
      rw [takePart?_append c (isUnitEnd_spelled cs),
        takePart?_append d (isUnitEnd_spelled ds)] at htake
      obtain ⟨hpart, hrest⟩ := Prod.mk.inj (Option.some.inj htake)
      have hnumber : c.number = d.number := congrArg Part.number hpart
      rw [hrest, Component.chars, Component.chars, hnumber] at h
      have hunit := TimeUnit.name_injective (List.append_cancel_left (List.append_cancel_right h))
      obtain ⟨n, u, hn⟩ := c
      obtain ⟨m, v, hm⟩ := d
      obtain rfl : n = m := hnumber
      obtain rfl : u = v := hunit
      rw [ih hrest]

/-! ### Lengths -/

theorem isPlain_of_isNumber {n : List Char} (hn : IsNumber n) : Decimal.IsPlain n := by
  cases hn with
  | whole _ hds => exact fun c hc => Or.inr (hds c hc)
  | pointed _ hds hfs =>
    exact List.forall_mem_append.mpr ⟨fun c hc => Or.inr (hds c hc),
      List.forall_mem_cons.mpr ⟨Or.inl rfl, fun c hc => Or.inr (hfs c hc)⟩⟩
  | fraction _ hfs => exact List.forall_mem_cons.mpr ⟨Or.inl rfl, fun c hc => Or.inr (hfs c hc)⟩

theorem exists_unsigned? {n : List Char} (hn : IsNumber n) : ∃ x, Decimal.unsigned? n = some x := by
  cases hn with
  | whole hne hds => exact Decimal.exists_unsigned?_digits hne hds
  | pointed hne hds hfs => exact Decimal.exists_unsigned?_point (Or.inl hne) hds hfs
  | @fraction fs hne hfs =>
    show ∃ x, Decimal.unsigned? ([] ++ '.' :: fs) = some x
    exact Decimal.exists_unsigned?_point (Or.inr hne) nofun hfs

theorem signedProper_seconds (u : TimeUnit) :
    Decimal.SignedProper .positive u.seconds.toModel.unpack := by
  cases u <;> decide

/-- The seconds of a component are those of its part, and not negative. -/
theorem seconds?_eq (c : Component) :
    c.seconds? = some c.part.seconds ∧ Decimal.IsPlus c.part.seconds := by
  obtain ⟨x, hx⟩ := exists_unsigned? c.isNumber
  have hseconds : c.part.seconds = x * c.unit.seconds := by
    rw [Part.seconds, Component.part, hx]
    rfl
  rw [Component.seconds?, (isPlain_of_isNumber c.isNumber).real?_eq, hx, hseconds]
  exact ⟨rfl, (Decimal.isPlus_of_unsigned? hx).mul (signedProper_seconds c.unit)⟩

theorem mapM_seconds? (cs : List Component) :
    cs.mapM Component.seconds? = some (cs.map fun c => c.part.seconds) := by
  induction cs with
  | nil => rfl
  | cons c cs ih =>
    rw [List.mapM_cons, (seconds?_eq c).1, ih]
    rfl

theorem isPlus_foldl {xs : List Float} (hxs : ∀ x ∈ xs, Decimal.IsPlus x) {sum : Float}
    (hsum : Decimal.IsPlus sum) : Decimal.IsPlus (xs.foldl (· + ·) sum) := by
  induction xs generalizing sum with
  | nil => exact hsum
  | cons x xs ih =>
    obtain ⟨hx, hxs⟩ := List.forall_mem_cons.mp hxs
    exact ih hxs (hsum.add hx)

theorem total_map_part (cs : List Component) :
    total (cs.map Component.part) = (cs.map fun c => c.part.seconds).foldl (· + ·) 0.0 := by
  rw [total, List.foldl_map, List.foldl_map]

/-- The sum of the parts is a number, whatever sign it gets. -/
theorem isNaN_seconds (cs : List Component) (negative : Bool) :
    ((if negative then -1.0 else 1.0 : Float) * total (cs.map Component.part)).isNaN = false := by
  have hplus : Decimal.IsPlus (total (cs.map Component.part)) := by
    rw [total_map_part]
    exact isPlus_foldl (List.forall_mem_map.mpr fun c _ => (seconds?_eq c).2) .zero
  cases negative with
  | true => exact Decimal.isNaN_mul (s := .negative) (by decide) hplus
  | false => exact Decimal.isNaN_mul (s := .positive) (by decide) hplus

/-! ### Durations -/

/-- A text with a sign or without one: whether it is negative, and what comes behind the sign. -/
inductive IsSigned : List Char → Bool → List Char → Prop
  | minus {text : List Char} : IsSigned ('-' :: text) true text
  | plus {text : List Char} : IsSigned ('+' :: text) false text
  | unsigned {text : List Char} (h : ∀ c, text.head? = some c → c ≠ '-' ∧ c ≠ '+') :
      IsSigned text false text

/-- What a text says between the white space at its ends and behind its sign. -/
def Says (s : String) (negative : Bool) (text : List Char) : Prop :=
  ∃ core, Text.IsCore Text.isBlank s.toList core ∧ IsSigned core negative text

/-- The factor of a sign. -/
def sign (negative : Bool) : Float :=
  if negative then -1.0 else 1.0

/-- A text that writes a length: `0`, or components. -/
def IsDuration (text : List Char) : Prop :=
  text = ['0'] ∨ ∃ cs, cs ≠ [] ∧ spelled cs = text

/-- A lone zero has no unit. -/
theorem spelled_ne_zero (cs : List Component) : spelled cs ≠ ['0'] := by
  intro h
  have hparts := parts?_spelled cs
  rw [h, show parts? ['0'] = none from rfl] at hparts
  cases hparts

section

variable {text : List Char}

theorem seconds?_of_zero (h : (Decimal.takeSign text).2 = ['0']) : seconds? text = some 0.0 := by
  simp only [seconds?, h, if_true]

theorem seconds?_of_spelled {cs : List Component} (hne : cs ≠ [])
    (h : spelled cs = (Decimal.takeSign text).2) :
    seconds? text = some (sign (Decimal.takeSign text).1 * total (cs.map Component.part)) := by
  obtain ⟨c, cs, rfl⟩ := List.exists_cons_of_ne_nil hne
  have hparts := parts?_spelled (c :: cs)
  have hzero := spelled_ne_zero (c :: cs)
  rw [h] at hparts hzero
  simp only [seconds?, if_neg hzero, hparts]
  rfl

theorem seconds?_of_not_isDuration (h : ¬IsDuration (Decimal.takeSign text).2) :
    seconds? text = none := by
  rw [IsDuration, not_or] at h
  simp only [seconds?, if_neg h.1]
  cases hparts : parts? (Decimal.takeSign text).2 with
  | none => rfl
  | some ps =>
    cases ps with
    | nil => rfl
    | cons p ps =>
      obtain ⟨cs, hspelled, hcs⟩ := (scans_parts? _).exists_spelled hparts
      refine absurd ⟨cs, ?_, hspelled⟩ h.2
      rintro rfl
      cases hcs

end

theorem isSigned_iff {cs text : List Char} {negative : Bool} :
    IsSigned cs negative text ↔ Decimal.takeSign cs = (negative, text) := by
  constructor
  · rintro (_ | _ | h)
    · rfl
    · rfl
    · rw [Decimal.takeSign.eq_def]
      split
      · exact absurd rfl (h '-' rfl).1
      · exact absurd rfl (h '+' rfl).2
      · rfl
  · intro h
    rw [Decimal.takeSign.eq_def] at h
    split at h
    · obtain ⟨rfl, rfl⟩ := Prod.mk.inj h
      exact .minus
    · obtain ⟨rfl, rfl⟩ := Prod.mk.inj h
      exact .plus
    · next hminus hplus =>
      obtain ⟨rfl, rfl⟩ := Prod.mk.inj h
      refine .unsigned fun c hc => ?_
      obtain ⟨rest, rfl⟩ := List.head?_eq_some_iff.mp hc
      exact ⟨fun heq => hminus rest (heq ▸ rfl), fun heq => hplus rest (heq ▸ rfl)⟩

theorem says_iff {s : String} {negative : Bool} {text : List Char} :
    Says s negative text ↔
      Decimal.takeSign (Text.strip Text.isBlank s.toList) = (negative, text) := by
  simp only [Says, Text.isCore_iff, isSigned_iff, exists_eq_left]

theorem ofSeconds?_zero : Span.ofSeconds? 0.0 = .ok ⟨0⟩ := by decide +kernel

theorem parse_of_seconds? {s : String} {x : Float}
    (h : seconds? (Text.strip Text.isBlank s.toList) = some x) :
    parse s = (Span.ofSeconds? x).mapError .span := by
  cases hstrip : Text.strip Text.isBlank s.toList with
  | nil =>
    rw [hstrip, show seconds? [] = none from rfl] at h
    cases h
  | cons c cs =>
    rw [hstrip] at h
    simp only [parse, hstrip, List.isEmpty_cons, Bool.false_eq_true, if_false, h]

theorem isValueFault_of_seconds? {s : String}
    (h : seconds? (Text.strip Text.isBlank s.toList) = none) :
    ∃ fault, parse s = .error fault ∧ fault.IsValueFault := by
  simp only [parse, h]
  split
  · exact ⟨.empty, rfl, trivial⟩
  · exact ⟨.invalid s, rfl, trivial⟩

/-- A length that is a number is refused for its size only. -/
theorem not_isValueFault_of_isNaN {x : Float} (hx : x.isNaN = false) {fault : DurationFault}
    (h : (Span.ofSeconds? x).mapError .span = .error fault) : ¬fault.IsValueFault := by
  cases hspan : Span.ofSeconds? x with
  | ok span =>
    rw [hspan] at h
    cases h
  | error cause =>
    rw [hspan] at h
    obtain rfl := Except.error.inj h
    rw [Span.ofSeconds?] at hspan
    split at hspan
    · rw [hx] at hspan
      obtain rfl := Except.error.inj hspan
      exact id
    · simp only [Span.ofMicros?] at hspan
      split at hspan
      · cases hspan
      · obtain rfl := Except.error.inj hspan
        exact id

/-- A text says one thing between the white space at its ends and behind its sign.  It is refused
exactly if that is neither a lone zero nor components.  The loop ends on every text, and takes off
at least a character each time; where there are components it finds them, there are no others, and
the length is the sign times their sum from left to right. -/
theorem parse_grammar (s : String) : ∃ negative text,
    (∀ n t, Says s n t ↔ n = negative ∧ t = text) ∧
    ((∃ fault, parse s = .error fault ∧ fault.IsValueFault) ↔ ¬IsDuration text) ∧
    Scans text (parts? text) ∧
    (text = ['0'] → parse s = .ok ⟨0⟩ ∧ ∀ cs, spelled cs ≠ text) ∧
    ∀ cs : List Component, cs ≠ [] → spelled cs = text →
      (∀ ds, spelled ds = text → ds = cs) ∧
      parts? text = some (cs.map Component.part) ∧
      ∃ xs, cs.mapM Component.seconds? = some xs ∧
        parse s = (Span.ofSeconds? (sign negative * xs.foldl (· + ·) 0.0)).mapError .span := by
  rcases hsigned : Decimal.takeSign (Text.strip Text.isBlank s.toList) with ⟨negative, text⟩
  have hzero : text = ['0'] → parse s = .ok ⟨0⟩ := fun h => by
    rw [parse_of_seconds? (seconds?_of_zero (by rw [hsigned, h])), ofSeconds?_zero]
    rfl
  have hparse : ∀ cs : List Component, cs ≠ [] → spelled cs = text →
      parse s
        = (Span.ofSeconds? (sign negative * total (cs.map Component.part))).mapError .span := by
    intro cs hne h
    rw [parse_of_seconds? (seconds?_of_spelled hne (by rw [hsigned, h])), hsigned]
  have hsays : ∀ n t, Says s n t ↔ n = negative ∧ t = text := by
    intro n t
    rw [says_iff, hsigned, Prod.mk.injEq, eq_comm, eq_comm (a := text)]
  refine ⟨negative, text, hsays, ⟨?_, fun h => ?_⟩, scans_parts? _, ?_, ?_⟩
  · rintro ⟨fault, hfault, hvalue⟩ (h | ⟨cs, hne, h⟩)
    · rw [hzero h] at hfault
      cases hfault
    · rw [hparse cs hne h] at hfault
      exact not_isValueFault_of_isNaN (isNaN_seconds cs negative) hfault hvalue
  · exact isValueFault_of_seconds? (seconds?_of_not_isDuration (by rwa [hsigned]))
  · exact fun h => ⟨hzero h, fun cs hcs => spelled_ne_zero cs (hcs.trans h)⟩
  · intro cs hne h
    refine ⟨fun ds hds => spelled_injective (hds.trans h.symm), h ▸ parts?_spelled cs, _,
      mapM_seconds? cs, ?_⟩
    rw [hparse cs hne h, total_map_part]

-- a minute and then milliseconds, not a minute, a minute and a second
example : parse " -1.m500ms " = .ok ⟨-60500000⟩ := by decide +kernel

end Duration

end MetricRelay.Time
