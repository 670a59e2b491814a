/-
The form of timestamps.

Reading takes a text apart from the left, digits and marks in turn, and each step succeeds exactly
on texts of one form.  The fraction takes all digits that there are, which leaves the zone
untouched, since no zone starts with a digit.  So a text has a form exactly if it is the text of the
form, up to the letters T and Z in capitals or not and a line feed behind it (`read?_eq_some_iff`).
-/
import Mathlib.Data.List.Basic
import Mathlib.Data.List.TakeWhile
import MetricRelay.Proofs.Text.Digit
import MetricRelay.Time.Timestamp

namespace MetricRelay.Time.Timestamp

/-- Decimal digits, a given number of them. -/
structure AreDigits (n : Nat) (ds : List Char) : Prop where
  length : ds.length = n
  digits : ∀ c ∈ ds, Text.isDecimal c = true

theorem areDigits_nil : AreDigits 0 [] :=
  ⟨rfl, fun _ h => absurd h List.not_mem_nil⟩

theorem areDigits_cons {n : Nat} {c : Char} {cs : List Char} :
    AreDigits (n + 1) (c :: cs) ↔ Text.isDecimal c = true ∧ AreDigits n cs := by
  constructor
  · rintro ⟨hlength, hdigits⟩
    obtain ⟨hc, hcs⟩ := List.forall_mem_cons.mp hdigits
    exact ⟨hc, by simpa using hlength, hcs⟩
  · rintro ⟨hc, hlength, hdigits⟩
    exact ⟨by simpa using hlength, List.forall_mem_cons.mpr ⟨hc, hdigits⟩⟩

/-! ### Steps of reading -/

theorem takeDigits?_eq_some_iff {n : Nat} {cs ds rest : List Char} :
    takeDigits? n cs = some (ds, rest) ↔ AreDigits n ds ∧ cs = ds ++ rest := by
  induction n generalizing cs ds with
  | zero =>
    constructor
    · intro h
      obtain ⟨rfl, rfl⟩ := Prod.mk.inj (Option.some.inj h)
      exact ⟨areDigits_nil, rfl⟩
    · rintro ⟨hds, rfl⟩
      rw [List.length_eq_zero_iff.mp hds.length]
      rfl
  | succ n ih =>
    cases cs with
    | nil =>
      refine iff_of_false (by simp [takeDigits?]) ?_
      rintro ⟨hds, hnil⟩
      have hlength := hds.length
      simp [(List.append_eq_nil_iff.mp hnil.symm).1] at hlength
    | cons c cs =>
      rw [takeDigits?]
      constructor
      · intro h
        split at h
        · next hc =>
          obtain ⟨⟨front, back⟩, htake, hpair⟩ := Option.map_eq_some_iff.mp h
          obtain ⟨rfl, rfl⟩ := Prod.mk.inj hpair
          obtain ⟨hfront, rfl⟩ := ih.mp htake
          exact ⟨areDigits_cons.mpr ⟨hc, hfront⟩, rfl⟩
        · cases h
      · rintro ⟨hds, heq⟩
        cases ds with
        | nil => exact absurd hds.length (by simp)
        | cons d ds =>
          obtain ⟨hd, htail⟩ := areDigits_cons.mp hds
          obtain ⟨rfl, rfl⟩ : c = d ∧ cs = ds ++ rest := List.cons.inj heq
          rw [if_pos hd, ih.mpr ⟨htail, rfl⟩]
          rfl

theorem skipOne?_eq_some_iff {allowed cs rest : List Char} :
    skipOne? allowed cs = some rest ↔ ∃ c ∈ allowed, cs = c :: rest := by
  cases cs with
  | nil => simp [skipOne?]
  | cons c cs =>
    rw [skipOne?]
    split
    · next hc => simp [hc]
    · next hc =>
      refine iff_of_false (by simp) ?_
      rintro ⟨d, hd, heq⟩
      exact hc ((List.cons.inj heq).1 ▸ hd)

/-- A fraction with its point. -/
def fractionText : List Char → List Char
  | [] => []
  | d :: ds => '.' :: d :: ds

theorem skipOne?_singleton_eq_some_iff {c : Char} {cs rest : List Char} :
    skipOne? [c] cs = some rest ↔ cs = c :: rest := by
  simp [skipOne?_eq_some_iff]

theorem takeFraction?_eq_some {cs ds rest : List Char} (h : takeFraction? cs = some (ds, rest)) :
    (∀ c ∈ ds, Text.isDecimal c = true) ∧ cs = fractionText ds ++ rest := by
  unfold takeFraction? at h
  split at h
  · next cs =>
    split at h
    · cases h
    · next d digits htake =>
      obtain ⟨rfl, rfl⟩ := Prod.mk.inj (Option.some.inj h)
      refine ⟨fun c hc => List.mem_takeWhile_imp (htake ▸ hc), ?_⟩
      rw [fractionText, List.cons_append, ← htake, List.takeWhile_append_dropWhile]
  · obtain ⟨rfl, rfl⟩ := Prod.mk.inj (Option.some.inj h)
    exact ⟨fun c hc => absurd hc List.not_mem_nil, rfl⟩

/-- A fraction is read up to where it ends. -/
theorem takeFraction?_append {ds rest : List Char} (hds : ∀ c ∈ ds, Text.isDecimal c = true)
    (hrest : ∀ c, rest.head? = some c → c ≠ '.' ∧ Text.isDecimal c = false) :
    takeFraction? (fractionText ds ++ rest) = some (ds, rest) := by
  cases ds with
  | nil =>
    cases rest with
    | nil => rfl
    | cons c rest =>
      have hc := (hrest c rfl).1
      simp [fractionText, takeFraction?, hc]
  | cons d ds =>
    have hend : rest.takeWhile Text.isDecimal = [] ∧ rest.dropWhile Text.isDecimal = rest := by
      cases rest with
      | nil => exact ⟨rfl, rfl⟩
      | cons c rest => simp [(hrest c rfl).2]
    have htake : (d :: ds ++ rest).takeWhile Text.isDecimal = d :: ds := by
      rw [List.takeWhile_append_of_pos hds, hend.1, List.append_nil]
    have hdrop : (d :: ds ++ rest).dropWhile Text.isDecimal = rest := by
      rw [List.dropWhile_append_of_pos hds, hend.2]
    simp only [fractionText, List.cons_append, takeFraction?] at *
    rw [htake, hdrop]

namespace Zone

/-- The texts of a zone. -/
def texts : Zone → List (List Char)
  | universal => [['Z'], ['z']]
  | offset negative hours minutes => [(if negative then '-' else '+') :: hours ++ ':' :: minutes]

/-- The hours and minutes of a zone have two digits. -/
def AreDigits : Zone → Prop
  | universal => True
  | offset _ hours minutes => Timestamp.AreDigits 2 hours ∧ Timestamp.AreDigits 2 minutes

theorem head?_texts {zone : Zone} {text : List Char} (h : text ∈ zone.texts) (rest : List Char)
    {c : Char} (hc : (text ++ rest).head? = some c) : c ≠ '.' ∧ Text.isDecimal c = false := by
  cases zone with
  | universal =>
    rcases List.mem_pair.mp h with rfl | rfl
    · obtain rfl := Option.some.inj hc
      decide
    · obtain rfl := Option.some.inj hc
      decide
  | offset negative hours minutes =>
    obtain rfl := List.mem_singleton.mp h
    obtain rfl := Option.some.inj hc
    cases negative <;> decide

end Zone

theorem takeZone?_eq_some_iff {cs rest : List Char} {zone : Zone} :
    takeZone? cs = some (zone, rest) ↔ zone.AreDigits ∧ ∃ text ∈ zone.texts, cs = text ++ rest := by
  constructor
  · intro h
    cases cs with
    | nil => cases h
    | cons c cs =>
      rw [takeZone?] at h
      split at h
      · next hc =>
        obtain ⟨rfl, rfl⟩ := Prod.mk.inj (Option.some.inj h)
        exact ⟨trivial, [c], by simpa [Zone.texts] using hc, rfl⟩
      · split at h
        · next hc =>
          simp only [Option.bind_eq_bind, Option.bind_eq_some_iff, Prod.exists,
            takeDigits?_eq_some_iff, skipOne?_singleton_eq_some_iff, Option.some.injEq,
            Prod.mk.injEq] at h
          obtain ⟨hours, _, ⟨hhours, rfl⟩, _, rfl, minutes, _, ⟨hminutes, rfl⟩, rfl, rfl⟩ := h
          refine ⟨⟨hhours, hminutes⟩, _, List.mem_singleton.mpr rfl, ?_⟩
          rcases hc with rfl | rfl <;> simp
        · cases h
  · rintro ⟨hzone, text, htext, rfl⟩
    cases zone with
    | universal => rcases List.mem_pair.mp htext with rfl | rfl <;> rfl
    | offset negative hours minutes =>
      obtain rfl := List.mem_singleton.mp htext
      obtain ⟨hhours, hminutes⟩ := hzone
      have hsign : ∀ c, c = '+' ∨ c = '-' → takeZone? (c :: hours ++ ':' :: minutes ++ rest)
          = some (.offset (c = '-') hours minutes, rest) := by
        intro c hc
        have hletter : ¬(c = 'Z' ∨ c = 'z') := by rcases hc with rfl | rfl <;> decide
        rw [List.cons_append, List.cons_append, takeZone?, if_neg hletter, if_pos hc]
        simp only [Option.bind_eq_bind, Option.bind_eq_some_iff, Prod.exists,
          takeDigits?_eq_some_iff, skipOne?_singleton_eq_some_iff]
        exact ⟨hours, _, ⟨hhours, List.append_assoc _ _ _⟩, _, rfl, minutes, rest,
          ⟨hminutes, rfl⟩, rfl⟩
      cases negative with
      | false => exact hsign '+' (Or.inl rfl)
      | true => exact hsign '-' (Or.inr rfl)

/-! ### Whole texts -/

namespace Form

/-- All fields are digits and have their widths. -/
structure AreDigits (f : Form) : Prop where
  year : Timestamp.AreDigits 4 f.year
  month : Timestamp.AreDigits 2 f.month
  day : Timestamp.AreDigits 2 f.day
  hour : Timestamp.AreDigits 2 f.hour
  minute : Timestamp.AreDigits 2 f.minute
  second : Timestamp.AreDigits 2 f.second
  fraction : ∀ c ∈ f.fraction, Text.isDecimal c = true
  zone : f.zone.AreDigits

/-- The text of a form, with a mark between date and time and a text for the zone. -/
def text (f : Form) (mark : Char) (zone : List Char) : List Char :=
  f.year ++ '-' :: f.month ++ '-' :: f.day ++ mark :: f.hour ++ ':' :: f.minute ++ ':' :: f.second
    ++ fractionText f.fraction ++ zone

/-- A text has a form exactly if it is a text of the form, with a line feed behind it or none. -/
theorem read?_eq_some_iff {cs : List Char} {f : Form} :
    read? cs = some f ↔ f.AreDigits ∧ ∃ mark ∈ ['T', 't'], ∃ zone ∈ f.zone.texts,
      ∃ ending ∈ [[], ['\n']], cs = f.text mark zone ++ ending := by
  constructor
  · intro h
    simp only [read?, Option.bind_eq_bind, Option.bind_eq_some_iff, Prod.exists,
      takeDigits?_eq_some_iff, skipOne?_singleton_eq_some_iff, takeZone?_eq_some_iff] at h
    simp only [skipOne?_eq_some_iff] at h
    -- the text comes apart from the left, a field and a mark at a time
    obtain ⟨year, _, ⟨hyear, rfl⟩, _, rfl, month, _, ⟨hmonth, rfl⟩, _, rfl, day, _, ⟨hday, rfl⟩,
      _, ⟨mark, hmark, rfl⟩, hour, _, ⟨hhour, rfl⟩, _, rfl, minute, _, ⟨hminute, rfl⟩, _, rfl,
      second, _, ⟨hsecond, rfl⟩, fraction, _, hfraction, zone, ending,
      ⟨hzone, text, htext, rfl⟩, h⟩ := h
    obtain ⟨hdigits, rfl⟩ := takeFraction?_eq_some hfraction
    split at h
    · next hending =>
      obtain rfl := Option.some.inj h
      refine ⟨⟨hyear, hmonth, hday, hhour, hminute, hsecond, hdigits, hzone⟩, mark, hmark,
        text, htext, ending, by simpa using hending, ?_⟩
      simp [Form.text]
    · cases h
  · rintro ⟨hf, mark, hmark, zone, hzone, ending, hending, rfl⟩
    -- what follows the fraction is a zone, so the fraction ends where its digits do
    have hfraction : takeFraction? (fractionText f.fraction ++ (zone ++ ending))
        = some (f.fraction, zone ++ ending) :=
      takeFraction?_append hf.fraction fun c hc => Zone.head?_texts hzone ending hc
    have hending' : ending = [] ∨ ending = ['\n'] := by simpa using hending
    simp only [read?, Option.bind_eq_bind, Option.bind_eq_some_iff, Prod.exists,
      takeDigits?_eq_some_iff, skipOne?_singleton_eq_some_iff, takeZone?_eq_some_iff]
    simp only [skipOne?_eq_some_iff]
    refine ⟨f.year, _, ⟨hf.year, ?_⟩, _, rfl, f.month, _, ⟨hf.month, rfl⟩, _, rfl, f.day, _,
      ⟨hf.day, rfl⟩, _, ⟨mark, hmark, rfl⟩, f.hour, _, ⟨hf.hour, rfl⟩, _, rfl, f.minute, _,
      ⟨hf.minute, rfl⟩, _, rfl, f.second, _, ⟨hf.second, rfl⟩, f.fraction, _, hfraction,
      f.zone, ending, ⟨hf.zone, zone, hzone, rfl⟩, if_pos hending'⟩
    simp [Form.text]

end Form

end MetricRelay.Time.Timestamp
