/-
Plain decimals.

A text of nothing but digits and points has nothing that a reader of decimals would skip or take for
a name, so `real?` reads it as it stands, digits and points only:

* `IsPlain.real?_eq` — what plain decimals are read as;
* `exists_unsigned?_digits`, `exists_unsigned?_point` — digits with a point among or around them, or
  without, write a number;
* `isPlus_of_unsigned?` — numbers without a sign are not negative.
-/
import MetricRelay.Decimal.Numeral
import MetricRelay.Proofs.Decimal.Signed
import MetricRelay.Proofs.Text.Digit
import MetricRelay.Proofs.Text.Ends

namespace MetricRelay

namespace Text

theorem Ranges.exists_of_contains {r : Ranges} {n : Nat} (h : r.contains n = true) :
    ∃ i ∈ r, i.1 ≤ n ∧ n ≤ i.2 := by
  induction r with
  | nil => cases h
  | cons i r ih =>
    simp only [Ranges.contains, Bool.and_eq_true, Bool.or_eq_true, decide_eq_true_eq] at h
    obtain ⟨hlow, hhigh | hlater⟩ := h
    · exact ⟨i, List.mem_cons_self, hlow, hhigh⟩
    · obtain ⟨j, hj, hbounds⟩ := ih hlater
      exact ⟨j, List.mem_cons_of_mem i hj, hbounds⟩

/-- A digit is no white space. -/
theorem isWhiteSpace_of_isDecimal {c : Char} (h : isDecimal c = true) : isWhiteSpace c = false := by
  obtain ⟨z, hz, hlow, hhigh⟩ := (isDecimal_iff c).mp h
  rw [Bool.eq_false_iff]
  intro hblank
  obtain ⟨i, hi, hstart, hstop⟩ := Ranges.exists_of_contains hblank
  have hapart : ∀ i ∈ whiteSpaceRanges, ∀ z ∈ digitZeros, i.2 < z ∨ z + 10 ≤ i.1 := by decide
  have := hapart i hi z hz
  omega

/-- A digit is no letter, so it has no lower case. -/
theorem toLower_of_isDecimal {c : Char} (h : isDecimal c = true) : c.toLower = c := by
  rw [Char.toLower]
  split
  · next hupper =>
    have hlow : 65 ≤ c.toNat := hupper.1
    have hhigh : c.toNat ≤ 90 := hupper.2
    have hdigit := (isDigit_iff_toNat c).mp ((isDecimal_iff_isDigit (by omega)).mp h)
    omega
  · rfl

end Text

namespace Decimal

/-- A text of digits and points. -/
def IsPlain (cs : List Char) : Prop :=
  ∀ c ∈ cs, c = '.' ∨ Text.isDecimal c = true

section

variable {cs : List Char}

/-- What is neither a point nor a digit does not occur. -/
theorem IsPlain.ne (hcs : IsPlain cs) {c d : Char} (hc : c ∈ cs) (hpoint : d ≠ '.')
    (hdigit : Text.isDecimal d = false) : c ≠ d := by
  rintro rfl
  rcases hcs c hc with h | h
  · exact hpoint h
  · exact Bool.false_ne_true (hdigit.symm.trans h)

theorem IsPlain.strip_eq (hcs : IsPlain cs) : Text.strip Text.isWhiteSpace cs = cs := by
  refine Text.strip_eq_self fun c hc => ?_
  rcases hcs c hc with rfl | h
  · decide
  · exact Text.isWhiteSpace_of_isDecimal h

theorem joinDigits?_eq_some (hcs : ∀ c ∈ cs, c ≠ '_') (digitBefore : Bool) :
    joinDigits? digitBefore cs = some cs := by
  induction cs generalizing digitBefore with
  | nil => rfl
  | cons c cs ih =>
    rw [joinDigits?, if_neg (hcs c List.mem_cons_self),
      ih fun d hd => hcs d (List.mem_cons_of_mem c hd)]
    rfl

theorem IsPlain.takeSign_eq (hcs : IsPlain cs) : takeSign cs = (false, cs) := by
  rw [takeSign.eq_def]
  split
  · exact absurd rfl (hcs.ne List.mem_cons_self (by decide) (by decide))
  · exact absurd rfl (hcs.ne List.mem_cons_self (by decide) (by decide))
  · rfl

/-- The names of infinity and NaN have an n. -/
theorem IsPlain.named?_eq (hcs : IsPlain cs) : named? cs = none := by
  have hletter : 'n' ∉ cs.map Char.toLower := by
    intro h
    obtain ⟨c, hc, hlower⟩ := List.mem_map.mp h
    rcases hcs c hc with rfl | hdigit
    · exact absurd hlower (by decide)
    · rw [Text.toLower_of_isDecimal hdigit] at hlower
      exact hcs.ne hc (by decide) (by decide) hlower
  have hname : ∀ name : String, 'n' ∈ name.toList → String.ofList (cs.map Char.toLower) ≠ name := by
    rintro name hn rfl
    exact hletter (by simpa using hn)
  rw [named?]
  simp only [hname "inf" (by decide), hname "infinity" (by decide),
    hname "nan" (by decide), or_self, if_false]

/-- Plain decimals are read digit by digit. -/
theorem IsPlain.real?_eq (hcs : IsPlain cs) : real? cs = unsigned? cs := by
  have hjoin := joinDigits?_eq_some (fun c hc => hcs.ne (d := '_') hc (by decide) (by decide)) false
  rw [real?, hcs.strip_eq, hjoin]
  simp only [Option.bind_eq_bind, Option.bind_some, hcs.takeSign_eq, hcs.named?_eq]
  cases unsigned? cs <;> rfl

end

theorem spanDigits_append {ds : List Char} (rest : List Char)
    (hds : ∀ c ∈ ds, Text.isDecimal c = true)
    (hrest : ∀ c, rest.head? = some c → Text.isDecimal c = false) :
    ∃ vs, spanDigits (ds ++ rest) = (vs, rest) ∧ vs.isEmpty = ds.isEmpty := by
  induction ds with
  | nil =>
    refine ⟨[], ?_, rfl⟩
    cases rest with
    | nil => rfl
    | cons c rest =>
      have hc : Text.digitValue? c = none := by
        simpa [Text.isDecimal] using hrest c rfl
      simp [spanDigits, hc]
  | cons d ds ih =>
    obtain ⟨vs, hspan, -⟩ := ih fun c hc => hds c (List.mem_cons_of_mem d hc)
    obtain ⟨v, hv⟩ := Option.isSome_iff_exists.mp (hds d List.mem_cons_self)
    refine ⟨v :: vs, ?_, rfl⟩
    simp [spanDigits, hv, hspan]

theorem exists_unsigned?_digits {ds : List Char} (hne : ds ≠ [])
    (hds : ∀ c ∈ ds, Text.isDecimal c = true) : ∃ x, unsigned? ds = some x := by
  obtain ⟨vs, hspan, hempty⟩ := spanDigits_append [] hds nofun
  rw [List.append_nil] at hspan
  have hvs : vs.isEmpty = false := hempty.trans (List.isEmpty_eq_false_iff.mpr hne)
  simp [unsigned?, hspan, hvs, exponent?]

theorem exists_unsigned?_point {ds fs : List Char} (hne : ds ≠ [] ∨ fs ≠ [])
    (hds : ∀ c ∈ ds, Text.isDecimal c = true) (hfs : ∀ c ∈ fs, Text.isDecimal c = true) :
    ∃ x, unsigned? (ds ++ '.' :: fs) = some x := by
  obtain ⟨vs, hspan, hempty⟩ := spanDigits_append ('.' :: fs) hds fun c hc => by
    obtain rfl := Option.some.inj hc
    decide
  obtain ⟨ws, hspan', hempty'⟩ := spanDigits_append [] hfs nofun
  rw [List.append_nil] at hspan'
  have hsome : (vs.isEmpty && ws.isEmpty) = false := by
    rw [hempty, hempty', Bool.and_eq_false_iff, List.isEmpty_eq_false_iff,
      List.isEmpty_eq_false_iff]
    exact hne
  simp [unsigned?, hspan, hspan', hsome, exponent?]

theorem isPlus_of_unsigned? {cs : List Char} {x : Float} (h : unsigned? cs = some x) :
    IsPlus x := by
  simp only [unsigned?] at h
  split at h
  all_goals
    split at h
    · cases h
    · obtain ⟨e, -, rfl⟩ := Option.map_eq_some_iff.mp h
      exact isPlus_nearest _ _ _

end Decimal

end MetricRelay
