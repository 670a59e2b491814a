/-
The calendar, day by day.

A date is followed by the next one as the lengths of the months have it (`Date.next`), so the date
of a day is found by going on from 1 January of year 1 (`Date.after`).  The conversions between
dates and days, which do not go day by day, agree with that:

* `after_eq_iff` — the dates that come up, each on the day that `Date.toDays` counts;
* `ofDays_eq_after` — the date that `Date.ofDays` finds by cycles of years;
* `year_after_lt_iff` — the days before a year.
-/
import MetricRelay.Time.Instant

namespace MetricRelay.Time

/-- The date that follows a date. -/
def Date.next (d : Date) : Date :=
  if d.day < monthLength d.year d.month then ⟨d.year, d.month, d.day + 1⟩
  else if d.month < 12 then ⟨d.year, d.month + 1, 1⟩
  else ⟨d.year + 1, 1, 1⟩

/-- The date a number of days after 1 January of year 1. -/
def Date.after : Nat → Date
  | 0 => ⟨1, 1, 1⟩
  | n + 1 => (Date.after n).next

/-! ### Months -/

/-- The days of a year before a month. -/
def daysBeforeMonth (year month : Nat) : Nat :=
  ((monthLengths year).take (month - 1)).foldr (· + ·) 0

/-- The days of a year. -/
def yearLength (year : Nat) : Nat :=
  (monthLengths year).foldr (· + ·) 0

theorem yearLength_eq (year : Nat) : yearLength year = if isLeap year then 366 else 365 := by
  unfold yearLength monthLengths
  split <;> rfl

theorem isLeap_iff (year : Nat) :
    isLeap year = true ↔ year % 4 = 0 ∧ (year % 100 ≠ 0 ∨ year % 400 = 0) := by
  simp only [isLeap, Bool.and_eq_true, Bool.or_eq_true, beq_iff_eq, bne_iff_ne]

theorem length_monthLengths (year : Nat) : (monthLengths year).length = 12 := rfl

theorem monthLength_bounds {month : Nat} (h : 1 ≤ month) (h' : month ≤ 12) (year : Nat) :
    1 ≤ monthLength year month ∧ monthLength year month ≤ 31 := by
  have hall : ∀ n ∈ monthLengths year, 1 ≤ n ∧ n ≤ 31 := by
    unfold monthLengths
    split <;> decide
  have hlt : month - 1 < (monthLengths year).length := by
    rw [length_monthLengths]
    omega
  rw [monthLength, if_neg (by omega), List.getD_eq_getElem?_getD, List.getElem?_eq_getElem hlt]
  exact hall _ (List.getElem_mem hlt)

theorem foldr_take_succ (ls : List Nat) (i : Nat) :
    (ls.take (i + 1)).foldr (· + ·) 0 = (ls.take i).foldr (· + ·) 0 + ls.getD i 0 := by
  induction ls generalizing i with
  | nil => simp
  | cons l ls ih =>
    cases i with
    | zero => simp
    | succ i =>
      rw [List.take_succ_cons, List.take_succ_cons, List.foldr_cons, List.foldr_cons, ih]
      simp only [List.getD_cons_succ]
      omega

theorem daysBeforeMonth_succ {month : Nat} (h : 1 ≤ month) (year : Nat) :
    daysBeforeMonth year (month + 1) = daysBeforeMonth year month + monthLength year month := by
  obtain ⟨i, rfl⟩ : ∃ i, month = i + 1 := ⟨month - 1, by omega⟩
  rw [daysBeforeMonth, daysBeforeMonth, monthLength, if_neg (by omega)]
  exact foldr_take_succ (monthLengths year) i

theorem daysBeforeMonth_thirteen (year : Nat) : daysBeforeMonth year 13 = yearLength year := rfl

/-- A month ends before a later one begins. -/
theorem daysBeforeMonth_add_le {m n : Nat} (hm : 1 ≤ m) (hmn : m < n) (year : Nat) :
    daysBeforeMonth year m + monthLength year m ≤ daysBeforeMonth year n := by
  induction n with
  | zero => omega
  | succ n ih =>
    rw [daysBeforeMonth_succ (by omega)]
    rcases Nat.lt_or_ge m n with hlt | hge
    · have hle := ih hlt
      omega
    · obtain rfl : m = n := by omega
      exact Nat.le_refl _

/-! ### Years -/

theorem daysBeforeYear_succ {year : Nat} (h : 1 ≤ year) :
    daysBeforeYear (year + 1) = daysBeforeYear year + yearLength year := by
  obtain ⟨past, rfl⟩ : ∃ past, year = past + 1 := ⟨year - 1, by omega⟩
  -- a quotient grows where the year is divisible, and a year is leap by the largest divisor
  have hfour : (past + 1) / 4 = past / 4 + if (past + 1) % 4 = 0 then 1 else 0 := by
    split <;> omega
  have hhundred : (past + 1) / 100 = past / 100 + if (past + 1) % 100 = 0 then 1 else 0 := by
    split <;> omega
  have hcycle : (past + 1) / 400 = past / 400 + if (past + 1) % 400 = 0 then 1 else 0 := by
    split <;> omega
  have hle : past / 100 ≤ past / 4 := by omega
  have hleap := isLeap_iff (past + 1)
  have h100 : (past + 1) % 100 = 0 → (past + 1) % 4 = 0 := by omega
  have h400 : (past + 1) % 400 = 0 → (past + 1) % 100 = 0 := by omega
  simp only [daysBeforeYear, yearLength_eq, Nat.add_sub_cancel, hfour, hhundred, hcycle]
  generalize past / 4 = q4, past / 100 = q100, past / 400 = q400, isLeap (past + 1) = leap at *
  generalize (past + 1) % 4 = r4, (past + 1) % 100 = r100, (past + 1) % 400 = r400 at *
  by_cases hl : leap = true
  · obtain ⟨h4, h⟩ := hleap.mp hl
    by_cases hr : r100 = 0
    · simp only [hl, h4, hr, h.resolve_left (not_not_intro hr), if_true]
      omega
    · have hr' : r400 ≠ 0 := fun h => hr (h400 h)
      simp only [hl, h4, hr, hr', if_true, if_false]
      omega
  · have hr' : r400 ≠ 0 := fun h => hl (hleap.mpr ⟨h100 (h400 h), Or.inr h⟩)
    by_cases hr : r100 = 0
    · simp only [hl, h100 hr, hr, hr', if_true, if_false, Bool.false_eq_true]
      omega
    · have h4 : r4 ≠ 0 := fun h => hl (hleap.mpr ⟨h, Or.inl hr⟩)
      simp only [hl, h4, hr, hr', if_false, Bool.false_eq_true]
      omega

/-- A year ends before a later one begins. -/
theorem daysBeforeYear_add_le {y z : Nat} (hy : 1 ≤ y) (hyz : y < z) :
    daysBeforeYear y + yearLength y ≤ daysBeforeYear z := by
  induction z with
  | zero => omega
  | succ z ih =>
    rw [daysBeforeYear_succ (by omega)]
    rcases Nat.lt_or_ge y z with hlt | hge
    · have hle := ih hlt
      omega
    · obtain rfl : y = z := by omega
      exact Nat.le_refl _

/-! ### Dates -/

namespace Date

theorem toDays_eq (d : Date) :
    d.toDays = daysBeforeYear d.year + daysBeforeMonth d.year d.month + (d.day - 1) := rfl

/-- A date is within its year. -/
theorem Valid.dayOfYear_lt {d : Date} (h : d.Valid) :
    daysBeforeMonth d.year d.month + (d.day - 1) < yearLength d.year := by
  obtain ⟨-, hm, hm', hd, hd'⟩ := h
  have hle := daysBeforeMonth_add_le hm (Nat.lt_succ_of_le hm') d.year
  rw [daysBeforeMonth_thirteen] at hle
  omega

theorem Valid.toDays_lt_iff {d : Date} (h : d.Valid) {year : Nat} (hyear : 1 ≤ year) :
    d.toDays < daysBeforeYear year ↔ d.year < year := by
  have hday := h.dayOfYear_lt
  rw [toDays_eq]
  rcases Nat.lt_or_ge d.year year with hlt | hge
  · have hle := daysBeforeYear_add_le h.1 hlt
    omega
  · rcases Nat.eq_or_lt_of_le hge with rfl | hgt
    · omega
    · have hle := daysBeforeYear_add_le hyear hgt
      omega

/-- No two dates are on one day. -/
theorem Valid.eq_of_toDays {d e : Date} (hd : d.Valid) (he : e.Valid) (h : d.toDays = e.toDays) :
    d = e := by
  have hyear : d.year = e.year := by
    have hde := hd.toDays_lt_iff he.1
    have hed := he.toDays_lt_iff hd.1
    have hself := hd.toDays_lt_iff hd.1
    have hself' := he.toDays_lt_iff he.1
    omega
  obtain ⟨y, m, j⟩ := d
  obtain ⟨z, n, k⟩ := e
  obtain rfl : y = z := hyear
  obtain ⟨-, hm, hm', hj, hj'⟩ := hd
  obtain ⟨-, hn, hn', hk, hk'⟩ := he
  dsimp only at *
  simp only [toDays_eq] at h
  have hmonth : m = n := by
    rcases Nat.lt_trichotomy m n with hlt | heq | hgt
    · have hle := daysBeforeMonth_add_le hm hlt y
      omega
    · exact heq
    · have hle := daysBeforeMonth_add_le hn hgt y
      omega
  subst hmonth
  obtain rfl : j = k := by omega
  rfl

theorem Valid.next {d : Date} (h : d.Valid) : d.next.Valid := by
  obtain ⟨hy, hm, hm', hd, hd'⟩ := h
  unfold Date.next Valid
  split
  · dsimp only
    omega
  · split
    · have hpos := monthLength_bounds (by omega : 1 ≤ d.month + 1) (by omega) d.year
      dsimp only
      omega
    · have hpos := monthLength_bounds (by omega : 1 ≤ 1) (by omega) (d.year + 1)
      dsimp only
      omega

theorem Valid.toDays_next {d : Date} (h : d.Valid) : d.next.toDays = d.toDays + 1 := by
  obtain ⟨hy, hm, hm', hd, hd'⟩ := h
  have hmonth := daysBeforeMonth_succ hm d.year
  unfold Date.next
  split
  · simp only [toDays_eq]
    omega
  · split
    · simp only [toDays_eq]
      omega
    · -- the last day of December
      have hdecember : d.month + 1 = 13 := by omega
      have hyear := daysBeforeYear_succ hy
      have hjanuary : daysBeforeMonth (d.year + 1) 1 = 0 := rfl
      rw [hdecember, daysBeforeMonth_thirteen] at hmonth
      simp only [toDays_eq, hjanuary]
      omega

theorem valid_after (n : Nat) : (after n).Valid := by
  induction n with
  | zero => decide
  | succ n ih => exact ih.next

theorem toDays_after (n : Nat) : (after n).toDays = n := by
  induction n with
  | zero => rfl
  | succ n ih => rw [after, (valid_after n).toDays_next, ih]

/-- The dates that come up from day to day are those of the calendar, each on its day. -/
theorem after_eq_iff {n : Nat} {d : Date} : after n = d ↔ d.Valid ∧ d.toDays = n := by
  constructor
  · rintro rfl
    exact ⟨valid_after n, toDays_after n⟩
  · rintro ⟨hd, hn⟩
    exact (valid_after n).eq_of_toDays hd ((toDays_after n).trans hn.symm)

theorem year_after_lt_iff {year : Nat} (h : 1 ≤ year) (n : Nat) :
    (after n).year < year ↔ n < daysBeforeYear year := by
  rw [← (valid_after n).toDays_lt_iff h, toDays_after]

/-! ### From days to dates -/

/-- A day of the year is found by taking out months. -/
theorem exists_monthAndDay {ls : List Nat} {n : Nat} (h : n < ls.foldr (· + ·) 0) (month : Nat) :
    ∃ i j, monthAndDay month ls n = (month + i, j + 1) ∧ i < ls.length ∧ j < ls.getD i 0 ∧
      (ls.take i).foldr (· + ·) 0 + j = n := by
  induction ls generalizing n month with
  | nil => simp at h
  | cons l ls ih =>
    rw [List.foldr_cons] at h
    by_cases hl : n < l
    · exact ⟨0, n, by simp [monthAndDay, hl], by simp, by simpa using hl, by simp⟩
    · obtain ⟨i, j, heq, hi, hj, hsum⟩ := ih (n := n - l) (by omega) (month + 1)
      refine ⟨i + 1, j, ?_, by simpa using hi, by simpa using hj, ?_⟩
      · rw [monthAndDay, if_neg hl, heq]
        simp only [Nat.add_assoc, Nat.add_comm 1 i]
      · rw [List.take_succ_cons, List.foldr_cons]
        omega

/-- The days of whole cycles of 400, 100, 4 and 1 years. -/
theorem daysBeforeYear_cycles (a : Nat) {b c e : Nat} (hb : b ≤ 3) (hc : c ≤ 24) (he : e ≤ 3) :
    daysBeforeYear (400 * a + 100 * b + 4 * c + e + 1)
      = 146097 * a + 36524 * b + 1461 * c + 365 * e := by
  have hfour : (400 * a + 100 * b + 4 * c + e) / 4 = 100 * a + 25 * b + c := by omega
  have hhundred : (400 * a + 100 * b + 4 * c + e) / 100 = 4 * a + b := by omega
  have hcycle : (400 * a + 100 * b + 4 * c + e) / 400 = a := by omega
  simp only [daysBeforeYear, Nat.add_sub_cancel, hfour, hhundred, hcycle]
  omega

/-- The last year of four is leap, unless it ends 100 years that do not end 400 years. -/
theorem yearLength_cycles (a : Nat) {b c : Nat} (hc : c ≤ 24) (h : c ≤ 23 ∨ b = 3) :
    yearLength (400 * a + 100 * b + 4 * c + 3 + 1) = 366 := by
  have hleap : isLeap (400 * a + 100 * b + 4 * c + 3 + 1) = true := by
    rw [isLeap_iff]
    omega
  rw [yearLength_eq, if_pos hleap]

/-- The year of a day is found by taking out cycles of 400, 100, 4 and 1 years. -/
theorem yearAndDay_spec (n : Nat) :
    1 ≤ (yearAndDay n).1 ∧ daysBeforeYear (yearAndDay n).1 + (yearAndDay n).2 = n ∧
      (yearAndDay n).2 < yearLength (yearAndDay n).1 := by
  obtain ⟨r, hr⟩ : ∃ r, r = n % 146097 := ⟨_, rfl⟩
  obtain ⟨b, hb⟩ : ∃ b, b = min 3 (r / 36524) := ⟨_, rfl⟩
  obtain ⟨s, hs⟩ : ∃ s, s = r - b * 36524 := ⟨_, rfl⟩
  obtain ⟨c, hc⟩ : ∃ c, c = s / 1461 := ⟨_, rfl⟩
  obtain ⟨u, hu⟩ : ∃ u, u = s % 1461 := ⟨_, rfl⟩
  obtain ⟨e, he⟩ : ∃ e, e = min 3 (u / 365) := ⟨_, rfl⟩
  have heq : yearAndDay n = (400 * (n / 146097) + 100 * b + 4 * c + e + 1, u - e * 365) := by
    rw [yearAndDay, he, hu, hc, hs, hb, hr]
  -- the last of four years and of four centuries take what the others leave over
  have hr' : 146097 * (n / 146097) + r = n := by omega
  have hs' : 36524 * b + s = r ∧ b ≤ 3 ∧ (s < 36524 ∨ b = 3 ∧ s = 36524) := by omega
  have hu' : 1461 * c + u = s ∧ c ≤ 24 := by omega
  have hday : 365 * e + (u - e * 365) = u ∧ e ≤ 3 ∧
      (u - e * 365 < 365 ∨ e = 3 ∧ u - e * 365 = 365 ∧ (c ≤ 23 ∨ b = 3)) := by omega
  clear hr hb hs hc hu he
  have hbefore := daysBeforeYear_cycles (n / 146097) hs'.2.1 hu'.2 hday.2.1
  rw [heq]
  refine ⟨by omega, by dsimp only; omega, ?_⟩
  dsimp only
  rcases hday.2.2 with hlt | ⟨rfl, hlast, hcount⟩
  · rw [yearLength_eq]
    split <;> omega
  · rw [yearLength_cycles _ hu'.2 hcount]
    omega

/-- The date of a day is found without going from day to day. -/
theorem ofDays_eq_after (n : Nat) : ofDays n = after n := by
  obtain ⟨hyear, hsum, hday⟩ := yearAndDay_spec n
  obtain ⟨i, j, hmonth, hi, hj, hsum'⟩ := exists_monthAndDay hday 1
  have hofDays : ofDays n = ⟨(yearAndDay n).1, 1 + i, j + 1⟩ := by
    simp only [ofDays, hmonth]
  rw [length_monthLengths] at hi
  refine (after_eq_iff.mpr ⟨?_, ?_⟩).symm
  · rw [hofDays]
    refine ⟨hyear, by dsimp only; omega, by dsimp only; omega, by dsimp only; omega, ?_⟩
    dsimp only
    rw [monthLength, if_neg (by omega), Nat.add_sub_cancel_left]
    omega
  · rw [hofDays, toDays_eq]
    dsimp only
    rw [daysBeforeMonth, Nat.add_sub_cancel_left]
    omega

example : ofDays Instant.epochDays = ⟨1970, 1, 1⟩ := by decide

end Date

end MetricRelay.Time
