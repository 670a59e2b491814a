/-
The Gregorian calendar, extended to all years from 1 on.

A date is counted in days since 1 January of year 1, which is day 0.  `Date.toDays` and
`Date.ofDays` convert between the two; a year is found from a day by taking out cycles of 400, 100,
4 and 1 years.  Days before year 1 are found in the first 400 years, as `Date.ofAnyDay` tells.
-/
namespace MetricRelay.Time

/-- A date; `Date.Valid` tells whether the calendar has it. -/
structure Date where
  year : Nat
  month : Nat
  day : Nat
deriving DecidableEq, Repr

/-- Whether a year has 366 days. -/
def isLeap (year : Nat) : Bool :=
  year % 4 == 0 && (year % 100 != 0 || year % 400 == 0)

/-- The lengths of a year's months. -/
def monthLengths (year : Nat) : List Nat :=
  [31, if isLeap year then 29 else 28, 31, 30, 31, 30, 31, 31, 30, 31, 30, 31]

/-- The length of a month, counted from 1; other numbers name no month. -/
def monthLength (year month : Nat) : Nat :=
  if month = 0 then 0 else (monthLengths year).getD (month - 1) 0

/-- The days before a year. -/
def daysBeforeYear (year : Nat) : Nat :=
  let past := year - 1
  365 * past + past / 4 - past / 100 + past / 400

/-- The month and day, both from 1, of a day of the year counted from 0, by the lengths of the
months from a given one on. -/
def monthAndDay (month : Nat) : List Nat → Nat → Nat × Nat
  | [], n => (month, n + 1)
  | length :: lengths, n =>
    if n < length then (month, n + 1) else monthAndDay (month + 1) lengths (n - length)

/-- The year of a day, and the day within that year. -/
def yearAndDay (n : Nat) : Nat × Nat :=
  let c400 := n / 146097
  let n := n % 146097
  let c100 := min 3 (n / 36524)
  let n := n - c100 * 36524
  let c4 := n / 1461
  let n := n % 1461
  let c1 := min 3 (n / 365)
  (400 * c400 + 100 * c100 + 4 * c4 + c1 + 1, n - c1 * 365)

namespace Date

/-- The calendar has the date. -/
def Valid (d : Date) : Prop :=
  1 ≤ d.year ∧ 1 ≤ d.month ∧ d.month ≤ 12 ∧ 1 ≤ d.day ∧ d.day ≤ monthLength d.year d.month

instance (d : Date) : Decidable d.Valid := by unfold Valid; infer_instance

/-- The days from 1 January of year 1 to a date. -/
def toDays (d : Date) : Nat :=
  daysBeforeYear d.year + ((monthLengths d.year).take (d.month - 1)).foldr (· + ·) 0 + (d.day - 1)

/-- The date of a day. -/
def ofDays (n : Nat) : Date :=
  let (year, dayOfYear) := yearAndDay n
  let (month, day) := monthAndDay 1 (monthLengths year) dayOfYear
  ⟨year, month, day⟩

/-- The days of 400 years, after which the calendar repeats itself. -/
def cycleDays : Nat := 146097

/-- The year of any day, also before year 1, and a date of the first 400 years that has the same
month and day. -/
def ofAnyDay (n : Int) : Int × Date :=
  let d := ofDays (n % cycleDays).toNat
  (400 * (n / cycleDays) + d.year, d)

end Date

end MetricRelay.Time
