/-
Points in time.

An instant counts microseconds from the start of 1970 in universal time.  Instants outside the years
1 to 9999 do not exist; `Instant.ofMicros?` refuses them.
-/
import MetricRelay.Time.Calendar
import MetricRelay.Time.Span

namespace MetricRelay.Time

/-- A point in time, in microseconds since the start of 1970. -/
structure Instant where
  micros : Int
deriving DecidableEq, Repr

namespace Instant

/-- The start of 1970. -/
def epoch : Instant := ⟨0⟩

/-- The days before 1970. -/
def epochDays : Nat := 719162

/-- The first microsecond of year 1. -/
def minMicros : Int := -62135596800000000

/-- The last microsecond of year 9999. -/
def maxMicros : Int := 253402300799999999

/-- The instant of a count of microseconds, if it lies in the years 1 to 9999. -/
def ofMicros? (n : Int) : Option Instant :=
  if minMicros ≤ n ∧ n ≤ maxMicros then some ⟨n⟩ else none

/-- The instant a span later. -/
def add? (t : Instant) (s : Span) : Option Instant :=
  ofMicros? (t.micros + s.micros)

/-- The instant a span earlier. -/
def sub? (t : Instant) (s : Span) : Option Instant :=
  ofMicros? (t.micros - s.micros)

/-- The seconds since the start of 1970. -/
def seconds (t : Instant) : Float :=
  Decimal.ofFixed t.micros 6

/-- Microseconds since the start of year 1. -/
def sinceYearOne (t : Instant) : Nat :=
  (t.micros - minMicros).toNat

/-- The date of an instant. -/
def date (t : Instant) : Date :=
  Date.ofDays (t.sinceYearOne / 86400000000)

/-- The microsecond of the day of an instant. -/
def microOfDay (t : Instant) : Nat :=
  t.sinceYearOne % 86400000000

end Instant

end MetricRelay.Time
