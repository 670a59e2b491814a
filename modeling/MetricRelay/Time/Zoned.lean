/-
Times on the clocks of zones.

A zone is an offset of less than a day from universal time, in microseconds.  What its clock shows
lies in the years 1 to 9999, and so has the instant to, at which it shows that.
-/
import MetricRelay.Time.Timestamp

namespace MetricRelay.Time

/-- A time as the clock of a zone shows it. -/
structure Zoned where
  /-- The microseconds since the clock showed the start of 1970. -/
  clock : Int
  /-- The microseconds by which the clock is ahead of universal time. -/
  ahead : Int
  clock_exists : Instant.minMicros ≤ clock ∧ clock ≤ Instant.maxMicros
  ahead_lt : ahead.natAbs < 86400000000

namespace Zoned

/-- The time that the clock of a zone shows at an instant, if there are such a zone and such a
time. -/
def ofInstant? (t : Instant) (ahead : Int) : Option Zoned :=
  if h : (Instant.minMicros ≤ t.micros + ahead ∧ t.micros + ahead ≤ Instant.maxMicros) ∧
      ahead.natAbs < 86400000000 then
    some ⟨t.micros + ahead, ahead, h.1, h.2⟩
  else none

/-- The instant at which the clock shows the time, if there is one. -/
def instant? (z : Zoned) : Option Instant :=
  Instant.ofMicros? (z.clock - z.ahead)

/-- The timestamp of the instant at which the clock shows the time. -/
def format? (z : Zoned) : Option String :=
  z.instant?.map Timestamp.format

end Zoned

end MetricRelay.Time
