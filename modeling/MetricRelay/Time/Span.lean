/-
Lengths of time.

A span is a whole number of microseconds, at most 999999999 days in either direction.  Seconds given
as a double are split into whole seconds and a fraction, and the fraction is rounded to the nearest
microsecond, a half to the even one.
-/
import MetricRelay.Decimal.Binary
import MetricRelay.Text.Digit

namespace MetricRelay.Time

/-- A length of time. -/
structure Span where
  micros : Int
deriving DecidableEq, Repr

/-- Why a number of seconds is no span. -/
inductive SpanFault where
  | infinite
  | notANumber
  | tooLong (days : Int)
deriving DecidableEq, Repr

namespace Span

/-- Microseconds of a second. -/
def second : Int := 1000000

/-- Microseconds of a day. -/
def day : Int := 86400000000

/-- The most days a span may have. -/
def maxDays : Int := 999999999

/-- The days, rounded down, with the rest of the day in microseconds. -/
def days (s : Span) : Int := s.micros / day

/-- The span of a number of microseconds that is not too long. -/
def ofMicros? (n : Int) : Except SpanFault Span :=
  let d := n / day
  if -maxDays ≤ d ∧ d ≤ maxDays then .ok ⟨n⟩ else .error (.tooLong d)

/-- The span of whole seconds and a fraction of one that the nearest microsecond stands for. -/
def ofSeconds? (x : Float) : Except SpanFault Span :=
  match Decimal.truncate? x with
  | none => .error (if x.isNaN then .notANumber else .infinite)
  | some whole =>
    let fraction := (x - Decimal.ofFixed whole 0) * 1e6
    ofMicros? (whole * second + (Decimal.roundEven? fraction).getD 0)

/-- The length in seconds. -/
def seconds (s : Span) : Float :=
  Decimal.ofFixed s.micros 6

/-- The length as a clock shows it: days, unless there are none, then hours without padding,
minutes, seconds, and microseconds, unless there are none. -/
def clockText (s : Span) : String :=
  let rest := (s.micros % day).toNat
  let days := s.days
  let dayText := if days = 0 then [] else
    (if days < 0 then ['-'] else []) ++ Text.decimal days.natAbs
      ++ (if days.natAbs = 1 then " day, " else " days, ").toList
  let whole := rest / 1000000
  let fraction := rest % 1000000
  String.ofList (dayText ++ Text.decimal (whole / 3600) ++ ':' :: Text.padded 2 (whole / 60 % 60)
    ++ ':' :: Text.padded 2 (whole % 60)
    ++ if fraction = 0 then [] else '.' :: Text.padded 6 fraction)

end Span

end MetricRelay.Time
