/-
Periods in the notation of ISO 8601 and on the clock.

`P1DT2H` counts years of 365 days, months of 30, weeks and days, and behind the `T` hours, minutes
and seconds; the last number may have a fraction.  `2 days, 01:00:00` gives days and a time of day,
and a time alone, such as `30:00`, may exceed 24 hours.  A sign may come first.  Numbers are words
of 32 bits, and a period may have at most 999999999 days.
-/
import MetricRelay.Decimal.Binary
import MetricRelay.Text.Split
import MetricRelay.Time.Span

namespace MetricRelay.Time

/-- Days, seconds and microseconds that are added up. -/
structure Period where
  days : Nat := 0
  seconds : Nat := 0
  micros : Nat := 0
deriving DecidableEq, Repr

namespace Period

/-- The bound of the words in which a period is counted. -/
def wordBound : Nat := 4294967296

/-- A number that fits a word. -/
def word? (n : Nat) : Option Nat :=
  if n < wordBound then some n else none

/-- A double rounded toward zero as a word; what is too large becomes the largest word. -/
def wordOfFloat (x : Float) : Nat :=
  match Decimal.truncate? x with
  | some n => min n.toNat (wordBound - 1)
  | none => if 0.0 < x then wordBound - 1 else 0

/-- A double that is not negative rounded to the nearest whole number, a half going up, as a
word. -/
def wordOfRounded (x : Float) : Nat :=
  match Decimal.Dyadic.ofFloat? x with
  | some d => min d.roundUp (wordBound - 1)
  | none => if 0.0 < x then wordBound - 1 else 0

/-- A double without its whole part. -/
def fractionOf (x : Float) : Float :=
  match Decimal.truncate? x with
  | some n => x - Decimal.ofFixed n 0
  | none => 0.0 / 0.0

/-- The ASCII digits at the start of a text, at least one, as a word. -/
def takeNumber? (cs : List Char) : Option (Nat × List Char) :=
  match cs.takeWhile Char.isDigit with
  | [] => none
  | ds => do
    let n ← word? (Text.ofDigits (ds.map fun c => c.toNat - 0x30))
    some (n, cs.dropWhile Char.isDigit)

/-- The fraction at the start of a text: a point or comma and digits. -/
def takeFraction (cs : List Char) : Option Float × List Char :=
  match cs with
  | c :: rest =>
    if c = '.' ∨ c = ',' then
      let ds := rest.takeWhile Char.isDigit
      let (number, power) := ds.foldl
        (fun (x, p) c => (x * 10.0 + Float.ofNat (c.toNat - 0x30), p * 10.0)) ((0.0 : Float),
          (1.0 : Float))
      (some (number / power), rest.dropWhile Char.isDigit)
    else (none, cs)
  | [] => (none, [])

/-- The days of a unit of the date. -/
def dateUnit? (c : Char) : Option Nat :=
  if c = 'Y' then some 365 else if c = 'M' then some 30 else if c = 'W' then some 7
  else if c = 'D' then some 1 else none

/-- The seconds of a unit of the time. -/
def timeUnit? (c : Char) : Option Nat :=
  if c = 'H' then some 3600 else if c = 'M' then some 60 else if c = 'S' then some 1 else none

/-- The period with whole seconds and a fraction of one more. -/
def addSeconds (p : Period) (x : Float) : Option Period := do
  let seconds ← word? (p.seconds + wordOfFloat x)
  let micros ← word? (p.micros + wordOfRounded (fractionOf x * 1000000.0))
  some { p with seconds, micros }

/-- The period with a number of a unit of the date, and a fraction of the unit. -/
def addDate (p : Period) (unit n : Nat) (fraction : Option Float) : Option Period := do
  let days ← word? (p.days + (← word? (unit * n)))
  let p := { p with days }
  match fraction with
  | none => some p
  | some x =>
    let x := x * Float.ofNat unit
    let days ← word? (p.days + wordOfFloat x)
    { p with days }.addSeconds (fractionOf x * 86400.0)

/-- The period with a number of a unit of the time, and a fraction of the unit. -/
def addTime (p : Period) (unit n : Nat) (fraction : Option Float) : Option Period := do
  let seconds ← word? (p.seconds + (← word? (unit * n)))
  let p := { p with seconds }
  match fraction with
  | none => some p
  | some x => p.addSeconds (x * Float.ofNat unit)

/-- The rest of a period in ISO notation.  Nothing but a `T` may follow a number with a fraction;
`fuel` is the length of the text. -/
def isoFrom? (p : Period) (behindT ended : Bool) : Nat → List Char → Option Period
  | _, [] => some p
  | 0, _ :: _ => none
  | fuel + 1, 'T' :: cs => if behindT then none else isoFrom? p true ended fuel cs
  | fuel + 1, c :: cs => do
    let (n, rest) ← takeNumber? (c :: cs)
    let (fraction, rest) := takeFraction rest
    if ended then none
    else
      match rest with
      | [] => none
      | u :: rest =>
        let p ← if behindT then p.addTime (← timeUnit? u) n fraction
          else p.addDate (← dateUnit? u) n fraction
        isoFrom? p behindT fraction.isSome fuel rest

/-- Two ASCII digits. -/
def twoDigits? (a b : Char) : Option Nat :=
  if a.isDigit && b.isDigit then some ((a.toNat - 0x30) * 10 + (b.toNat - 0x30)) else none

/-- Seconds with an optional fraction of up to six digits. -/
def secondsOnClock? : List Char → Option (Nat × Nat)
  | a :: b :: rest => do
    let s ← twoDigits? a b
    if 59 < s then none
    else
      match rest with
      | [] => some (s, 0)
      | c :: ds =>
        if (c = '.' ∨ c = ',') && !ds.isEmpty && ds.all Char.isDigit then
          some (s, Text.ofDigits (ds.map fun c => c.toNat - 0x30) * Nat.pow 10 (6 - ds.length))
        else none
  | _ => none

/-- Minutes and optional seconds of a clock. -/
def minutesOnClock? : List Char → Option (Nat × Nat)
  | a :: b :: rest => do
    let m ← twoDigits? a b
    if 59 < m then none
    else
      match rest with
      | [] => some (m * 60, 0)
      | ':' :: rest => do
        let (s, micros) ← secondsOnClock? rest
        some (m * 60 + s, micros)
      | _ => none
  | _ => none

/-- Hours, minutes and optional seconds of a clock.  Of what follows the hours only the first twelve
characters count. -/
def onClock? (cs : List Char) : Option Period := do
  if cs.length < 5 then none
  else
    let (hours, rest) ← Text.cut? ':' cs
    if 10 < hours.length || !hours.all Char.isDigit then none
    else
      let h := Text.ofDigits (hours.map fun c => c.toNat - 0x30)
      if 2400000000 < h then none
      else
        let (seconds, micros) ← minutesOnClock? (rest.take 12)
        some { days := h / 24, seconds := h % 24 * 3600 + seconds, micros }

/-- The text behind the word for days: `d`, `day` or `days`, where the first letter may be a capital
and so may all others together. -/
def dropDayWord? : List Char → Option (List Char)
  | d :: cs =>
    if d = 'd' ∨ d = 'D' then
      match cs with
      | 'a' :: 'y' :: 's' :: cs | 'A' :: 'Y' :: 'S' :: cs => some cs
      | 'a' :: 'y' :: cs | 'A' :: 'Y' :: cs => some cs
      | cs => some cs
    else none
  | [] => none

/-- A text without a character at its start. -/
def dropOptional (c : Char) : List Char → List Char
  | d :: cs => if d = c then cs else d :: cs
  | [] => []

/-- Days, and behind an optional comma and an optional space a time of day on the clock. -/
def daysOnClock? (cs : List Char) : Option Period := do
  let (days, cs) ← takeNumber? cs
  let cs ← dropDayWord? (dropOptional ' ' cs)
  match dropOptional ' ' (dropOptional ',' cs) with
  | [] => some { days }
  | cs => do
    let p ← onClock? cs
    if 0 < p.days then none else some { p with days }

/-- The period that a text without its sign writes, where `length` counts the sign too. -/
def read? (length : Nat) : List Char → Option Period
  | 'P' :: cs => if cs.length < 2 then none else isoFrom? {} false false cs.length cs
  | cs =>
    if length < 5 || cs.any fun c => c = 'd' || c = 'D' then daysOnClock? cs else onClock? cs

/-- The span of a period with a sign, if it has no more days than a span may have. -/
def span? (negative : Bool) (p : Period) : Option (Except SpanFault Span) := do
  let seconds ← word? (p.seconds + p.micros / 1000000)
  let days ← word? (p.days + seconds / 86400)
  if Span.maxDays < days then none
  else
    let n : Int := (days * 86400 + seconds % 86400) * 1000000 + p.micros % 1000000
    some (Span.ofMicros? (if negative then -n else n))

/-- The span that a text writes as a period. -/
def parse? (s : String) : Option (Except SpanFault Span) :=
  let cs := s.toList
  match cs with
  | '-' :: rest => do (← read? cs.length rest).span? true
  | '+' :: rest => do (← read? cs.length rest).span? false
  | _ => do (← read? cs.length cs).span? false

/-- The span of whole seconds. -/
def ofSeconds? (n : Int) : Option (Except SpanFault Span) :=
  span? (n < 0) { days := n.natAbs / 86400, seconds := n.natAbs % 86400 }

/-- The span of seconds given as a double, to the nearest microsecond with a half going up. -/
def ofFloat? (x : Float) : Option (Except SpanFault Span) :=
  if x.isNaN then none
  else
    let size := x.abs
    span? (x < 0.0)
      { days := wordOfFloat (size / 86400.0)
        seconds := ((Decimal.truncate? size).getD 0).toNat % 86400
        micros := wordOfRounded (fractionOf size * 1000000.0) }

end Period

end MetricRelay.Time
