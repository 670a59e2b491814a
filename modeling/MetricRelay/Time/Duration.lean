/-
Durations in words of number and unit, such as `1h30m`.

A duration is an optional sign and then either `0` alone or one or more parts, each a decimal number
directly followed by a unit; white space around it is skipped.  Its length is the sum of the parts
from left to right in seconds, as a double, times the sign.
-/
import MetricRelay.Decimal.Numeral
import MetricRelay.Text.Quoted
import MetricRelay.Time.Span

namespace MetricRelay.Time

/-- Why a text is no duration. -/
inductive DurationFault where
  | empty
  | invalid (text : String)
  | span (fault : SpanFault)
deriving DecidableEq, Repr

/-- The message about a text that is no duration; a duration that is too long has none. -/
def DurationFault.message? : DurationFault → Option String
  | empty => some "empty duration"
  | invalid text => some ("invalid duration " ++ Text.quoted text)
  | span _ => none

namespace Duration

/-- The units with their seconds; of two that start alike the longer one comes first. -/
def units : List (List Char × Float) :=
  [(['n', 's'], 1e-9), (['u', 's'], 1e-6), (['µ', 's'], 1e-6), (['m', 's'], 1e-3), (['s'], 1.0),
   (['m'], 60.0), (['h'], 3600.0)]

/-- A number with its unit. -/
structure Part where
  number : List Char
  unit : Float
deriving Repr

/-- The seconds of a part. -/
def Part.seconds (p : Part) : Float :=
  (Decimal.unsigned? p.number).getD 0.0 * p.unit

/-- A number at the start of a text: digits with an optional point and further digits, or a point
and at least one digit. -/
def takeNumber? (cs : List Char) : Option (List Char × List Char) :=
  let whole := cs.takeWhile Text.isDecimal
  let rest := cs.dropWhile Text.isDecimal
  match whole, rest with
  | [], '.' :: cs =>
    match cs.takeWhile Text.isDecimal with
    | [] => none
    | d :: ds => some ('.' :: d :: ds, cs.dropWhile Text.isDecimal)
  | [], _ => none
  | whole, '.' :: cs =>
    some (whole ++ '.' :: cs.takeWhile Text.isDecimal, cs.dropWhile Text.isDecimal)
  | whole, rest => some (whole, rest)

/-- A unit at the start of a text. -/
def takeUnit? (cs : List Char) : Option (Float × List Char) :=
  units.findSome? fun u => if u.1.isPrefixOf cs then some (u.2, cs.drop u.1.length) else none

/-- A part at the start of a text. -/
def takePart? (cs : List Char) : Option (Part × List Char) := do
  let (number, cs) ← takeNumber? cs
  let (unit, cs) ← takeUnit? cs
  some (⟨number, unit⟩, cs)

/-- The parts that a whole text consists of; each takes at least one character, so `fuel` is the
length of the text. -/
def partsWithin? : Nat → List Char → Option (List Part)
  | _, [] => some []
  | 0, _ :: _ => none
  | fuel + 1, c :: cs => do
    let (part, rest) ← takePart? (c :: cs)
    let parts ← partsWithin? fuel rest
    some (part :: parts)

/-- The parts that a whole text consists of. -/
def parts? (cs : List Char) : Option (List Part) :=
  partsWithin? cs.length cs

/-- The seconds of parts, added from left to right. -/
def total (parts : List Part) : Float :=
  parts.foldl (fun sum p => sum + p.seconds) 0.0

/-- The seconds that a duration without white space around it names. -/
def seconds? (cs : List Char) : Option Float :=
  let (negative, cs) := Decimal.takeSign cs
  let sign : Float := if negative then -1.0 else 1.0
  if cs = ['0'] then some 0.0
  else
    match parts? cs with
    | none | some [] => none
    | some parts => some (sign * total parts)

/-- The span that a duration names. -/
def parse (s : String) : Except DurationFault Span :=
  let cs := Text.strip Text.isBlank s.toList
  if cs.isEmpty then .error .empty
  else
    match seconds? cs with
    | none => .error (.invalid s)
    | some x => (Span.ofSeconds? x).mapError .span

end Duration

end MetricRelay.Time
