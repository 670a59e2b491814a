/-
Timestamps of RFC 3339.

A timestamp is a date, the letter T, a time of day, an optional fraction of a second and a zone: Z
or a signed offset.  Digits beyond the microsecond are dropped.  `Form.read?` checks the form, which
admits digits of any script and one line feed at the end; `Form.instant` then wants ASCII digits, an
existing date, a time of day, an offset of less than a day, and an instant in the years 1 to 9999.

`format` writes an instant in universal time with six places; the year is not padded.
-/
import MetricRelay.Text.Quoted
import MetricRelay.Text.Split
import MetricRelay.Time.Instant

namespace MetricRelay.Time

/-- Why a text of the right form names no instant. -/
inductive TimestampFault where
  | form
  /-- Some digit is not ASCII; the text is shown with six places and a signed zone. -/
  | digits (rebuilt : String)
  | offset (seconds : Int)
  | year
  | month
  | day
  | hour
  | minute
  | second
  /-- The instant lies outside the years 1 to 9999. -/
  | outOfRange
deriving DecidableEq, Repr

/-- An offset as messages show it: its days, rounded down, and the seconds of the rest. -/
def offsetText (seconds : Int) : String :=
  let days := seconds / 86400
  let rest := seconds % 86400
  let parts := (if days = 0 then [] else ["days=" ++ toString days])
    ++ (if rest = 0 then [] else ["seconds=" ++ toString rest])
  "datetime.timedelta(" ++ (if parts.isEmpty then "0" else Text.joinStrings ", " parts) ++ ")"

/-- What a message adds about a refused timestamp. -/
def TimestampFault.detail? : TimestampFault → Option String
  | form | outOfRange => none
  | digits rebuilt => some ("Invalid isoformat string: " ++ Text.quoted rebuilt)
  | offset seconds => some ("offset must be a timedelta strictly between -timedelta(hours=24) and "
      ++ "timedelta(hours=24), not " ++ offsetText seconds ++ ".")
  | year => some "year 0 is out of range"
  | month => some "month must be in 1..12"
  | day => some "day is out of range for month"
  | hour => some "hour must be in 0..23"
  | minute => some "minute must be in 0..59"
  | second => some "second must be in 0..59"

namespace Timestamp

/-- The zone of a timestamp. -/
inductive Zone where
  | universal
  | offset (negative : Bool) (hours minutes : List Char)
deriving DecidableEq, Repr

/-- The digits of a timestamp, field by field. -/
structure Form where
  year : List Char
  month : List Char
  day : List Char
  hour : List Char
  minute : List Char
  second : List Char
  fraction : List Char
  zone : Zone
deriving DecidableEq, Repr

/-- The first characters of a text if they are all digits, and the rest. -/
def takeDigits? : Nat → List Char → Option (List Char × List Char)
  | 0, cs => some ([], cs)
  | _ + 1, [] => none
  | n + 1, c :: cs =>
    if Text.isDecimal c then (takeDigits? n cs).map fun r => (c :: r.1, r.2) else none

/-- The text after one of the given characters. -/
def skipOne? (allowed : List Char) : List Char → Option (List Char)
  | [] => none
  | c :: cs => if c ∈ allowed then some cs else none

/-- The fraction at the start of a text, without its point; empty if there is none. -/
def takeFraction? : List Char → Option (List Char × List Char)
  | '.' :: cs =>
    match cs.takeWhile Text.isDecimal with
    | [] => none
    | d :: ds => some (d :: ds, cs.dropWhile Text.isDecimal)
  | cs => some ([], cs)

/-- The zone at the start of a text. -/
def takeZone? : List Char → Option (Zone × List Char)
  | [] => none
  | c :: cs =>
    if c = 'Z' ∨ c = 'z' then some (.universal, cs)
    else if c = '+' ∨ c = '-' then do
      let (hours, cs) ← takeDigits? 2 cs
      let cs ← skipOne? [':'] cs
      let (minutes, cs) ← takeDigits? 2 cs
      some (.offset (c = '-') hours minutes, cs)
    else none

namespace Form

/-- The form of a timestamp. -/
def read? (cs : List Char) : Option Form := do
  let (year, cs) ← takeDigits? 4 cs
  let cs ← skipOne? ['-'] cs
  let (month, cs) ← takeDigits? 2 cs
  let cs ← skipOne? ['-'] cs
  let (day, cs) ← takeDigits? 2 cs
  let cs ← skipOne? ['T', 't'] cs
  let (hour, cs) ← takeDigits? 2 cs
  let cs ← skipOne? [':'] cs
  let (minute, cs) ← takeDigits? 2 cs
  let cs ← skipOne? [':'] cs
  let (second, cs) ← takeDigits? 2 cs
  let (fraction, cs) ← takeFraction? cs
  let (zone, cs) ← takeZone? cs
  if cs = [] ∨ cs = ['\n'] then
    some { year, month, day, hour, minute, second, fraction, zone }
  else none

/-- The first six digits of the fraction, with zeros behind up to six. -/
def microDigits (f : Form) : List Char :=
  let ds := f.fraction.take 6
  ds ++ List.replicate (6 - ds.length) '0'

/-- The digits of the zone's hours and minutes. -/
def zoneDigits (f : Form) : List Char :=
  match f.zone with
  | .universal => []
  | .offset _ hours minutes => hours ++ minutes

/-- Whether every digit that counts is ASCII. -/
def isAscii (f : Form) : Bool :=
  (f.year ++ f.month ++ f.day ++ f.hour ++ f.minute ++ f.second ++ f.microDigits
    ++ f.zoneDigits).all
    Char.isDigit

/-- The text with six places and a signed zone. -/
def rebuilt (f : Form) : String :=
  let zone := match f.zone with
    | .universal => "+00:00".toList
    | .offset negative hours minutes => (if negative then '-' else '+') :: hours ++ ':' :: minutes
  String.ofList (f.year ++ '-' :: f.month ++ '-' :: f.day ++ 'T' :: f.hour ++ ':' :: f.minute
    ++ ':' :: f.second ++ '.' :: f.microDigits ++ zone)

/-- The number that ASCII digits write. -/
def number (ds : List Char) : Nat :=
  Text.ofDigits (ds.map fun c => c.toNat - 0x30)

/-- The offset of the zone in seconds; minutes may exceed 59. -/
def offsetSeconds (f : Form) : Int :=
  match f.zone with
  | .universal => 0
  | .offset negative hours minutes =>
    let size : Int := (number hours : Int) * 3600 + (number minutes : Int) * 60
    if negative then -size else size

/-- The date that the form names. -/
def date (f : Form) : Date :=
  ⟨number f.year, number f.month, number f.day⟩

/-- Microseconds from the start of year 1 to the date and time of day as they are written. -/
def civilMicros (f : Form) : Nat :=
  (f.date.toDays * 86400 + number f.hour * 3600 + number f.minute * 60 + number f.second) * 1000000
    + number f.microDigits

/-- The instant that the form names. -/
def instant (f : Form) : Except TimestampFault Instant :=
  if !f.isAscii then .error (.digits f.rebuilt)
  else if 86400 ≤ f.offsetSeconds.natAbs then .error (.offset f.offsetSeconds)
  else if f.date.year = 0 then .error .year
  else if f.date.month = 0 ∨ 12 < f.date.month then .error .month
  else if f.date.day = 0 ∨ monthLength f.date.year f.date.month < f.date.day then .error .day
  else if 23 < number f.hour then .error .hour
  else if 59 < number f.minute then .error .minute
  else if 59 < number f.second then .error .second
  else
    match Instant.ofMicros? (Instant.minMicros + f.civilMicros - f.offsetSeconds * 1000000) with
    | none => .error .outOfRange
    | some t => .ok t

end Form

/-- The instant that a timestamp names. -/
def parse (s : String) : Except TimestampFault Instant :=
  match Form.read? s.toList with
  | none => .error .form
  | some f => f.instant

/-- The timestamp of an instant. -/
def formatChars (t : Instant) : List Char :=
  let d := t.date
  let n := t.microOfDay
  let s := n / 1000000
  Text.decimal d.year ++ '-' :: Text.padded 2 d.month ++ '-' :: Text.padded 2 d.day
    ++ 'T' :: Text.padded 2 (s / 3600) ++ ':' :: Text.padded 2 (s / 60 % 60)
    ++ ':' :: Text.padded 2 (s % 60) ++ '.' :: Text.padded 6 (n % 1000000) ++ ['Z']

/-- The timestamp of an instant. -/
def format (t : Instant) : String :=
  String.ofList (formatChars t)

end Timestamp

end MetricRelay.Time
