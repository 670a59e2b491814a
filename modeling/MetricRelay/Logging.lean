/-
Log levels and log lines.

A record is written either as one line of text, with columns for time, level and logger, or as a
JSON object on one line.  Its time counts in whole seconds, in any year that a 32-bit number names.
-/
import MetricRelay.Json.Printer
import MetricRelay.Settings.Basic
import MetricRelay.Text.Case
import MetricRelay.Time.Instant

namespace MetricRelay.Logging

/-- The level names with their numbers; of two names for one number the first is shown. -/
def levels : List (String × Int) :=
  [("CRITICAL", 50), ("FATAL", 50), ("ERROR", 40), ("WARNING", 30), ("WARN", 30), ("INFO", 20),
   ("DEBUG", 10), ("NOTSET", 0)]

/-- A text in upper case. -/
def upper (s : String) : String :=
  String.ofList (Text.toUpper s.toList)

/-- The number of a level name in any case; other names count as `INFO`. -/
def levelNumber (name : String) : Int :=
  (levels.lookup (upper name)).getD 20

/-- Why a name can set no level. -/
inductive LevelFault where
  /-- The name belongs to a form of lines. -/
  | form
  /-- The name belongs to a table of forms. -/
  | table
deriving DecidableEq, Repr

/-- The level that a name sets; two names are taken. -/
def level? (name : String) : Except LevelFault Int :=
  if upper name = "BASIC_FORMAT" then .error .form
  else if upper name = "_STYLES" then .error .table
  else .ok (levelNumber name)

/-- The name of a level number. -/
def levelName (n : Int) : String :=
  match levels.find? fun l => l.2 == n with
  | some l => l.1
  | none => "Level " ++ toString n

/-- Parts of the program whose records count only from `WARNING` on. -/
inductive Quiet where
  | requests
  | connections
  | accesses
deriving DecidableEq, Repr

/-- All quiet parts. -/
def Quiet.all : List Quiet := [requests, connections, accesses]

/-- The least level of the records of quiet parts. -/
def quietLevel : Int := 30

/-- Something that happened. -/
structure Record where
  logger : String
  level : Int
  message : String
  /-- Seconds since the start of 1970. -/
  seconds : Float := 0.0
  /-- The project that the record concerns, if it tells one. -/
  projectId : Option Json := none

/-- Why a time cannot be written. -/
inductive ClockFault where
  | notANumber
  /-- The seconds do not fit a word, or the year no number of 32 bits. -/
  | tooLarge
  /-- No calendar has the year. -/
  | noYear
deriving DecidableEq, Repr

/-- The greatest number of 32 bits. -/
def maxYear : Int := 2147483647

/-- The year from which calendars count years, in numbers of 32 bits. -/
def baseYear : Int := 1900

/-- Signed words of 64 bits lie below this number. -/
def wordLimit : Int := 9223372036854775808

/-- The whole seconds of a time, rounded down. -/
def wholeSeconds (x : Float) : Except ClockFault Int :=
  match Decimal.truncate? x.floor with
  | none => .error (if x.isNaN then .notANumber else .tooLarge)
  | some n => if -wordLimit ≤ n ∧ n < wordLimit then .ok n else .error .tooLarge

/-- The seconds of a day. -/
def daySeconds : Int := 86400

/-- A time down to the second. -/
def timeText (x : Float) : Except ClockFault (List Char) := do
  let seconds ← wholeSeconds x
  let (year, d) := Time.Date.ofAnyDay (seconds / daySeconds + Time.Instant.epochDays)
  if year < baseYear - maxYear - 1 ∨ baseYear + maxYear < year then .error .noYear
  else if maxYear < year then .error .tooLarge
  else
    let s := (seconds % daySeconds).toNat
    .ok (Json.renderInt year ++ '-' :: Text.padded 2 d.month ++ '-' :: Text.padded 2 d.day
      ++ ' ' :: Text.padded 2 (s / 3600) ++ ':' :: Text.padded 2 (s / 60 % 60)
      ++ ':' :: Text.padded 2 (s % 60))

namespace Record

/-- The record as a line of text. -/
def textLine (r : Record) : Except ClockFault String := do
  let time ← timeText r.seconds
  let level := levelName r.level
  let level := level ++ String.ofList (List.replicate (8 - level.length) ' ')
  .ok (Text.joinStrings " | " [String.ofList time, level, r.logger, r.message])

/-- The record as a JSON object. -/
def jsonLine (r : Record) : Except ClockFault String := do
  let time := String.ofList ((← timeText r.seconds) ++ ",000".toList)
  .ok (Json.object ([("time", .text time), ("level", .text (levelName r.level)),
      ("name", .text r.logger), ("message", .text r.message)]
    ++ (match r.projectId with
      | none => []
      | some p => [("project_id", p)]))).render

/-- The line of a record. -/
def line (r : Record) : Settings.LogFormat → Except ClockFault String
  | .text => r.textLine
  | .json => r.jsonLine

end Record

end MetricRelay.Logging
