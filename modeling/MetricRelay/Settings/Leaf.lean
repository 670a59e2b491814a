/-
Checks of single values.

Numbers may be written as texts, whole numbers as decimals without a fraction, and truth values as
words or as zero and one.  Single underscores may stand among the characters of a number, any number
of them among the zeros at the start of a whole one.
-/
import MetricRelay.Settings.Check
import MetricRelay.Decimal.Numeral
import MetricRelay.Text.Surrogate
import MetricRelay.Time.Duration
import MetricRelay.Time.Period

namespace MetricRelay.Settings

open Checked

/-- A value that is written as a text, which has to consist of characters. -/
def withText {α : Type} (s : String) (f : String → Checked α) : Checked α :=
  if Text.isEncodable s.toList then f s else problem .brokenText

/-- A text. -/
def checkText : Json → Checked String
  | .text s => valid s
  | _ => problem .notText

/-- A text without its underscores, unless one stands at an end or two stand together. -/
def dropUnderscores? (cs : List Char) : Option (List Char) :=
  let parts := Text.splitOn '_' cs
  if parts.any List.isEmpty && parts.length ≠ 1 then none else some parts.flatten

/-- The whole number that ASCII digits behind an optional minus sign write; only zero itself may
start with a zero. -/
def wholeNumber (cs : List Char) : Checked Int :=
  let (negative, ds) := match cs with
    | '-' :: ds => (true, ds)
    | ds => (false, ds)
  match ds with
  | ['0'] => valid 0
  | '1' :: _ | '2' :: _ | '3' :: _ | '4' :: _ | '5' :: _
  | '6' :: _ | '7' :: _ | '8' :: _ | '9' :: _ =>
    if Decimal.maxDigits < (ds.takeWhile Char.isDigit).length then problem .tooLargeInt
    else if ds.all Char.isDigit then
      let n : Int := Text.ofDigits (ds.map fun c => c.toNat - 0x30)
      valid (if negative then -n else n)
    else problem .noInt
  | _ => problem .noInt

/-- A text without the zeros at its start, among which underscores may stand; a zero before a point
and the last of all stay. -/
def dropLeadingZeros? (cs : List Char) : Option (List Char) :=
  match cs with
  | [] => none
  | c :: rest =>
    if c = '-' ∨ ('1' ≤ c ∧ c ≤ '9') then some cs
    else if c = '0' then behindZeros c rest
    else none
where
  /-- The text behind zeros and underscores, of which `last` is the last. -/
  behindZeros (last : Char) : List Char → Option (List Char)
    | [] => some [last]
    | c :: cs =>
      if c = '0' ∨ c = '_' then behindZeros c cs
      else if c = '-' ∨ ('1' ≤ c ∧ c ≤ '9') then some (c :: cs)
      else if c = '.' then some (last :: c :: cs)
      else none

/-- A text without a point behind which zeros and nothing else follow. -/
def dropZeroPlaces (cs : List Char) : List Char :=
  match Text.cut? '.' cs with
  | some (whole, '0' :: zeros) => if zeros.all (· = '0') then whole else cs
  | _ => cs

/-- The minus sign at the start of a text, and the text behind its sign; no minus sign follows a
plus sign. -/
def cutSign? : List Char → Option (List Char × List Char)
  | '-' :: cs => some (['-'], cs)
  | '+' :: '-' :: _ => none
  | '+' :: cs => some ([], cs)
  | cs => some ([], cs)

/-- A whole number in plain form: without white space around it, a plus sign, needless zeros or
underscores. -/
def plainNumber? (cs : List Char) : Option (List Char) := do
  let (sign, cs) ← cutSign? (Text.strip Text.isWhiteSpace cs)
  let cs ← dropLeadingZeros? cs
  let cs := dropZeroPlaces cs
  some (sign ++ (dropUnderscores? cs).getD cs)

/-- Whole numbers below this one in size have a word of 64 bits. -/
def wordBound : Int := 9223372036854775808

/-- Whether a whole number has a word of 64 bits. -/
def fitsWord (n : Int) : Bool :=
  -wordBound ≤ n && n < wordBound

/-- A whole number as a double. -/
def wholeOfFloat (x : Float) : Checked Int :=
  match Decimal.Dyadic.ofFloat? x with
  | none => problem .notFinite
  | some d =>
    if x != Decimal.ofFixed d.truncate 0 then problem .fractional
    else if d.truncate.natAbs < wordBound then valid d.truncate
    else problem .tooLargeInt

/-- A whole number. -/
def checkInt : Json → Checked Int
  | .bool b => valid (if b then 1 else 0)
  | .int n => valid n
  | .real x => wholeOfFloat x
  | .text s => withText s fun s =>
    match wholeNumber s.toList with
    | .invalid [⟨_, .noInt⟩] =>
      match (plainNumber? s.toList).map wholeNumber with
      | some (.valid n) => valid n
      | _ => problem .noInt
    | outcome => outcome
  | _ => problem .notInt

/-- An ASCII decimal with an optional sign and an optional exponent, or a name of infinity or
NaN. -/
def decimalNumber? (cs : List Char) : Option Float :=
  let (negative, cs) := Decimal.takeSign cs
  if cs.all fun c => c.toNat < 0x80 then
    ((Decimal.named? cs).orElse fun _ => Decimal.unsigned? cs).map fun x =>
      if negative then -x else x
  else none

/-- A double. -/
def checkFloat : Json → Checked Float
  | .bool b => valid (if b then 1.0 else 0.0)
  | .int n => ((Decimal.ofInt? n).map valid).getD (problem .notFloat)
  | .real x => valid x
  | .text s => withText s fun s =>
    match decimalNumber? (Text.strip Text.isWhiteSpace s.toList) with
    | some x => valid x
    | none => (((dropUnderscores? s.toList).bind decimalNumber?).map valid).getD (problem .noFloat)
  | _ => problem .notFloat

/-- The words for true. -/
def trueWords : List String := ["1", "t", "true", "y", "yes", "on"]

/-- The words for false. -/
def falseWords : List String := ["0", "f", "false", "n", "no", "off"]

/-- A truth value. -/
def checkBool : Json → Checked Bool
  | .bool b => valid b
  | .int n =>
    if n = 0 then valid false
    else if n = 1 then valid true
    else if fitsWord n then problem .noBool
    else problem .notBool
  | .real x =>
    match wholeOfFloat x with
    | valid n => if n = 0 then valid false else if n = 1 then valid true else problem .noBool
    | _ => problem .notBool
  | .text s => withText s fun s =>
    let word := String.ofList (s.toList.map Char.toLower)
    if trueWords.contains word then valid true
    else if falseWords.contains word then valid false
    else problem .noBool
  | _ => problem .notBool

/-- A value or null. -/
def orNull {α : Type} (f : Json → Checked α) : Json → Checked (Option α)
  | .null => valid none
  | v => (f v).map some

/-- A span that may be too long or not written at all. -/
def spanOutcome : Option (Except Time.SpanFault Time.Span) → Checked Time.Span
  | some (.ok s) => valid s
  | some (.error fault) => crashed (.span fault)
  | none => problem .noSpan

/-- A span: a number of seconds, a duration in number and unit, or a period. -/
def checkSpan : Json → Checked Time.Span
  | .bool b => spanOutcome (Time.Period.ofSeconds? (if b then 1 else 0))
  | .int n =>
    if fitsWord n then spanOutcome (Time.Period.ofSeconds? n)
    else
      match Decimal.ofInt? n with
      | some x => spanOutcome (Time.Period.ofFloat? x)
      | none => problem .notSpan
  | .real x => spanOutcome (Time.Period.ofFloat? x)
  | .text s =>
    match Time.Duration.parse s with
    | .ok span => valid span
    | .error (.span fault) => crashed (.span fault)
    | .error _ => withText s fun s => spanOutcome (Time.Period.parse? s)
  | _ => problem .notSpan

end MetricRelay.Settings
