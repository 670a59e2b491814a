/-
Numerals as people write them.

White space around a numeral is skipped, a sign may come first, digits may be of any script, and one
underscore may stand between two digits.  `integer?` reads whole numbers, up to a fixed count of
digits; `real?` reads decimals with an optional exponent and the names of infinity and NaN.
-/
import MetricRelay.Decimal.Binary
import MetricRelay.Text.Blank
import MetricRelay.Text.Case
import MetricRelay.Text.Digit

namespace MetricRelay.Decimal

/-- The most digits a whole number may have. -/
def maxDigits : Nat := 4300

/-- The text without the underscores that stand between two digits; any other underscore refuses
it.  The flag tells whether the character before was a digit. -/
def joinDigits? : Bool → List Char → Option (List Char)
  | _, [] => some []
  | digitBefore, c :: cs =>
    if c = '_' then
      if digitBefore && cs.head?.any Text.isDecimal then joinDigits? false cs else none
    else (joinDigits? (Text.isDecimal c) cs).map (c :: ·)

/-- The values of the digits at the start of a text, and the rest of the text. -/
def spanDigits : List Char → List Nat × List Char
  | [] => ([], [])
  | c :: cs =>
    match Text.digitValue? c with
    | none => ([], c :: cs)
    | some d => let (ds, rest) := spanDigits cs; (d :: ds, rest)

/-- Whether a minus sign comes first, and the text after an optional sign. -/
def takeSign : List Char → Bool × List Char
  | '-' :: cs => (true, cs)
  | '+' :: cs => (false, cs)
  | cs => (false, cs)

/-- The whole number that a text writes. -/
def integer? (s : List Char) : Option Int := do
  let (negative, cs) := takeSign (Text.strip Text.isWhiteSpace s)
  let cs ← joinDigits? false cs
  match spanDigits cs with
  | ([], _) | (_, _ :: _) => none
  | (ds, []) =>
    if maxDigits < ds.length then none
    else some (if negative then -(Text.ofDigits ds : Int) else Text.ofDigits ds)

/-- The exponent at the end of a decimal, zero if there is none. -/
def exponent? : List Char → Option Int
  | [] => some 0
  | c :: cs =>
    if c = 'e' ∨ c = 'E' then
      let (negative, cs) := takeSign cs
      match spanDigits cs with
      | ([], _) | (_, _ :: _) => none
      | (ds, []) => some (if negative then -(Text.ofDigits ds : Int) else Text.ofDigits ds)
    else none

/-- The double nearest to an unsigned decimal: digits with an optional point among or around them
and an optional exponent. -/
def unsigned? (cs : List Char) : Option Float :=
  let (whole, rest) := spanDigits cs
  let (fraction, rest) := match rest with
    | '.' :: rest => spanDigits rest
    | rest => ([], rest)
  if whole.isEmpty && fraction.isEmpty then none
  else (exponent? rest).map fun e =>
    let ds := (whole ++ fraction).dropWhile (· == 0)
    nearest (Text.ofDigits ds) ds.length (e - fraction.length)

/-- The names of what is no finite number, in lower case. -/
def named? (cs : List Char) : Option Float :=
  let name := String.ofList (cs.map Char.toLower)
  if name = "inf" ∨ name = "infinity" then some infinity
  else if name = "nan" then some (0.0 / 0.0)
  else none

/-- The double that a text writes. -/
def real? (s : List Char) : Option Float := do
  let cs ← joinDigits? false (Text.strip Text.isWhiteSpace s)
  let (negative, cs) := takeSign cs
  let x ← (named? cs).orElse fun _ => unsigned? cs
  some (if negative then -x else x)

end MetricRelay.Decimal
