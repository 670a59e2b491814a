/-
Texts of doubles.

A `Style` holds a format's decisions: how infinities and NaN are spelled, from which exponent down
and up a number is written with an exponent, and whether a whole number keeps its point.  Two styles
are in use: `plain` for values, and `exposed` for bucket bounds and exposition lines.
-/
import MetricRelay.Decimal.Shortest

namespace MetricRelay.Decimal

/-- What a format decides about the text of a double. -/
structure Style where
  /-- Text of positive infinity. -/
  infinity : String
  /-- Text of negative infinity. -/
  minusInfinity : String
  /-- Text of NaN. -/
  nan : String
  /-- Positive numbers with a scientific exponent from -4 up to this one, exclusively, are written
  positionally. -/
  positionalBelow : Int
  /-- The same limit for negative numbers. -/
  negativePositionalBelow : Int

/-- Values: positional below 10 ^ 16. -/
def plain : Style := ⟨"inf", "-inf", "nan", 16, 16⟩

/-- Bucket bounds and exposition lines: positive numbers switch to an exponent at 10 ^ 6. -/
def exposed : Style := ⟨"+Inf", "-Inf", "NaN", 6, 16⟩

/-- JSON texts: as `plain`, with the JSON extensions for what is not a number. -/
def scripted : Style := ⟨"Infinity", "-Infinity", "NaN", 16, 16⟩

/-- Digits with a point inside, before or after them; a whole number ends in `.0`. -/
def positional (digits : List Char) (exponent : Int) : List Char :=
  let point := (digits.length : Int) + exponent
  if point ≤ 0 then '0' :: '.' :: (List.replicate (-point).toNat '0' ++ digits)
  else if 0 ≤ exponent then digits ++ List.replicate exponent.toNat '0' ++ ['.', '0']
  else digits.take point.toNat ++ '.' :: digits.drop point.toNat

/-- First digit, point, further digits if there are any, and an exponent with its sign and at least
two digits. -/
def scientific (digits : List Char) (exponent : Int) : List Char :=
  let mantissa := match digits with
    | [] => []
    | [d] => [d]
    | d :: ds => d :: '.' :: ds
  mantissa ++ 'e' :: (if exponent < 0 then '-' else '+') :: Text.padded 2 exponent.natAbs

/-- The text of a decimal in a style. -/
def Scientific.render (style : Style) (negative : Bool) (s : Scientific) : List Char :=
  let digits := Text.decimal s.coefficient
  let exponent := s.exponent + digits.length - 1
  let limit := if negative then style.negativePositionalBelow else style.positionalBelow
  let body := if -4 ≤ exponent ∧ exponent < limit then positional digits s.exponent
    else scientific digits exponent
  if negative then '-' :: body else body

/-- The text of a double in a style. -/
def Style.render (style : Style) (x : Float) : String :=
  match Dyadic.ofFloat? x with
  | none =>
    if x.isNaN then style.nan
    else if isNegative x then style.minusInfinity else style.infinity
  | some d =>
    if d.mantissa = 0 then (if d.negative then "-0.0" else "0.0")
    else String.ofList ((shortest d).render style d.negative)

end MetricRelay.Decimal
