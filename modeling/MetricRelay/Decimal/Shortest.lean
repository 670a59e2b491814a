/-
The shortest decimal that reads back as a given double.

For one digit, two digits and so on, the two neighbours of the value on that decimal grid are tested
against the interval of reals that round to the double; the first grid with a hit wins, of two hits
the nearer, and an exact tie goes to the even digit.  The interval contains its ends exactly when
the mantissa is even, and its lower half is halved where the spacing of doubles changes.
-/
import MetricRelay.Decimal.Binary
import MetricRelay.Text.Digit

namespace MetricRelay.Decimal

/-- The number `coefficient · 10 ^ exponent`. -/
structure Scientific where
  coefficient : Nat
  exponent : Int
deriving DecidableEq, Repr

/-- A positive value and its rounding interval, in quarters of a unit of the mantissa times
`2 ^ exponent`. -/
structure Interval where
  value : Nat
  lower : Nat
  upper : Nat
  closed : Bool
  exponent : Int

/-- The reals that round to a positive double. -/
def Interval.ofDyadic (d : Dyadic) : Interval where
  value := 4 * d.mantissa
  lower :=
    if d.mantissa = leadingBit ∧ -1074 < d.exponent then 4 * d.mantissa - 1 else 4 * d.mantissa - 2
  upper := 4 * d.mantissa + 2
  closed := d.mantissa % 2 = 0
  exponent := d.exponent - 2

/-- Factors that turn quarter units (left) and steps of `10 ^ grid` (right) into one common unit. -/
def Interval.scales (i : Interval) (grid : Int) : Nat × Nat :=
  (Nat.pow 2 i.exponent.toNat * Nat.pow 10 (-grid).toNat,
   Nat.pow 2 (-i.exponent).toNat * Nat.pow 10 grid.toNat)

/-- Whether `c · 10 ^ grid` rounds to the double. -/
def Interval.holds (i : Interval) (grid : Int) (c : Nat) : Bool :=
  let (quarter, step) := i.scales grid
  let x := c * step
  if i.closed then i.lower * quarter ≤ x && x ≤ i.upper * quarter
  else i.lower * quarter < x && x < i.upper * quarter

/-- The better of the value's two neighbours on a decimal grid, if one of them rounds to the
double. -/
def Interval.hit? (i : Interval) (grid : Int) : Option Nat :=
  let (quarter, step) := i.scales grid
  let x := i.value * quarter
  let below := x / step
  let above := below + 1
  match i.holds grid below, i.holds grid above with
  | true, true =>
    let down := x - below * step
    let up := above * step - x
    if down < up || (down == up && below % 2 == 0) then some below else some above
  | true, false => some below
  | false, true => some above
  | false, false => none

/-- The exponent `k` with `10 ^ (k - 1) ≤ value < 10 ^ k`. -/
def Interval.magnitude (i : Interval) : Int :=
  let (quarter, step) := i.scales (-400)
  ((Text.digitsOf (i.value * quarter / step)).length : Int) - 400

/-- A coefficient without trailing zeros; `fuel` bounds how many are dropped. -/
def Scientific.strip : Nat → Scientific → Scientific
  | 0, s => s
  | fuel + 1, s =>
    if s.coefficient % 10 = 0 ∧ s.coefficient ≠ 0 then
      strip fuel ⟨s.coefficient / 10, s.exponent + 1⟩
    else s

/-- The shortest decimal that reads back as a positive double. -/
def shortest (d : Dyadic) : Scientific :=
  let i := Interval.ofDyadic d
  let k := i.magnitude
  let found := (List.range 17).findSome? fun n =>
    let grid := k - (n + 1 : Nat)
    (i.hit? grid).map fun c => (⟨c, grid⟩ : Scientific)
  (found.getD ⟨0, 0⟩).strip 20

end MetricRelay.Decimal
