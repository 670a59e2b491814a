/-
The exact value of a double.

`Dyadic.ofFloat?` reads sign, mantissa and exponent off the bits, so that a finite double is the
number `± mantissa · 2 ^ exponent`; everything that needs more than one rounded operation on doubles
starts from there and computes in whole numbers.
-/
namespace MetricRelay.Decimal

/-- The number `mantissa · 2 ^ exponent`, negated if `negative`. -/
structure Dyadic where
  negative : Bool
  mantissa : Nat
  exponent : Int
deriving DecidableEq, Repr

/-- The bit that stands before the 52 stored bits of a mantissa. -/
def leadingBit : Nat := Nat.pow 2 52

/-- The sign of a double is the bit of this value. -/
def signBit : Nat := Nat.pow 2 63

namespace Dyadic

/-- The value of a finite double; `none` for infinities and NaN. -/
def ofFloat? (x : Float) : Option Dyadic :=
  let bits : Nat := x.toBits.toNat
  let negative := bits / signBit == 1
  let field : Nat := bits / leadingBit % 2048
  let fraction : Nat := bits % leadingBit
  if field = 0x7ff then none
  else if field = 0 then some ⟨negative, fraction, -1074⟩
  else some ⟨negative, leadingBit + fraction, (field : Int) - 1075⟩

/-- The value of a whole number. -/
def ofInt (n : Int) : Dyadic :=
  ⟨n < 0, n.natAbs, 0⟩

/-- The number divided by `2 ^ e`, for exponents that are at least `e`. -/
def scaled (d : Dyadic) (e : Int) : Int :=
  let size : Int := d.mantissa * Nat.pow 2 (d.exponent - e).toNat
  if d.negative then -size else size

/-- Whether the number is at most another one. -/
def isAtMost (d e : Dyadic) : Bool :=
  let least := min d.exponent e.exponent
  d.scaled least ≤ e.scaled least

/-- The whole part, rounded toward zero. -/
def truncate (d : Dyadic) : Int :=
  let size := if 0 ≤ d.exponent then d.mantissa * Nat.pow 2 d.exponent.toNat
    else d.mantissa / Nat.pow 2 (-d.exponent).toNat
  if d.negative then -(size : Int) else size

/-- The nearest whole number, a half going to the even one. -/
def roundEven (d : Dyadic) : Int :=
  let size :=
    if 0 ≤ d.exponent then d.mantissa * Nat.pow 2 d.exponent.toNat
    else
      let unit := Nat.pow 2 (-d.exponent).toNat
      let whole := d.mantissa / unit
      let rest := 2 * (d.mantissa % unit)
      if rest < unit || (rest == unit && whole % 2 == 0) then whole else whole + 1
  if d.negative then -(size : Int) else size

/-- The size of the number rounded to the nearest whole number, a half going up. -/
def roundUp (d : Dyadic) : Nat :=
  if 0 ≤ d.exponent then d.mantissa * Nat.pow 2 d.exponent.toNat
  else
    let unit := Nat.pow 2 (-d.exponent).toNat
    (2 * d.mantissa + unit) / (2 * unit)

end Dyadic

/-- Positive infinity. -/
def infinity : Float := 1.0 / 0.0

/-- The sign bit of a double, which also negative zero has. -/
def isNegative (x : Float) : Bool :=
  x.toBits.toNat / signBit == 1

/-- A finite double rounded toward zero. -/
def truncate? (x : Float) : Option Int :=
  (Dyadic.ofFloat? x).map Dyadic.truncate

/-- The whole number nearest to a finite double, a half going to the even one. -/
def roundEven? (x : Float) : Option Int :=
  (Dyadic.ofFloat? x).map Dyadic.roundEven

/-- The double nearest to `mantissa · 10 ^ exponent`.  Exponents far outside the range of doubles
are settled by the number of digits, before any power is computed. -/
def nearest (mantissa : Nat) (digits : Nat) (exponent : Int) : Float :=
  if mantissa = 0 then 0.0
  else if 320 < exponent + digits then infinity
  else if exponent + digits < -400 then 0.0
  else Float.ofScientific mantissa (exponent < 0) exponent.natAbs

/-- The double nearest to `numerator / 10 ^ places`. -/
def ofFixed (numerator : Int) (places : Nat) : Float :=
  let size := Float.ofScientific numerator.natAbs true places
  if numerator < 0 then -size else size

/-- The double nearest to an integer; `none` when every double of that size is infinite. -/
def ofInt? (n : Int) : Option Float :=
  let x := ofFixed n 0
  if x.isInf then none else some x

end MetricRelay.Decimal
