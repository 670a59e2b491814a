/-
Values as names.

A value names something by what it is equal to: truth values are the numbers one and zero, and a
number is the same name however it is written.  Lists and objects name nothing.
-/
import MetricRelay.Decimal.Style
import MetricRelay.Json.Basic

namespace MetricRelay.Json

/-- What a value names. -/
inductive Key where
  | null
  | number (n : Int)
  /-- A number that is not whole, by its text. -/
  | real (text : String)
  | text (s : String)
deriving DecidableEq, Repr

/-- The name that a double is. -/
def realKey (x : Float) : Key :=
  match Decimal.truncate? x with
  | some n => if Decimal.ofFixed n 0 == x then .number n else .real (Decimal.plain.render x)
  | none => .real (Decimal.plain.render x)

/-- The name that a value is, if it can be one. -/
def key? : Json → Option Key
  | null => some .null
  | bool b => some (.number (if b then 1 else 0))
  | int n => some (.number n)
  | real x => some (realKey x)
  | text s => some (.text s)
  | list _ | object _ => none

/-- Whether a value is a number; truth values are. -/
def isNumber : Json → Bool
  | bool _ | int _ | real _ => true
  | _ => false

/-- The exact value of a finite number. -/
def dyadic? : Json → Option Decimal.Dyadic
  | bool b => some (.ofInt (if b then 1 else 0))
  | int n => some (.ofInt n)
  | real x => Decimal.Dyadic.ofFloat? x
  | _ => none

/-- Whether a number is at most another one; NaN has no order. -/
def isAtMost (v w : Json) : Bool :=
  match v.dyadic?, w.dyadic?, v, w with
  | some a, some b, _, _ => a.isAtMost b
  | none, _, real x, _ => x < 0.0
  | _, none, _, real y => 0.0 < y
  | _, _, _, _ => false

end MetricRelay.Json
