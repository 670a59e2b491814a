/-
Sets of characters given by ranges of code points.

A property of characters is a list of closed intervals in ascending order; `Ranges.contains` asks
whether a code point lies in one of them.
-/
namespace MetricRelay.Text

/-- A set of code points as closed intervals, in ascending order. -/
abbrev Ranges := List (Nat × Nat)

/-- Whether some interval holds the code point; none behind one that starts later does. -/
def Ranges.contains : Ranges → Nat → Bool
  | [], _ => false
  | i :: r, n => i.1 ≤ n && (n ≤ i.2 || contains r n)

end MetricRelay.Text
