/-
JSON values.

Objects keep the order of their members.  Whole numbers and other numbers are kept apart, so that a
whole number of any size stays exact.
-/
namespace MetricRelay

/-- A JSON value. -/
inductive Json where
  | null
  | bool (b : Bool)
  | int (n : Int)
  | real (x : Float)
  | text (s : String)
  | list (items : List Json)
  | object (members : List (String × Json))
deriving Inhabited

namespace Json

/-- Null, false, zero, and the empty text, list and object. -/
def isVacant : Json → Bool
  | null => true
  | bool b => !b
  | int n => n == 0
  | real x => x == 0.0
  | text s => s.isEmpty
  | list items => items.isEmpty
  | object members => members.isEmpty

/-- The value of an object's member. -/
def member? (members : List (String × Json)) (key : String) : Option Json :=
  members.lookup key

end Json

end MetricRelay
