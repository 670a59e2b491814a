/-
JSON as bytes.

The encoding of a JSON text shows in its first bytes, because a text starts with ASCII characters:
zeros among them tell how many bytes a code unit has and in which order they come.  A byte order
mark may open a text in UTF-8.  A value can be written as bytes if all its texts can, and strictly
if no number in it is infinite or NaN.
-/
import MetricRelay.Json.Basic
import MetricRelay.Text.Surrogate
import MetricRelay.Text.Utf8

namespace MetricRelay.Json

mutual

/-- Whether all texts in a value can be written as bytes. -/
def isEncodable : Json → Bool
  | text s => Text.isEncodable s.toList
  | list items => areEncodable items
  | object members => membersAreEncodable members
  | null | bool _ | int _ | real _ => true

/-- Whether all texts in some values can be written as bytes. -/
def areEncodable : List Json → Bool
  | [] => true
  | v :: vs => isEncodable v && areEncodable vs

/-- Whether the names of members and all texts in their values can be written as bytes. -/
def membersAreEncodable : List (String × Json) → Bool
  | [] => true
  | (k, v) :: ms => Text.isEncodable k.toList && isEncodable v && membersAreEncodable ms

end

mutual

/-- Whether no number in a value is infinite or NaN. -/
def isFinite : Json → Bool
  | real x => x.isFinite
  | list items => areFinite items
  | object members => membersAreFinite members
  | null | bool _ | int _ | text _ => true

/-- Whether no number in some values is infinite or NaN. -/
def areFinite : List Json → Bool
  | [] => true
  | v :: vs => isFinite v && areFinite vs

/-- Whether no number in the values of members is infinite or NaN. -/
def membersAreFinite : List (String × Json) → Bool
  | [] => true
  | (_, v) :: ms => isFinite v && membersAreFinite ms

end

/-- How a text is written as bytes. -/
inductive Encoding where
  | utf8
  | utf16 (littleEndian : Bool)
  | utf32 (littleEndian : Bool)
deriving DecidableEq, Repr

/-- The encoding that the first bytes show. -/
def Encoding.ofBytes : List Nat → Encoding
  | [a, b] => if a = 0 then .utf16 false else if b = 0 then .utf16 true else .utf8
  | a :: b :: c :: d :: _ =>
    if a = 0 then (if b = 0 then .utf32 false else .utf16 false)
    else if b = 0 then (if c = 0 && d = 0 then .utf32 true else .utf16 true)
    else .utf8
  | _ => .utf8

/-- Code units as code points, pairs of surrogates joined. -/
def joinUnits : List Nat → List Nat
  | u :: v :: us =>
    if Text.isLeading u && Text.isTrailing v then Text.ofPair u v :: joinUnits us
    else u :: joinUnits (v :: us)
  | us => us

/-- The code units of two bytes each. -/
def units16? (littleEndian : Bool) : List Nat → Option (List Nat)
  | [] => some []
  | a :: b :: bs =>
    (units16? littleEndian bs).map ((if littleEndian then a + 256 * b else 256 * a + b) :: ·)
  | _ => none

/-- The code points of four bytes each. -/
def points32? (littleEndian : Bool) : List Nat → Option (List Nat)
  | [] => some []
  | a :: b :: c :: d :: bs => do
    let n := if littleEndian then a + 256 * (b + 256 * (c + 256 * d))
      else d + 256 * (c + 256 * (b + 256 * a))
    let rest ← points32? littleEndian bs
    if n < 0x110000 then some (n :: rest) else none
  | _ => none

/-- The text that bytes write, if their encoding is kept to the end. -/
def textOfBytes? (bs : List Nat) : Option (List Char) :=
  match Encoding.ofBytes bs with
  | .utf16 littleEndian => (units16? littleEndian bs).map fun us => Text.ofCodes (joinUnits us)
  | .utf32 littleEndian => (points32? littleEndian bs).map Text.ofCodes
  | .utf8 =>
    match Text.ofUtf8 bs with
    | '\ufeff' :: cs => some cs
    | cs => some cs

end MetricRelay.Json
