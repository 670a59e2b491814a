/-
Percent escapes: bytes written as a percent sign and two hexadecimal digits.

`encode` escapes every character outside a set by its bytes in UTF-8 and leaves escapes as they are;
`decode` resolves the escapes, whose bytes are read as UTF-8.
-/
import MetricRelay.Text.Digit
import MetricRelay.Text.Quoted
import MetricRelay.Text.Utf8

namespace MetricRelay.Web

/-- The byte that two hexadecimal digits write. -/
def byte? (a b : Char) : Option Nat := do
  let a ← Text.hexValue? a
  let b ← Text.hexValue? b
  some (a * 16 + b)

/-- Characters that no part of an address has to escape. -/
def isUnreserved (c : Char) : Bool :=
  c.isAlphanum || "-._~".toList.contains c

/-- The escape of a byte. -/
def escapeByte (b : Nat) : List Char :=
  '%' :: (Text.hex 2 b).map Char.toUpper

/-- Characters in which those outside a set are escaped; escapes stay. -/
def escapeOutside (allowed : Char → Bool) : List Char → List Char
  | [] => []
  | c :: cs =>
    match c, cs with
    | '%', a :: b :: rest =>
      if (byte? a b).isSome then '%' :: a :: b :: escapeOutside allowed rest
      else escapeOf c ++ escapeOutside allowed (a :: b :: rest)
    | c, cs => escapeOf c ++ escapeOutside allowed cs
where
  escapeOf (c : Char) : List Char :=
    if isUnreserved c || allowed c then [c] else (Text.utf8Of c.toNat).flatMap escapeByte

/-- A text in which the characters outside a set are escaped; escapes stay. -/
def percentEncode (allowed : Char → Bool) (cs : List Char) : List Char :=
  escapeOutside allowed (Text.characters cs)

/-- The length of a text as part of a query made of names and values: a space takes one character,
and every other character outside the unreserved ones an escape for each byte. -/
def formLength (cs : List Char) : Nat :=
  (Text.characters cs).foldr
    (fun c n => n + if isUnreserved c || c = ' ' then 1 else 3 * (Text.utf8Of c.toNat).length) 0

/-- The bytes of characters whose escapes are resolved. -/
def percentBytes : List Char → List Nat
  | '%' :: a :: b :: cs =>
    match byte? a b with
    | some n => n :: percentBytes cs
    | none => 0x25 :: percentBytes (a :: b :: cs)
  | c :: cs => Text.utf8Of c.toNat ++ percentBytes cs
  | [] => []

/-- A text with its escapes resolved. -/
def percentDecode (cs : List Char) : List Char :=
  Text.ofUtf8 (percentBytes (Text.characters cs))

end MetricRelay.Web
