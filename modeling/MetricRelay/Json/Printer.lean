/-
Printing JSON values.

`render` writes JSON in ASCII on one line, with a space after each comma and colon; code points that
ASCII cannot print are escaped by their code units.  `shown` is the form in which messages show a
value, `formatted` the same for all values but texts, which stand for themselves.
-/
import MetricRelay.Decimal.Style
import MetricRelay.Json.Basic
import MetricRelay.Text.Quoted
import MetricRelay.Text.Split
import MetricRelay.Text.Surrogate

namespace MetricRelay.Json

/-- The escape of a code unit by its number. -/
def escapeUnit (u : Nat) : List Char :=
  '\x5c' :: 'u' :: Text.hex 4 u

/-- One code point inside a JSON text. -/
def escapeCode (n : Nat) : List Char :=
  if n = 0x22 ∨ n = 0x5c then ['\x5c', Char.ofNat n]
  else if n = 0xa then ['\x5c', 'n']
  else if n = 0xd then ['\x5c', 'r']
  else if n = 0x9 then ['\x5c', 't']
  else if n = 0x8 then ['\x5c', 'b']
  else if n = 0xc then ['\x5c', 'f']
  else if 0x20 ≤ n ∧ n < 0x7f then [Char.ofNat n]
  else if n < 0x10000 then escapeUnit n
  else
    let (u, v) := Text.toPair n
    escapeUnit u ++ escapeUnit v

/-- A text between quotes. -/
def renderText (s : String) : List Char :=
  '\x22' :: (Text.codes s.toList).flatMap escapeCode ++ ['\x22']

/-- A whole number. -/
def renderInt (n : Int) : List Char :=
  if n < 0 then '-' :: Text.decimal n.natAbs else Text.decimal n.natAbs

mutual

/-- The JSON text of a value. -/
def renderChars : Json → List Char
  | null => "null".toList
  | bool true => "true".toList
  | bool false => "false".toList
  | int n => renderInt n
  | real x => (Decimal.scripted.render x).toList
  | text s => renderText s
  | list items => '[' :: renderItems items ++ [']']
  | object members => '\x7b' :: renderMembers members ++ ['\x7d']

/-- The texts of items with a comma and a space between each two. -/
def renderItems : List Json → List Char
  | [] => []
  | [v] => renderChars v
  | v :: w :: vs => renderChars v ++ ',' :: ' ' :: renderItems (w :: vs)

/-- The texts of members with a comma and a space between each two. -/
def renderMembers : List (String × Json) → List Char
  | [] => []
  | [(k, v)] => renderText k ++ ':' :: ' ' :: renderChars v
  | (k, v) :: m :: ms =>
    renderText k ++ ':' :: ' ' :: renderChars v ++ ',' :: ' ' :: renderMembers (m :: ms)

end

/-- The JSON text of a value. -/
def render (v : Json) : String :=
  String.ofList (renderChars v)

mutual

/-- A value as messages show it. -/
def shownChars : Json → List Char
  | null => "None".toList
  | bool true => "True".toList
  | bool false => "False".toList
  | int n => renderInt n
  | real x => (Decimal.plain.render x).toList
  | text s => (Text.quoted s).toList
  | list items => '[' :: shownItems items ++ [']']
  | object members => '\x7b' :: shownMembers members ++ ['\x7d']

/-- Items as messages show them. -/
def shownItems : List Json → List Char
  | [] => []
  | [v] => shownChars v
  | v :: w :: vs => shownChars v ++ ',' :: ' ' :: shownItems (w :: vs)

/-- Members as messages show them. -/
def shownMembers : List (String × Json) → List Char
  | [] => []
  | [(k, v)] => (Text.quoted k).toList ++ ':' :: ' ' :: shownChars v
  | (k, v) :: m :: ms =>
    (Text.quoted k).toList ++ ':' :: ' ' :: shownChars v ++ ',' :: ' ' :: shownMembers (m :: ms)

end

/-- A value as messages show it. -/
def shown (v : Json) : String :=
  String.ofList (shownChars v)

/-- A value inside a text. -/
def formatted : Json → String
  | text s => s
  | v => v.shown

end MetricRelay.Json
