/-
Texts as bytes in UTF-8.

`toUtf8` writes each code point in one to four bytes.  `ofUtf8` reads any bytes: the longest start
of a character that nothing completes becomes one replacement character, and so does every byte that
starts none.
-/
import MetricRelay.Text.Surrogate

namespace MetricRelay.Text

/-- The bytes of a code point. -/
def utf8Of (n : Nat) : List Nat :=
  if n < 0x80 then [n]
  else if n < 0x800 then [0xc0 + n / 0x40, 0x80 + n % 0x40]
  else if n < 0x10000 then [0xe0 + n / 0x1000, 0x80 + n / 0x40 % 0x40, 0x80 + n % 0x40]
  else [0xf0 + n / 0x40000, 0x80 + n / 0x1000 % 0x40, 0x80 + n / 0x40 % 0x40, 0x80 + n % 0x40]

/-- The bytes of a text. -/
def toUtf8 (cs : List Char) : List Nat :=
  (codes cs).flatMap utf8Of

/-- What a first byte announces: its part of the code point, how many bytes follow, and the bounds
of the next one. -/
structure Announced where
  value : Nat
  following : Nat
  lower : Nat := 0x80
  upper : Nat := 0xbf

/-- What a byte announces, if a character can start with it. -/
def announced? (b : Nat) : Option Announced :=
  if b < 0x80 then some { value := b, following := 0 }
  else if 0xc2 ≤ b ∧ b ≤ 0xdf then some { value := b - 0xc0, following := 1 }
  else if b = 0xe0 then some { value := 0, following := 2, lower := 0xa0 }
  else if b = 0xed then some { value := 0xd, following := 2, upper := 0x9f }
  else if 0xe1 ≤ b ∧ b ≤ 0xef then some { value := b - 0xe0, following := 2 }
  else if b = 0xf0 then some { value := 0, following := 3, lower := 0x90 }
  else if 0xf1 ≤ b ∧ b ≤ 0xf3 then some { value := b - 0xf0, following := 3 }
  else if b = 0xf4 then some { value := 4, following := 3, upper := 0x8f }
  else none

/-- The code point that stands for bytes that are no character. -/
def replacement : Nat := 0xfffd

/-- The code points that bytes write, while some bytes of a character are still expected. -/
def readUtf8 : Option Announced → List Nat → List Nat
  | none, [] => []
  | some _, [] => [replacement]
  | none, b :: bs =>
    match announced? b with
    | none => replacement :: readUtf8 none bs
    | some a =>
      if a.following = 0 then a.value :: readUtf8 none bs else readUtf8 (some a) bs
  | some a, b :: bs =>
    if a.lower ≤ b ∧ b ≤ a.upper then
      let value := a.value * 0x40 + (b - 0x80)
      if a.following = 1 then value :: readUtf8 none bs
      else readUtf8 (some { value, following := a.following - 1 }) bs
    else
      replacement ::
        match announced? b with
        | none => replacement :: readUtf8 none bs
        | some a =>
          if a.following = 0 then a.value :: readUtf8 none bs else readUtf8 (some a) bs

/-- The text that bytes write. -/
def ofUtf8 (bs : List Nat) : List Char :=
  ofCodes (readUtf8 none bs)

end MetricRelay.Text
