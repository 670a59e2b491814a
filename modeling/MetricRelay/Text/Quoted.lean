/-
Quoted texts, as messages show them.

The quotation mark is an apostrophe, unless the text holds an apostrophe and no double quote.  The
mark and the backslash are escaped, line feed, carriage return and tab have short escapes, and every
other code point that cannot be printed is written in two, four or eight hexadecimal digits.
-/
import MetricRelay.Text.Printable
import MetricRelay.Text.Surrogate

namespace MetricRelay.Text

/-- The digit of a number below sixteen, in lower case. -/
def hexDigit (d : Nat) : Char :=
  if d < 10 then Char.ofNat (0x30 + d) else Char.ofNat (0x57 + d)

/-- The last `width` hexadecimal digits of a number. -/
def hex : Nat → Nat → List Char
  | 0, _ => []
  | width + 1, n => hex width (n / 16) ++ [hexDigit (n % 16)]

/-- The character U+0027. -/
def apostrophe : Char := Char.ofNat 0x27

/-- The character U+0022. -/
def doubleQuote : Char := Char.ofNat 0x22

/-- The character U+005C. -/
def backslash : Char := Char.ofNat 0x5c

/-- The mark that surrounds a quoted text. -/
def quotationMark (cs : List Char) : Char :=
  if cs.contains apostrophe && !cs.contains doubleQuote then doubleQuote else apostrophe

/-- One code point between quotation marks. -/
def quoteCode (quote : Char) (n : Nat) : List Char :=
  if n = quote.toNat ∨ n = backslash.toNat then backslash :: ofCode n
  else if n = 0xa then [backslash, 'n']
  else if n = 0xd then [backslash, 'r']
  else if n = 0x9 then [backslash, 't']
  else if isPrintable n then ofCode n
  else if n < 0x100 then backslash :: 'x' :: hex 2 n
  else if n < 0x10000 then backslash :: 'u' :: hex 4 n
  else backslash :: 'U' :: hex 8 n

/-- A text between quotation marks. -/
def quoted (s : String) : String :=
  let quote := quotationMark s.toList
  String.ofList (quote :: (codes s.toList).flatMap (quoteCode quote) ++ [quote])

end MetricRelay.Text
