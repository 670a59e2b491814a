/-
Bytes as text in base 64.

Three bytes make four digits; one or two bytes at the end make two or three, and equals signs fill
up.
-/
namespace MetricRelay.Text.Base64

/-- The digit of a number below 64. -/
def digitChar (d : Nat) : Char :=
  if d < 26 then Char.ofNat (0x41 + d)
  else if d < 52 then Char.ofNat (0x61 + (d - 26))
  else if d < 62 then Char.ofNat (0x30 + (d - 52))
  else if d = 62 then '+'
  else '/'

/-- The text of bytes. -/
def encode : List Nat → List Char
  | [] => []
  | [a] => [digitChar (a / 4), digitChar (a % 4 * 16), '=', '=']
  | [a, b] => [digitChar (a / 4), digitChar (a % 4 * 16 + b / 16), digitChar (b % 16 * 4), '=']
  | a :: b :: c :: bs =>
    digitChar (a / 4) :: digitChar (a % 4 * 16 + b / 16) :: digitChar (b % 16 * 4 + c / 64)
      :: digitChar (c % 64) :: encode bs

end MetricRelay.Text.Base64
