/-
Punycode, which writes any text in the letters, digits and hyphens of ASCII.

The ASCII characters come first, then a hyphen if there are any, and then numbers in base 36: each
tells how far it is, in steps through all code points at all places, to the next character that has
to be inserted.  Numbers are written with their least digit first, and a digit below a threshold
ends one; the thresholds follow a bias that adapts to the numbers so far.
-/
namespace MetricRelay.Text.Punycode

/-- The digit of a number below 36: a letter, or an ASCII digit from 26 on. -/
def digitChar (d : Nat) : Char :=
  if d < 26 then Char.ofNat (0x61 + d) else Char.ofNat (0x30 + (d - 26))

/-- The value of a digit; letters may be of either case. -/
def digitValue? (c : Char) : Option Nat :=
  let c := c.toLower
  if 'a' ≤ c ∧ c ≤ 'z' then some (c.toNat - 0x61)
  else if '0' ≤ c ∧ c ≤ '9' then some (c.toNat - 0x30 + 26)
  else none

/-- The threshold at a place of a number; places count from 36 in steps of 36. -/
def threshold (bias place : Nat) : Nat :=
  max 1 (min 26 (place - bias))

/-- How often 35 has to divide a number until it is at most 455, and what is left. -/
def shrink (times n : Nat) : Nat × Nat :=
  if 455 < n then shrink (times + 1) (n / 35) else (times, n)
termination_by n
decreasing_by exact Nat.div_lt_self (by omega) (by omega)

/-- The bias after a number, given the count of characters and whether it was the first number. -/
def adapt (number characters : Nat) (first : Bool) : Nat :=
  let n := if first then number / 700 else number / 2
  let (times, n) := shrink 0 (n + n / characters)
  36 * times + 36 * n / (n + 38)

/-- A number from a place on. -/
def writeNumber (bias place n : Nat) : List Char :=
  let t := threshold bias place
  if n < t then [digitChar n]
  else digitChar (t + (n - t) % (36 - t)) :: writeNumber bias (place + 36) ((n - t) / (36 - t))
termination_by n
decreasing_by
  have h : 1 ≤ threshold bias place := Nat.le_max_left ..
  have hd : (n - threshold bias place) / (36 - threshold bias place) ≤ n - threshold bias place :=
    Nat.div_le_self ..
  omega

/-- The first code point that is no ASCII. -/
def firstPoint : Nat := 0x80

/-- The bias of the first number. -/
def firstBias : Nat := 72

/-- The place of the first digit of a number. -/
def firstPlace : Nat := 36

/-- Code points on their way into digits. -/
structure Encoder where
  digits : List Char := []
  /-- The steps since the last character that was written. -/
  steps : Nat := 0
  bias : Nat := firstBias
  /-- The count of code points that have been written. -/
  written : Nat
  isFirst : Bool := true

/-- Passes one code point of the text while code point `n` is due. -/
def Encoder.pass (n : Nat) (e : Encoder) (m : Nat) : Encoder :=
  if m < n then { e with steps := e.steps + 1 }
  else if m = n then
    { digits := e.digits ++ writeNumber e.bias firstPlace e.steps
      steps := 0
      bias := adapt e.steps (e.written + 1) e.isFirst
      written := e.written + 1
      isFirst := false }
  else e

/-- Writes all of a text that has the given code points, which ascend from `n` on. -/
def encodePoints (text : List Nat) (n : Nat) (e : Encoder) : List Nat → Encoder
  | [] => e
  | m :: ms =>
    let e := text.foldl (Encoder.pass m) { e with steps := e.steps + (m - n) * (e.written + 1) }
    encodePoints text (m + 1) { e with steps := e.steps + 1 } ms

/-- The code points of a text in ASCII. -/
def encode (text : List Nat) : List Char :=
  let basic := (text.filter (· < firstPoint)).map Char.ofNat
  let points := (text.filter (firstPoint ≤ ·)).mergeSort.eraseDups
  basic ++ (if basic.isEmpty then [] else ['-'])
    ++ (encodePoints text firstPoint { written := basic.length } points).digits

/-- The last code point. -/
def lastPoint : Nat := 0x10ffff

/-- Code points on their way out of digits. -/
structure Decoder where
  text : List Nat
  /-- The code point that is due. -/
  point : Nat := firstPoint
  /-- The place in the text that is due. -/
  index : Nat := 0
  bias : Nat := firstBias
  isFirst : Bool := true
  /-- The number that is being read, so far. -/
  number : Nat := 0
  place : Nat := firstPlace
  weight : Nat := 1

/-- Inserts the code point that a finished number leads to. -/
def Decoder.insert? (d : Decoder) : Option Decoder :=
  let size := d.text.length + 1
  let far := d.index + d.number
  let point := d.point + far / size
  if point ≤ lastPoint then
    let index := far % size
    some
      { text := d.text.take index ++ point :: d.text.drop index
        point
        index := index + 1
        bias := adapt d.number size d.isFirst
        isFirst := false }
  else none

/-- Reads digits up to the last one, which has to end a number. -/
def Decoder.run (d : Decoder) : List Char → Option (List Nat)
  | [] => if d.place = firstPlace then some d.text else none
  | c :: cs => do
    let digit ← digitValue? c
    let t := threshold d.bias d.place
    let d := { d with number := d.number + digit * d.weight }
    if digit < t then (← d.insert?).run cs
    else run { d with place := d.place + 36, weight := d.weight * (36 - t) } cs

/-- The code points that a text in ASCII stands for. -/
def decode? (cs : List Char) : Option (List Nat) :=
  match cs.reverse.span (· != '-') with
  | (digits, []) => ({ text := [] } : Decoder).run digits.reverse
  | (digits, _ :: basic) => ({ text := basic.reverse.map Char.toNat } : Decoder).run digits.reverse

end MetricRelay.Text.Punycode
