/-
Reading JSON texts.

The grammar is the usual one with two liberties: the names `NaN`, `Infinity` and `-Infinity` are
numbers, and of members with one key the last value counts, at the place of the first.  Two escapes
one behind the other may write a pair of surrogates.  Values may be nested to a certain depth.
-/
import MetricRelay.Assoc
import MetricRelay.Decimal.Numeral
import MetricRelay.Json.Basic
import MetricRelay.Text.Surrogate

namespace MetricRelay.Json

/-- Why a text is no JSON. -/
inductive ReadFault where
  | malformed
  /-- A whole number has more digits than a numeral may have. -/
  | tooManyDigits
  /-- Too many lists and objects are open at one place. -/
  | tooDeep
deriving DecidableEq, Repr

/-- What a reader of the start of a text yields: a value and the rest of the text. -/
abbrev Reading (α : Type) := Except ReadFault (α × List Char)

/-- The text after the white space at its start. -/
def skipBlank (cs : List Char) : List Char :=
  cs.dropWhile fun c => c = ' ' ∨ c = '\n' ∨ c = '\r' ∨ c = '\t'

/-- The number that four hexadecimal digits write. -/
def hexUnit? (a b c d : Char) : Option Nat := do
  let a ← Text.hexValue? a
  let b ← Text.hexValue? b
  let c ← Text.hexValue? c
  let d ← Text.hexValue? d
  some (((a * 16 + b) * 16 + c) * 16 + d)

/-- The character of an escape of one letter. -/
def shortEscape? (c : Char) : Option Char :=
  match c with
  | '\x22' => some '\x22'
  | '\x5c' => some '\x5c'
  | '/' => some '/'
  | 'b' => some '\x08'
  | 'f' => some '\x0c'
  | 'n' => some '\n'
  | 'r' => some '\r'
  | 't' => some '\t'
  | _ => none

/-- The code point that an escape of unit `u` writes, given the escape behind it if there is one,
and whether that one belongs to it. -/
def joinEscapes (u : Nat) (v : Option Nat) : Nat × Bool :=
  match v with
  | none => (u, false)
  | some v => if Text.isLeading u && Text.isTrailing v then (Text.ofPair u v, true) else (u, false)

/-- What an escape at the start of a text writes by four digits. -/
def peekEscape? : List Char → Option Nat
  | '\x5c' :: 'u' :: a :: b :: c :: d :: _ => hexUnit? a b c d
  | _ => none

/-- The text whose opening quote has been read, up to its closing quote. -/
def readChars : List Char → Reading (List Char)
  | [] => .error .malformed
  | '\x22' :: cs => .ok ([], cs)
  | '\x5c' :: 'u' :: a :: b :: c :: d :: cs =>
    match hexUnit? a b c d with
    | none => .error .malformed
    | some u =>
      let (n, isPair) := joinEscapes u (peekEscape? cs)
      (readChars (if isPair then cs.drop 6 else cs)).map fun r => (Text.ofCode n ++ r.1, r.2)
  | '\x5c' :: e :: cs =>
    match shortEscape? e with
    | none => .error .malformed
    | some c => (readChars cs).map fun r => (c :: r.1, r.2)
  | c :: cs =>
    if c.toNat < 0x20 ∨ c = '\x5c' then .error .malformed
    else (readChars cs).map fun r => (c :: r.1, r.2)
termination_by cs => cs.length
decreasing_by
  · split <;> simp only [List.length_cons, List.length_drop] <;> omega
  · simp only [List.length_cons]; omega
  · simp only [List.length_cons]; omega

/-- A text whose opening quote has been read. -/
def readText (cs : List Char) : Reading String :=
  (readChars cs).map fun r => (String.ofList r.1, r.2)

/-- The ASCII digits at the start of a text, and the rest. -/
def spanAscii (cs : List Char) : List Nat × List Char :=
  ((cs.takeWhile Char.isDigit).map fun c => c.toNat - 0x30, cs.dropWhile Char.isDigit)

/-- A fraction at the start of a text: a point and at least one digit. -/
def readFraction? : List Char → Option (List Nat × List Char)
  | '.' :: cs =>
    match spanAscii cs with
    | ([], _) => none
    | (d :: ds, rest) => some (d :: ds, rest)
  | _ => none

/-- An exponent at the start of a text: its letter, an optional sign and at least one digit. -/
def readExponent? : List Char → Option (Int × List Char)
  | c :: cs =>
    if c = 'e' ∨ c = 'E' then
      let (negative, cs) := Decimal.takeSign cs
      match spanAscii cs with
      | ([], _) => none
      | (d :: ds, rest) =>
        let n : Int := Text.ofDigits (d :: ds)
        some (if negative then -n else n, rest)
    else none
  | [] => none

/-- An unsigned number at the start of a text.  A leading zero is the whole integer part; a point or
an exponent letter that nothing follows is left unread. -/
def readUnsigned (negative : Bool) (cs : List Char) : Reading Json :=
  let (whole, rest) := match cs with
    | '0' :: rest => ([0], rest)
    | cs => spanAscii cs
  match whole, readFraction? rest with
  | [], _ => .error .malformed
  | whole, some (fraction, rest) => .ok (decimal whole fraction (readExponent? rest) rest)
  | whole, none =>
    match readExponent? rest with
    | some e => .ok (decimal whole [] (some e) rest)
    | none =>
      if Decimal.maxDigits < whole.length then .error .tooManyDigits
      else
        let n : Int := Text.ofDigits whole
        .ok (int (if negative then -n else n), rest)
where
  decimal (whole fraction : List Nat) (exponent : Option (Int × List Char)) (rest : List Char) :
      Json × List Char :=
    let (e, rest) := exponent.getD (0, rest)
    let ds := (whole ++ fraction).dropWhile (· == 0)
    let x := Decimal.nearest (Text.ofDigits ds) ds.length (e - fraction.length)
    (real (if negative then -x else x), rest)

/-- A word at the start of a text with the value that it names. -/
def readWord? (cs : List Char) : Option (Json × List Char) :=
  words.findSome? fun w =>
    if w.1.toList.isPrefixOf cs then some (w.2, cs.drop w.1.length) else none
where
  words : List (String × Json) :=
    [("null", null), ("true", bool true), ("false", bool false), ("NaN", real (0.0 / 0.0)),
     ("Infinity", real Decimal.infinity), ("-Infinity", real (-Decimal.infinity))]

/-- The most lists and objects that may be open at one place. -/
def maxDepth : Nat := 990

mutual

/-- The value at the start of a text; `depth` lists and objects may still be opened, and `fuel`
bounds the steps. -/
def readValue : Nat → Nat → List Char → Reading Json
  | 0, _, _ => .error .malformed
  | fuel + 1, depth, cs =>
    match cs with
    | '\x22' :: cs => (readText cs).map fun r => (text r.1, r.2)
    | '[' :: cs =>
      match depth, skipBlank cs with
      | 0, _ => .error .tooDeep
      | _, ']' :: cs => .ok (list [], cs)
      | depth + 1, cs => (readItems fuel depth cs).map fun r => (list r.1, r.2)
    | '\x7b' :: cs =>
      match depth, skipBlank cs with
      | 0, _ => .error .tooDeep
      | _, '\x7d' :: cs => .ok (object [], cs)
      | depth + 1, cs =>
        (readMembers fuel depth cs).map fun r => (object (Assoc.ofEntries r.1), r.2)
    | cs =>
      match readWord? cs with
      | some r => .ok r
      | none =>
        match cs with
        | '-' :: cs => readUnsigned true cs
        | cs => readUnsigned false cs

/-- The items of a list from the start of the next one to the closing bracket. -/
def readItems : Nat → Nat → List Char → Except ReadFault (List Json × List Char)
  | 0, _, _ => .error .malformed
  | fuel + 1, depth, cs => do
    let (item, rest) ← readValue fuel depth cs
    match skipBlank rest with
    | ',' :: rest =>
      let (items, rest) ← readItems fuel depth (skipBlank rest)
      .ok (item :: items, rest)
    | ']' :: rest => .ok ([item], rest)
    | _ => .error .malformed

/-- The members of an object from the start of the next key to the closing brace. -/
def readMembers : Nat → Nat → List Char → Except ReadFault (List (String × Json) × List Char)
  | 0, _, _ => .error .malformed
  | fuel + 1, depth, cs => do
    let (key, rest) ← match cs with
      | '\x22' :: cs => readText cs
      | _ => .error .malformed
    let (value, rest) ← match skipBlank rest with
      | ':' :: rest => readValue fuel depth (skipBlank rest)
      | _ => .error .malformed
    match skipBlank rest with
    | ',' :: rest =>
      let (members, rest) ← readMembers fuel depth (skipBlank rest)
      .ok ((key, value) :: members, rest)
    | '\x7d' :: rest => .ok ([(key, value)], rest)
    | _ => .error .malformed

end

/-- The value that a whole text writes, white space around it allowed. -/
def read (cs : List Char) : Except ReadFault Json := do
  let (value, rest) ← readValue (2 * cs.length + 2) maxDepth (skipBlank cs)
  if (skipBlank rest).isEmpty then .ok value else .error .malformed

end MetricRelay.Json
