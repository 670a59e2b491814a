/-
Labels of domain names.

A label holds characters that may stand anywhere and some that need certain neighbours, in composed
form and with directions that agree.  It has its own form in ASCII: a label of other characters is
written in Punycode behind the mark `xn--`, and every other label stands for itself.
-/
import MetricRelay.Text.Composition
import MetricRelay.Text.Punycode
import MetricRelay.Web.Domain.Direction
import MetricRelay.Web.Domain.Joining
import MetricRelay.Web.Domain.Permitted
import MetricRelay.Web.Domain.Script

namespace MetricRelay.Web.Domain

/-- The class of marks that silence the vowel of a letter. -/
def viramaClass : Nat := 9

/-- Whether a character behind others, the last one first, stands behind a virama. -/
def isBehindVirama (before : List Nat) : Bool :=
  before.head?.any fun n => Text.classOf n == viramaClass

/-- Whether the letters on both sides of a place would join there. -/
def joinAcross (before after : List Nat) : Bool :=
  (before.dropWhile isTransparent).head?.any joinsForward
    && (after.dropWhile isTransparent).head?.any joinsBackward

/-- Digits of the Arabic script. -/
def isArabicDigit (n : Nat) : Bool := 0x660 ≤ n && n ≤ 0x669

/-- Digits of the Arabic script in their eastern form. -/
def isEasternDigit (n : Nat) : Bool := 0x6f0 ≤ n && n ≤ 0x6f9

/-- Why a text is no label or no name. -/
inductive NameFault where
  /-- Something is missing or too long, stands at the wrong end, or is not composed. -/
  | form
  /-- No label may hold a character. -/
  | character
  /-- A character may not stand between its neighbours. -/
  | place
  /-- The directions of the characters do not agree. -/
  | direction
deriving DecidableEq, Repr

/-- Whether a code point is one of those that need certain others in their label. -/
def isDependent (n : Nat) : Bool :=
  [0x200c, 0x200d, 0xb7, 0x375, 0x5f3, 0x5f4, 0x30fb].contains n || isArabicDigit n
    || isEasternDigit n

/-- Whether a code point that depends on others may stand between them; of those before it the last
one comes first.  The non-joiner keeps letters apart or follows a virama, as the joiner has to; the
middle dot stands between two l, the Greek numeral sign before Greek, the Hebrew signs behind
Hebrew, and the Katakana dot in Japanese; the two forms of Arabic digits do not mix. -/
def fitsBetween (before after : List Nat) (n : Nat) : Bool :=
  if n = 0x200c then isBehindVirama before || joinAcross before after
  else if n = 0x200d then isBehindVirama before
  else if n = 0xb7 then before.head? == some 0x6c && after.head? == some 0x6c
  else if n = 0x375 then after.head?.any greekRanges.contains
  else if n = 0x5f3 || n = 0x5f4 then before.head?.any hebrewRanges.contains
  else if n = 0x30fb then (before ++ after).any japaneseRanges.contains
  else if isArabicDigit n then !(before ++ after).any isEasternDigit
  else !(before ++ after).any isArabicDigit

/-- Checks that all code points may stand where they do, behind those of which the last one comes
first.  Nothing is known about joining a letter of no known direction. -/
def checkPlaces (before : List Nat) : List Nat → Except NameFault Unit
  | [] => .ok ()
  | n :: after =>
    if isPermitted n then checkPlaces (n :: before) after
    else if !isDependent n then .error .character
    else if (n = 0x200c || n = 0x200d) && before.head?.any isUnsettled then .error .form
    else if fitsBetween before after n then checkPlaces (n :: before) after
    else .error .place

/-- Whether hyphens stand at neither end and not at the third and the fourth place together. -/
def hasFittingHyphens (ns : List Nat) : Bool :=
  ns.head? != some 0x2d && ns.getLast? != some 0x2d && (ns.drop 2).take 2 != [0x2d, 0x2d]

/-- Checks that code points make a label. -/
def checkLabel (ns : List Nat) : Except NameFault Unit := do
  if ns.isEmpty || !Text.isComposed ns || !hasFittingHyphens ns || ns.head?.any Text.isMark then
    .error .form
  checkPlaces [] ns
  if agree (ns.map Direction.ofCode) then .ok () else .error .direction

/-- The mark of labels in Punycode. -/
def codedMark : List Char := "xn--".toList

/-- The most characters of a label in ASCII. -/
def maxLabel : Nat := 63

/-- What a label in ASCII stands for.  Behind the mark stands what Punycode writes for it, and no
other spelling of it. -/
def decode (cs : List Char) : Except NameFault (List Char) := do
  let cs := cs.map Char.toLower
  if maxLabel < cs.length then .error .form
  if codedMark.isPrefixOf cs then
    let coded := cs.drop codedMark.length
    if coded.isEmpty || coded.getLast? == some '-' then .error .form
    match Text.Punycode.decode? coded with
    | none => .error .form
    | some label =>
      checkLabel label
      if Text.Punycode.encode label = coded then .ok (label.map Char.ofNat) else .error .form
  else
    checkLabel (cs.map Char.toNat)
    .ok cs

/-- A label in ASCII, if it is not too long. -/
def encode (cs : List Char) : Except NameFault (List Char) := do
  if maxLabel < cs.length then .error .form
  if cs.all fun c => c.toNat < 0x80 then (decode cs).map fun _ => cs
  else
    checkLabel (cs.map Char.toNat)
    let coded := codedMark ++ Text.Punycode.encode (cs.map Char.toNat)
    if coded.length ≤ maxLabel then .ok coded else .error .form

end MetricRelay.Web.Domain
