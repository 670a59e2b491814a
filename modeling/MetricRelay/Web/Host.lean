/-
Hosts of addresses.

A host is a number of the Internet protocol, of version 4 as four numbers with points or of version
6 in brackets, or a name.  ASCII names are written in lower case with escapes; of other names the
labels are written in ASCII.
-/
import MetricRelay.Text.Case
import MetricRelay.Text.Split
import MetricRelay.Web.Domain.Label
import MetricRelay.Web.Percent

namespace MetricRelay.Web

/-- Whether a host has the look of four numbers. -/
def looksNumeric (cs : List Char) : Bool :=
  let parts := Text.splitOn '.' cs
  parts.length == 4 && parts.all fun p => !p.isEmpty && p.all Char.isDigit

/-- Whether a text writes a number below 256, without zeros in front. -/
def isOctet (cs : List Char) : Bool :=
  let n := Text.ofDigits (cs.filterMap Text.digitValue?)
  cs.all Char.isDigit && n < 256 && cs == Text.decimal n

/-- Whether a text is an address of version 4. -/
def isNumeric (cs : List Char) : Bool :=
  let parts := Text.splitOn '.' cs
  parts.length == 4 && parts.all isOctet

/-- Whether a text is a group of an address of version 6. -/
def isGroup (cs : List Char) : Bool :=
  !cs.isEmpty && cs.length ≤ 4 && cs.all fun c => (Text.hexValue? c).isSome

/-- The groups between the colons of a text; an address of version 4 at the end stands for two. -/
def groupsOf (cs : List Char) : List (List Char) :=
  let parts := Text.splitOn ':' cs
  match parts.getLast? with
  | some last => if isNumeric last then parts.dropLast ++ [['0'], ['0']] else parts
  | none => parts

/-- Whether groups, at most one of them empty apart from the ends, make an address of version 6. -/
def areGroups (parts : List (List Char)) : Bool :=
  let inner := parts.tail.dropLast
  match (inner.filter List.isEmpty).length with
  | 0 => parts.length == 8 && parts.all isGroup
  | 1 =>
    let front := (parts.take 1 ++ inner.takeWhile fun p => !p.isEmpty)
    let back := (inner.dropWhile fun p => !p.isEmpty).tail ++ parts.drop (parts.length - 1)
    let isSide (side : List (List Char)) := side == [[]] || side.all isGroup
    let size (side : List (List Char)) := if side == [[]] then 0 else side.length
    isSide front && isSide back && size front + size back < 8
  | _ => false

/-- Whether a text is an address of version 6; a zone may follow behind a percent sign. -/
def isBracketed (cs : List Char) : Bool :=
  let (address, isZoned) := match Text.cut? '%' cs with
    | some (address, zone) => (address, !zone.isEmpty && !zone.contains '%')
    | none => (cs, true)
  let parts := Text.splitOn ':' address
  isZoned && !cs.contains '/' && 3 ≤ parts.length && areGroups (groupsOf address)

/-- Whether a text is an address of a later version, marked by `v`, its number and a point. -/
def isFuture : List Char → Bool
  | 'v' :: cs =>
    let (version, rest) := cs.span fun c => (Text.hexValue? c).isSome
    !version.isEmpty && rest.head? == some '.' && 1 < rest.length
  | _ => false

/-- Whether the brackets in what is written for host and service stand around an address that needs
them, with nothing in front but a user and nothing behind but the number of the service. -/
def hasFittingBrackets (cs : List Char) : Bool :=
  if cs.contains '[' && cs.contains ']' then
    let place := (cs.reverse.takeWhile (· != '@')).reverse
    let (before, inner, after) :=
      match Text.cut? '[' place with
      | some (before, rest) =>
        let (inner, after) := (Text.cut? ']' rest).getD (rest, [])
        (before, inner, after)
      | none => ([], place.takeWhile (· != ':'), [])
    before.isEmpty && (after.isEmpty || after.head? == some ':')
      && (isFuture inner || isBracketed inner)
  else !cs.contains '[' && !cs.contains ']'

/-- ASCII characters that host names keep, apart from those that every part of an address keeps. -/
def staysInHost (c : Char) : Bool :=
  "!$&'()*+,;=\"`\x7b\x7d%|\\".toList.contains c

/-- The labels of a name mapped one by one; an empty one may come last. -/
def mapLabels (f : List Char → Except Domain.NameFault (List Char)) (cs : List Char) :
    Except Domain.NameFault (List Char) := do
  let labels := Text.splitOn '.' cs
  let (labels, ending) :=
    if labels.getLast? == some [] then (labels.dropLast, ['.']) else (labels, [])
  if labels.isEmpty then .error .form
  else .ok (Text.join ['.'] (← labels.mapM f) ++ ending)

/-- The most characters of a name in ASCII, apart from a full stop at its end. -/
def maxName : Nat := 253

/-- Whether a name in ASCII is not too long. -/
def isShortName (cs : List Char) : Bool :=
  cs.length ≤ (if cs.getLast? == some '.' then maxName + 1 else maxName)

/-- A full stop of any script that separates labels. -/
def isStop (c : Char) : Bool :=
  [0x2e, 0x3002, 0xff0e, 0xff61].contains c.toNat

/-- The form of a host in addresses, if it can have one. -/
def encodeHost? (cs : List Char) : Option (List Char) :=
  if looksNumeric cs then if isNumeric cs then some cs else none
  else if cs.head? == some '[' && cs.getLast? == some ']' then
    let inner := cs.tail.dropLast
    if isBracketed inner then some inner else none
  else if cs.all fun c => c.toNat < 0x80 then
    some (percentEncode staysInHost (cs.map Char.toLower))
  else
    let name := (Text.toLower cs).map fun c => if isStop c then '.' else c
    (mapLabels Domain.encode name).toOption.filter isShortName

/-- What a host in its form for addresses stands for. -/
def decodeHost (cs : List Char) : Except Domain.NameFault (List Char) :=
  if !Domain.codedMark.isPrefixOf cs then .ok cs
  else if isShortName cs then mapLabels Domain.decode cs
  else .error .form

end MetricRelay.Web
