/-
The text form of families.

Each family has a line with its help text, a line with its type and a line for each sample: name,
labels sorted by name, value, and the time in whole milliseconds if the sample has one.  Characters
that names may not hold become underscores; only a line feed behind a name that is legal otherwise
is overlooked.
-/
import MetricRelay.Exposition.Family
import MetricRelay.Json.Lenient
import MetricRelay.Text.Surrogate

namespace MetricRelay.Exposition

/-- The type under which a family appears, and what is added to its name. -/
def printedType : FamilyType → String × String
  | .counter => ("counter", "_total")
  | .info => ("gauge", "_info")
  | .stateSet => ("gauge", "")
  | .gaugeHistogram => ("histogram", "")
  | .unknown => ("untyped", "")
  | t => (t.word, "")

/-- Which names there are: those of labels have no colons. -/
inductive NameSort where
  | family
  | label
deriving DecidableEq, Repr

/-- A character that a name may hold at its start. -/
def NameSort.opens (sort : NameSort) (c : Char) : Bool :=
  c.isAlpha || c = '_' || (sort = .family && c = ':')

/-- A character that a name may hold behind its start. -/
def NameSort.continues (sort : NameSort) (c : Char) : Bool :=
  sort.opens c || c.isDigit

/-- Whether a name is legal as far as its first line tells, where label names with two underscores
at the start are reserved. -/
def NameSort.passes (sort : NameSort) (cs : List Char) : Bool :=
  let line := if cs.getLast? = some '\n' then cs.dropLast else cs
  match line with
  | [] => false
  | c :: rest =>
    sort.opens c && rest.all sort.continues && !(sort = .label && "__".toList.isPrefixOf cs)

/-- The character that stands in a name for a code point: its own if it is allowed. -/
def legalCode (allowed : Char → Bool) (n : Nat) : Char :=
  if n < 0x80 && allowed (Char.ofNat n) then Char.ofNat n else '_'

/-- A name in which every character that it may not hold is an underscore. -/
def legalName (sort : NameSort) (name : String) : String :=
  if sort.passes name.toList then name
  else
    match Text.codes name.toList with
    | [] => name
    | n :: ns => String.ofList (legalCode sort.opens n :: ns.map (legalCode sort.continues))

/-- A help text with backslashes and line feeds escaped. -/
def escapeHelp (s : String) : List Char :=
  s.toList.flatMap fun c =>
    if c = '\x5c' then ['\x5c', '\x5c'] else if c = '\n' then ['\x5c', 'n'] else [c]

/-- A label value with backslashes, line feeds and quotes escaped. -/
def escapeLabel (s : String) : List Char :=
  s.toList.flatMap fun c =>
    if c = '\x5c' then ['\x5c', '\x5c']
    else if c = '\n' then ['\x5c', 'n']
    else if c = '\x22' then ['\x5c', '\x22']
    else [c]

/-- The text of a value. -/
def SampleValue.render : SampleValue → Except Fault String
  | count n =>
    match Decimal.ofInt? n with
    | some x => .ok (Decimal.exposed.render x)
    | none => .error .tooLarge
  | real x => .ok (Decimal.exposed.render x)

/-- A label. -/
def renderLabel (name : LabelName) (value : Json) : Except Fault (List Char) := do
  let name ← name.letters
  let value ← value.letters
  .ok ((legalName .label name).toList ++ '=' :: '\x22' :: escapeLabel value ++ ['\x22'])

/-- Labels between braces; nothing if there are none. -/
def renderLabels (labels : Labels) : Except Fault (List Char) :=
  match labels with
  | [] => .ok []
  | labels =>
    if Labels.areSortable labels then do
      let parts ← (Labels.sorted labels).mapM fun l => renderLabel l.1 l.2
      .ok ('\x7b' :: Text.join [','] parts ++ ['\x7d'])
    else .error .wrongType

/-- A time as whole milliseconds behind a space. -/
def renderTime : Option Float → List Char
  | none => []
  | some t =>
    match Decimal.truncate? (t * 1000.0) with
    | none => []
    | some ms => ' ' :: Json.renderInt ms

/-- The line of a sample. -/
def Sample.render (s : Sample) : Except Fault (List Char) := do
  let labels ← renderLabels s.labels
  let value ← s.value.render
  .ok ((legalName .family s.name).toList ++ labels ++ ' ' :: value.toList ++ renderTime s.time
    ++ ['\n'])

/-- The lines of a family. -/
def Family.render (f : Family) : Except Fault (List Char) := do
  let (word, ending) := printedType f.type
  let name := (legalName .family (f.name ++ ending)).toList
  let help ← f.help.letters
  let lines ← f.samples.mapM Sample.render
  .ok ("# HELP ".toList ++ name ++ ' ' :: escapeHelp help ++ '\n' ::
    "# TYPE ".toList ++ name ++ ' ' :: word.toList ++ '\n' :: lines.flatten)

/-- The text form of families; every character has to be one that bytes can write. -/
def render (families : List Family) : Except Fault String := do
  let text := (← families.mapM Family.render).flatten
  if Text.isEncodable text then .ok (String.ofList text) else .error .unencodable

end MetricRelay.Exposition
