/-
The arguments of the command line.

One option takes the path of the configuration and has to be given, the other one asks for help.
Long options may be shortened as long as they stay distinct, short ones may be joined, and a value
may follow its option directly.  What looks like a negative number or holds a space is a value.  Two
dashes are no value: behind their option they leave it with nothing.
-/
import MetricRelay.Text.Digit
import MetricRelay.Text.Split

namespace MetricRelay.CommandLine

/-- The options. -/
inductive Switch where
  | help
  | config
deriving DecidableEq, Repr

/-- An argument by itself. -/
inductive Argument where
  | value (s : String)
  /-- An option, with what directly follows it. -/
  | switch (isLong : Bool) (s : Switch) (attached : Option (List Char))
  | unknown
  /-- Two dashes; everything behind them is a value. -/
  | separator
deriving DecidableEq, Repr

/-- What the arguments ask for. -/
inductive Parsed where
  | help
  | usage
  /-- The path of the configuration, or nothing in its place. -/
  | config (path : Option String)
deriving DecidableEq, Repr

/-- The long options. -/
def longSwitches : List (List Char × Switch) :=
  [("--help".toList, .help), ("--config".toList, .config)]

/-- The option of a letter. -/
def shortSwitch? (c : Char) : Option Switch :=
  if c = 'h' then some .help else if c = 'c' then some .config else none

/-- An option by its full name. -/
def named? (cs : List Char) : Option (Bool × Switch) :=
  match cs with
  | ['-', c] => (shortSwitch? c).map fun s => (false, s)
  | cs => (longSwitches.lookup cs).map fun s => (true, s)

/-- Whether a text behind a dash makes a negative number: digits, or a point and digits, and perhaps
a line feed. -/
def isNumber (cs : List Char) : Bool :=
  let cs := if cs.getLast? = some '\n' then cs.dropLast else cs
  match cs.dropWhile Text.isDecimal with
  | [] => !cs.isEmpty
  | '.' :: ds => !ds.isEmpty && ds.all Text.isDecimal
  | _ => false

/-- What is neither an option nor a shortened one: a value or unknown. -/
def loose (cs : List Char) : Argument :=
  if isNumber (cs.drop 1) || cs.contains ' ' then .value (String.ofList cs) else .unknown

/-- An argument that starts with two dashes and names no option in full. -/
def shortened? (cs : List Char) : Option Argument :=
  let (stem, attached) := match Text.cut? '=' cs with
    | some (stem, value) => (stem, some value)
    | none => (cs, none)
  match longSwitches.filter fun l => stem.isPrefixOf l.1 with
  | [] => some (loose cs)
  | [l] => some (.switch true l.2 attached)
  | _ => none

/-- An argument that starts with one dash and names no option in full. -/
def joined (cs : List Char) : Argument :=
  match cs with
  | _ :: c :: rest =>
    match shortSwitch? c with
    | some s => .switch false s (some rest)
    | none => loose cs
  | _ => loose cs

/-- The kind of an argument; nothing if several options could be meant. -/
def classify? (s : String) : Option Argument :=
  match s.toList with
  | '-' :: c :: rest =>
    let cs := '-' :: c :: rest
    match named? cs with
    | some (isLong, sw) => some (.switch isLong sw none)
    | none =>
      match (Text.cut? '=' cs).bind fun p => (named? p.1).map fun n => (n, p.2) with
      | some ((isLong, sw), value) => some (.switch isLong sw (some value))
      | none => if c = '-' then shortened? cs else some (joined cs)
  | _ => some (.value s)

/-- The kinds of arguments. -/
def classifyAll? : List String → Option (List Argument)
  | [] => some []
  | s :: ss =>
    if s = "--" then some (.separator :: ss.map .value)
    else do
      let a ← classify? s
      let rest ← classifyAll? ss
      some (a :: rest)

/-- What short options joined to the one for help come to, before the given arguments. -/
def afterHelp (rest : List Argument) : List Char → Parsed
  | [] => .usage
  | c :: cs =>
    match shortSwitch? c, cs, rest with
    | some .help, [], _ => .help
    | some .help, c :: cs, rest => afterHelp rest (c :: cs)
    | some .config, _ :: _, _ => .help
    | some .config, [], .value _ :: _ => .help
    | _, _, _ => .usage

/-- A value that directly follows its option; two dashes leave nothing. -/
def attachedValue (cs : List Char) : Option String :=
  if cs = ['-', '-'] then none else some (String.ofList cs)

/-- What arguments ask for, with the path so far and whether anything could not be used. -/
def parseFrom (path : Option (Option String)) (extra : Bool) : List Argument → Parsed
  | [] =>
    match path with
    | some p => if extra then .usage else .config p
    | none => .usage
  | .switch _ .help none :: _ => .help
  | .switch true .help (some _) :: _ => .usage
  | .switch false .help (some cs) :: rest => afterHelp rest cs
  | .switch _ .config (some value) :: rest => parseFrom (some (attachedValue value)) extra rest
  | .switch _ .config none :: .value v :: rest => parseFrom (some (some v)) extra rest
  | .switch _ .config none :: _ => .usage
  | _ :: rest => parseFrom path true rest

/-- What the arguments of a command line ask for. -/
def parse (args : List String) : Parsed :=
  match classifyAll? args with
  | none => .usage
  | some as => parseFrom none false as

end MetricRelay.CommandLine
