/-
Taking values out of JSON that may have an unexpected shape.

Numbers may be written as numbers, as texts or as truth values.  Whatever can be walked through is a
list: a text gives its characters and an object its keys.
-/
import MetricRelay.Fault
import MetricRelay.Json.Key
import MetricRelay.Json.Reader

namespace MetricRelay.Json

/-- The members of an object. -/
def members : Json → Except Fault (List (String × Json))
  | object ms => .ok ms
  | _ => .error .notObject

/-- The members of an optional object: what is absent or vacant has none. -/
def optionalMembers : Option Json → Except Fault (List (String × Json))
  | none => .ok []
  | some v => if v.isVacant then .ok [] else v.members

/-- The value of a member, with a text as the default for an absent one. -/
def orText (ms : List (String × Json)) (key default : String) : Json :=
  (member? ms key).getD (text default)

/-- A value that is not vacant. -/
def occupied (v : Json) : Option Json :=
  if v.isVacant then none else some v

/-- A text that is asked for its letters. -/
def letters : Json → Except Fault String
  | text s => .ok s
  | _ => .error .notObject

/-- The name that a value is; one that can be none is refused. -/
def asKey (v : Json) : Except Fault Key :=
  match v.key? with
  | some k => .ok k
  | none => .error .wrongType

/-- The instant of a timestamp; what is vacant is one of the wrong form. -/
def asInstant : Json → Except Fault Time.Instant
  | text s => (Time.Timestamp.parse s).mapError (.timestamp (text s))
  | v => .error (if v.isVacant then .timestamp v .form else .wrongType)

/-- A whole number: null is zero, other numbers are rounded toward zero. -/
def asInt : Json → Except Fault Int
  | null => .ok 0
  | bool b => .ok (if b then 1 else 0)
  | int n => .ok n
  | real x =>
    match Decimal.truncate? x with
    | some n => .ok n
    | none => .error (if x.isNaN then .notNumber else .tooLarge)
  | text s =>
    match Decimal.integer? s.toList with
    | some n => .ok n
    | none => .error .notNumber
  | list _ | object _ => .error .wrongType

/-- A double. -/
def asFloat : Json → Except Fault Float
  | bool b => .ok (if b then 1.0 else 0.0)
  | int n =>
    match Decimal.ofInt? n with
    | some x => .ok x
    | none => .error .tooLarge
  | real x => .ok x
  | text s =>
    match Decimal.real? s.toList with
    | some x => .ok x
    | none => .error .notNumber
  | null | list _ | object _ => .error .wrongType

/-- The double of a member, zero if it is absent. -/
def floatOrZero (ms : List (String × Json)) (key : String) : Except Fault Float :=
  match member? ms key with
  | none => .ok 0.0
  | some v => v.asFloat

/-- The whole number of a member, zero if it is absent. -/
def intOrZero (ms : List (String × Json)) (key : String) : Except Fault Int :=
  ((member? ms key).getD null).asInt

/-- The items of what can be walked through. -/
def items : Json → Except Fault (List Json)
  | list vs => .ok vs
  | text s => .ok ((Text.codes s.toList).map fun n => text (String.ofList (Text.ofCode n)))
  | object ms => .ok (ms.map fun m => text m.1)
  | _ => .error .wrongType

/-- The items of a member, none if it is absent. -/
def itemsOf (ms : List (String × Json)) (key : String) : Except Fault (List Json) :=
  match member? ms key with
  | none => .ok []
  | some v => v.items

/-- What a value holds under a key.  A text or list can be asked too; it holds nothing, and a text
or list in which the key itself occurs is refused. -/
def under (key : String) : Json → Except Fault (Option Json)
  | object ms => .ok (member? ms key)
  | text s => if Text.occursIn key.toList s.toList then .error .wrongType else .ok none
  | list vs =>
    if vs.any fun | text s => s == key | _ => false then .error .wrongType else .ok none
  | _ => .error .wrongType

/-- An optional value: what is absent or vacant counts as an empty object. -/
def orEmpty (v : Option Json) : Json :=
  match v with
  | none => object []
  | some v => if v.isVacant then object [] else v

end MetricRelay.Json
