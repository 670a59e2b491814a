/-
Labels: names with values.

A name is a text as a rule.  A list of pairs may name a label by any other value that can be a name:
it is found again under whatever is equal to it, and keeps the form in which it came first.  Texts
have an order and so have numbers; names of both kinds cannot be sorted together.
-/
import MetricRelay.Json.Lenient

namespace MetricRelay

/-- The name of a label: what it names, and the value that was written for it. -/
structure LabelName where
  key : Json.Key
  written : Json

namespace LabelName

/-- The name that a text is. -/
def ofText (s : String) : LabelName := ⟨.text s, .text s⟩

instance : Coe String LabelName := ⟨ofText⟩

/-- The name that a value is, if it can be one. -/
def ofJson (v : Json) : Except Fault LabelName :=
  v.asKey.map fun key => ⟨key, v⟩

instance : BEq LabelName := ⟨fun a b => a.key == b.key⟩

instance : EquivBEq LabelName where
  rfl := by simp [BEq.beq]
  symm := by
    intro a b h
    simp only [BEq.beq, decide_eq_true_eq] at h ⊢
    exact h.symm
  trans := by
    intro a b c hab hbc
    simp only [BEq.beq, decide_eq_true_eq] at hab hbc ⊢
    exact hab.trans hbc

/-- The text that a name has to be. -/
def letters (name : LabelName) : Except Fault String :=
  match name.key with
  | .text s => .ok s
  | _ => .error .wrongType

/-- Whether two names of one kind have an order. -/
def isOrderedWith (a b : LabelName) : Bool :=
  match a.written, b.written with
  | .text _, .text _ => true
  | v, w => v.isNumber && w.isNumber

/-- Whether a name comes before another of its kind or is the same: texts by their code points,
numbers by size. -/
def precedes (a b : LabelName) : Bool :=
  match a.written, b.written with
  | .text s, .text t => Text.precedes s t
  | v, w => v.isAtMost w

end LabelName

/-- Label names with their values. -/
abbrev Labels := Assoc LabelName Json

namespace Labels

/-- The labels of an optional object; a list may give them as pairs. -/
def ofJson (v : Option Json) : Except Fault Labels :=
  match Json.orEmpty v with
  | .object ms => .ok (ms.map fun m => (LabelName.ofText m.1, m.2))
  | .list vs => do
    let pairs ← vs.mapM fun v => do
      match ← v.items with
      | [name, value] => .ok (← LabelName.ofJson name, value)
      | _ => .error .notNumber
    .ok (Assoc.ofEntries pairs)
  | .text _ => .error .notNumber
  | _ => .error .wrongType

/-- Whether the names can be sorted: all of them are texts or all are numbers, or there is one
only. -/
def areSortable (labels : Labels) : Bool :=
  match labels with
  | [] => true
  | l :: ls => ls.all fun m => l.1.isOrderedWith m.1

/-- Labels sorted by name. -/
def sorted (labels : Labels) : Labels :=
  labels.mergeSort fun a b => a.1.precedes b.1

/-- Labels with further ones, as far as their names are new. -/
def addNew (labels more : Labels) : Labels :=
  more.foldl (fun ls l => Assoc.putNew ls l.1 l.2) labels

end Labels

end MetricRelay
