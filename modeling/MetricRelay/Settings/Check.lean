/-
Checking values piece by piece.

A check that fails names every problem with its place, in the order in which the pieces are checked:
two checks side by side join their problems.  A few values cannot even be checked; the first of them
ends everything.

* `problems_pair` — two checks side by side have the problems of both.
-/
import MetricRelay.Json.Basic
import MetricRelay.Time.Span

namespace MetricRelay.Settings

/-- A step from a value into it. -/
inductive Step where
  | key (name : String)
  | index (n : Nat)
deriving DecidableEq, Repr

/-- What is wrong with a value. -/
inductive ProblemKind where
  | missing
  | notModel
  | notText
  /-- A text holds a surrogate without its partner. -/
  | brokenText
  | notList
  | notInt
  | noInt
  | fractional
  | tooLargeInt
  | notFinite
  | notFloat
  | noFloat
  | notBool
  | noBool
  | notListed
  | notSpan
  | noSpan
  /-- A rule of the settings is broken; the text is its wording. -/
  | broken (rule : String)
deriving DecidableEq, Repr

/-- Something wrong at a place. -/
structure Problem where
  place : List Step
  kind : ProblemKind
deriving DecidableEq, Repr

/-- Why a value cannot be checked. -/
inductive Crash where
  /-- Nothing can be walked through here; the word names the shape that was found. -/
  | notIterable (shape : String)
  | span (fault : Time.SpanFault)
deriving DecidableEq, Repr

/-- The outcome of a check. -/
inductive Checked (α : Type) where
  | valid (a : α)
  | invalid (problems : List Problem)
  | crashed (c : Crash)
deriving Repr

namespace Checked

variable {α β : Type}

/-- The outcome with another value. -/
def map (f : α → β) : Checked α → Checked β
  | valid a => valid (f a)
  | invalid ps => invalid ps
  | crashed c => crashed c

/-- Two checks side by side. -/
def pair (x : Checked α) (y : Checked β) : Checked (α × β) :=
  match x, y with
  | crashed c, _ => crashed c
  | _, crashed c => crashed c
  | invalid ps, invalid qs => invalid (ps ++ qs)
  | invalid ps, valid _ => invalid ps
  | valid _, invalid qs => invalid qs
  | valid a, valid b => valid (a, b)

/-- A function and its argument, checked side by side. -/
def app (f : Checked (α → β)) (x : Checked α) : Checked β :=
  (f.pair x).map fun p => p.1 p.2

instance : Applicative Checked where
  pure := valid
  seq f x := f.app (x ())

/-- A further check of a valid value. -/
def andThen (x : Checked α) (f : α → Checked β) : Checked β :=
  match x with
  | valid a => f a
  | invalid ps => invalid ps
  | crashed c => crashed c

/-- The outcome with all places one step further down. -/
def below (step : Step) : Checked α → Checked α
  | invalid ps => invalid (ps.map fun p => { p with place := step :: p.place })
  | x => x

/-- One problem with the checked value itself. -/
def problem (kind : ProblemKind) : Checked α :=
  invalid [⟨[], kind⟩]

/-- The problems of an outcome. -/
def problems : Checked α → List Problem
  | invalid ps => ps
  | _ => []

/-- Checks every element of a list at its index. -/
def each (f : Json → Checked α) : Nat → List Json → Checked (List α)
  | _, [] => valid []
  | n, v :: vs => (((f v).below (.index n)).pair (each f (n + 1) vs)).map fun p => p.1 :: p.2

/-- Checks a list element by element. -/
def list (f : Json → Checked α) : Json → Checked (List α)
  | .list vs => each f 0 vs
  | _ => problem .notList

/-- Checks a member that has to be there. -/
def required (ms : List (String × Json)) (key : String) (f : Json → Checked α) : Checked α :=
  ((Json.member? ms key).elim (problem .missing) f).below (.key key)

/-- Checks a member that has a default. -/
def optional (ms : List (String × Json)) (key : String) (default : α) (f : Json → Checked α) :
    Checked α :=
  ((Json.member? ms key).elim (valid default) f).below (.key key)

/-- Checks the members of an object. -/
def model (f : List (String × Json) → Checked α) : Json → Checked α
  | .object ms => f ms
  | _ => problem .notModel

theorem problems_pair (x : Checked α) (y : Checked β) (hx : ∀ c, x ≠ crashed c)
    (hy : ∀ c, y ≠ crashed c) : (x.pair y).problems = x.problems ++ y.problems := by
  cases x with
  | crashed c => exact absurd rfl (hx c)
  | valid a =>
    cases y with
    | crashed c => exact absurd rfl (hy c)
    | valid b => rfl
    | invalid qs => rfl
  | invalid ps =>
    cases y with
    | crashed c => exact absurd rfl (hy c)
    | valid b => simp [pair, problems]
    | invalid qs => rfl

end Checked

end MetricRelay.Settings
