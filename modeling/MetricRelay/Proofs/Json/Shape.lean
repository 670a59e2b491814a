/-
The shapes of JSON that can be decoded.

Decoding a value takes it apart member by member and item by item, and whether it succeeds depends
on the shape of the value alone.  `Decodes x P` says so of one computation: it succeeds exactly if
`P` holds, and else it tells that a shape is wrong.

* `Decodes.bind`, `Decodes.bind_bind`, `Decodes.mapM` — the shape that several steps need;
* `Decodes.members`, `Decodes.itemsOf`, `Decodes.under` — one rule for each way of taking a value
  apart, which puts the shape of the whole together from the shapes of the parts.
-/
import MetricRelay.Json.Lenient

namespace MetricRelay

/-- The faults of values that have an unexpected shape. -/
def Fault.IsShape : Fault → Prop
  | .notNumber | .wrongType | .notObject | .tooLarge => True
  | _ => False

/-- A computation that succeeds exactly if `P` holds, and else finds a shape to be wrong. -/
structure Decodes {α : Type} (x : Except Fault α) (P : Prop) : Prop where
  succeeds_iff : (∃ a, x = .ok a) ↔ P
  isShape : ∀ fault, x = .error fault → fault.IsShape

namespace Decodes

variable {α β : Type} {x : Except Fault α} {P Q : Prop}

theorem congr (hx : Decodes x P) (h : P ↔ Q) : Decodes x Q :=
  ⟨hx.succeeds_iff.trans h, hx.isShape⟩

theorem ok (a : α) (hP : P) : Decodes (.ok a : Except Fault α) P :=
  ⟨iff_of_true ⟨a, rfl⟩ hP, nofun⟩

theorem error {fault : Fault} (h : fault.IsShape) (hP : ¬P) :
    Decodes (.error fault : Except Fault α) P :=
  ⟨iff_of_false nofun hP, fun _ h' => Except.error.inj h' ▸ h⟩

theorem bind {f : α → Except Fault β} (hx : Decodes x P) (hf : ∀ a, Decodes (f a) Q) :
    Decodes (x >>= f) (P ∧ Q) := by
  cases x with
  | ok a => exact (hf a).congr (iff_and_self.mpr fun _ => hx.succeeds_iff.mp ⟨a, rfl⟩)
  | error fault =>
    exact error (hx.isShape fault rfl) fun h => nomatch hx.succeeds_iff.mpr h.1

/-- What is decoded may be put into any form. -/
theorem bind_ok {f : α → β} (hx : Decodes x P) : Decodes (x >>= fun a => .ok (f a)) P :=
  (hx.bind fun a => ok (f a) trivial).congr (and_true _).to_iff

/-- Two steps that together need one shape, and what follows them. -/
theorem bind_bind {γ : Type} {f : α → Except Fault β} {g : α → β → Except Fault γ}
    (hx : Decodes (x >>= f) P) (hg : ∀ a b, Decodes (g a b) Q) :
    Decodes (x >>= fun a => f a >>= g a) (P ∧ Q) := by
  cases x with
  -- what follows may look at the results of both steps, but its shape does not depend on them
  | ok a => exact Decodes.bind (x := f a) hx (hg a)
  | error fault => exact error (hx.isShape fault rfl) fun h => nomatch hx.succeeds_iff.mpr h.1

theorem bind_bind_ok {γ : Type} {f : α → Except Fault β} {g : α → β → γ}
    (hx : Decodes (x >>= f) P) : Decodes (x >>= fun a => f a >>= fun b => .ok (g a b)) P :=
  (hx.bind_bind fun a b => ok (g a b) trivial).congr (and_true _).to_iff

theorem mapM {f : α → Except Fault β} {S : α → Prop} (hf : ∀ a, Decodes (f a) (S a)) (as : List α) :
    Decodes (as.mapM f) (∀ a ∈ as, S a) := by
  induction as with
  | nil => exact ok [] nofun
  | cons a as ih =>
    rw [List.mapM_cons, List.forall_mem_cons]
    exact (hf a).bind fun b => ih.bind_ok

theorem option_mapM {f : α → Except Fault β} {S : α → Prop} (hf : ∀ a, Decodes (f a) (S a))
    (o : Option α) : Decodes (o.mapM f) (∀ a, o = some a → S a) := by
  cases o with
  | none => exact ok none nofun
  | some a =>
    have h : Decodes (f a >>= fun b => .ok (some b)) (S a) := (hf a).bind_ok
    exact h.congr ⟨fun ha _ h => Option.some.inj h ▸ ha, fun h => h a rfl⟩

end Decodes

namespace Json

/-! ### Shapes -/

/-- A value that a whole number can be read from. -/
def IsWhole : Json → Prop
  | null | bool _ | int _ => True
  | real x => (Decimal.truncate? x).isSome
  | text s => (Decimal.integer? s.toList).isSome
  | list _ | object _ => False

/-- A value that a double can be read from. -/
def IsReal : Json → Prop
  | bool _ | real _ => True
  | int n => (Decimal.ofInt? n).isSome
  | text s => (Decimal.real? s.toList).isSome
  | null | list _ | object _ => False

/-- An object whose members meet a condition. -/
def IsObjectWith (S : List (String × Json) → Prop) : Json → Prop
  | object ms => S ms
  | _ => False

/-- An object. -/
def IsObject : Json → Prop :=
  IsObjectWith fun _ => True

/-- A vacant value or one that meets a condition. -/
def IsVacantOr (S : Json → Prop) (v : Json) : Prop :=
  v.isVacant = true ∨ S v

/-- A list of values that meet a condition; a text counts as the list of its characters, an object
as that of its keys. -/
def IsSequence (S : Json → Prop) : Json → Prop
  | list vs => ∀ v ∈ vs, S v
  | text s => ∀ n ∈ Text.codes s.toList, S (text (String.ofList (Text.ofCode n)))
  | object ms => ∀ m ∈ ms, S (text m.1)
  | _ => False

/-- A member that is absent or meets a condition. -/
def Permits (ms : List (String × Json)) (key : String) (S : Json → Prop) : Prop :=
  ∀ v, member? ms key = some v → S v

/-- A value whose member, if there is one, meets a condition; a text or list in which the key does
not occur has none. -/
def PermitsUnder (key : String) (S : Json → Prop) : Json → Prop
  | object ms => Permits ms key S
  | text s => Text.occursIn key.toList s.toList = false
  | list vs => ∀ v ∈ vs, v ≠ text key
  | _ => False

end Json

namespace Decodes

open Json

variable {α β : Type} {v : Json} {S : Json → Prop}

/-! ### Leaves -/

theorem asInt (v : Json) : Decodes v.asInt v.IsWhole := by
  cases v with
  | null | bool _ | int _ => exact ok _ trivial
  | list _ | object _ => exact error trivial not_false
  | real x =>
    rw [Json.asInt, IsWhole]
    cases Decimal.truncate? x with
    | some n => exact ok n rfl
    | none => dsimp only; split <;> exact error trivial Bool.false_ne_true
  | text s =>
    rw [Json.asInt, IsWhole]
    cases Decimal.integer? s.toList with
    | some n => exact ok n rfl
    | none => exact error trivial Bool.false_ne_true

theorem asFloat (v : Json) : Decodes v.asFloat v.IsReal := by
  cases v with
  | bool _ | real _ => exact ok _ trivial
  | null | list _ | object _ => exact error trivial not_false
  | int n =>
    rw [Json.asFloat, IsReal]
    cases Decimal.ofInt? n with
    | some x => exact ok x rfl
    | none => exact error trivial Bool.false_ne_true
  | text s =>
    rw [Json.asFloat, IsReal]
    cases Decimal.real? s.toList with
    | some x => exact ok x rfl
    | none => exact error trivial Bool.false_ne_true

theorem intOrZero (ms : List (String × Json)) (key : String) :
    Decodes (Json.intOrZero ms key) (Permits ms key IsWhole) := by
  rw [Json.intOrZero, Permits]
  cases member? ms key with
  | none => exact ok 0 nofun
  | some v => simpa using asInt v

theorem floatOrZero (ms : List (String × Json)) (key : String) :
    Decodes (Json.floatOrZero ms key) (Permits ms key IsReal) := by
  rw [Json.floatOrZero, Permits]
  cases member? ms key with
  | none => exact ok _ nofun
  | some v => simpa using asFloat v

/-! ### Members and items -/

theorem members {f : List (String × Json) → Except Fault β} {T : List (String × Json) → Prop}
    (hf : ∀ ms, Decodes (f ms) (T ms)) (v : Json) :
    Decodes (v.members >>= f) (v.IsObjectWith T) := by
  cases v with
  | object ms => exact hf ms
  | _ => exact error trivial not_false

theorem isSequence_of_items {vs : List Json} (h : v.items = .ok vs) :
    v.IsSequence S ↔ ∀ w ∈ vs, S w := by
  cases v with
  | list _ =>
    obtain rfl := Except.ok.inj h
    rfl
  | text _ | object _ =>
    obtain rfl := Except.ok.inj h
    exact List.forall_mem_map.symm
  | _ => cases h

theorem items {f : Json → Except Fault β} (hf : ∀ w, Decodes (f w) (S w)) (v : Json) :
    Decodes (v.items >>= fun vs => vs.mapM f) (v.IsSequence S) := by
  cases hv : v.items with
  | ok vs => exact (mapM hf vs).congr (isSequence_of_items hv).symm
  | error fault =>
    cases v with
    | list _ | text _ | object _ => cases hv
    | _ =>
      obtain rfl := Except.error.inj hv
      exact error trivial not_false

theorem itemsOf {f : Json → Except Fault β} (hf : ∀ w, Decodes (f w) (S w))
    (ms : List (String × Json)) (key : String) :
    Decodes (Json.itemsOf ms key >>= fun vs => vs.mapM f) (Permits ms key (IsSequence S)) := by
  rw [Json.itemsOf, Permits]
  cases member? ms key with
  | none => exact ok [] nofun
  | some v => simpa using items hf v

theorem orEmpty_iff (h : S (.object [])) (o : Option Json) :
    S (Json.orEmpty o) ↔ ∀ v, o = some v → v.IsVacantOr S := by
  cases o with
  | none => exact iff_of_true h nofun
  | some v =>
    rw [Json.orEmpty]
    by_cases hv : v.isVacant = true
    · rw [if_pos hv]
      exact iff_of_true h fun _ hw => Or.inl (Option.some.inj hw ▸ hv)
    · rw [if_neg hv]
      simp [IsVacantOr, hv]

theorem orEmpty {f : Json → Except Fault β} (hf : ∀ w, Decodes (f w) (S w)) (h : S (.object []))
    (o : Option Json) : Decodes (f (Json.orEmpty o)) (∀ v, o = some v → v.IsVacantOr S) :=
  (hf _).congr (orEmpty_iff h o)

theorem optionalMembers {f : List (String × Json) → Except Fault β}
    {T : List (String × Json) → Prop} (hf : ∀ ms, Decodes (f ms) (T ms)) (h : T [])
    (o : Option Json) :
    Decodes (Json.optionalMembers o >>= f) (∀ v, o = some v → v.IsVacantOr (IsObjectWith T)) := by
  have horEmpty : Json.optionalMembers o = (Json.orEmpty o).members := by
    cases o with
    | none => rfl
    | some v => rw [Json.optionalMembers, Json.orEmpty]; split <;> rfl
  rw [horEmpty]
  exact orEmpty (members hf) h o

theorem isObject (o : Option Json) :
    Decodes (Json.optionalMembers o) (∀ v, o = some v → v.IsVacantOr IsObject) := by
  have h := optionalMembers (fun ms => ok ms trivial) trivial o
  rwa [show (Except.ok : _ → Except Fault _) = pure from rfl, bind_pure] at h

theorem under {f : Json → Except Fault β} (hf : ∀ w, Decodes (f w) (S w)) (key : String)
    (v : Json) :
    Decodes (v.under key >>= fun o => o.mapM f) (v.PermitsUnder key S) := by
  cases v with
  | object ms => exact option_mapM hf _
  | text s =>
    rw [Json.under, PermitsUnder]
    split
    next h => exact error trivial (by simp [h])
    next h => exact ok none (by simpa using h)
  | list vs =>
    rw [Json.under, PermitsUnder]
    split
    next h =>
      obtain ⟨w, hw, hkey⟩ := List.any_eq_true.mp h
      refine error trivial fun hall => ?_
      cases w with
      | text s => exact hall _ hw (congrArg Json.text (eq_of_beq hkey))
      | _ => cases hkey
    next h =>
      refine ok none fun w hw hkey => h (List.any_eq_true.mpr ⟨w, hw, ?_⟩)
      rw [hkey]
      exact beq_self_eq_true key
  | _ => exact error trivial not_false

theorem under_of_forall (h : ∀ w, S w) (key : String) (v : Json) :
    Decodes (v.under key) (v.PermitsUnder key S) := by
  have hpure : (fun o : Option Json => o.mapM fun w => (.ok w : Except Fault Json)) = pure :=
    funext fun o => by cases o <;> rfl
  have hunder := under (fun w => ok w (h w)) key v
  rwa [hpure, bind_pure] at hunder

end Decodes

end MetricRelay
