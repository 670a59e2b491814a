/-
What a check ensures.

A check ensures a property if every value that it lets pass has it (`Ensures`).  A check made of
pieces ensures what its pieces do:

* `Ensures.seq`, `Ensures.map` — pieces side by side;
* `Ensures.andThen`, `Ensures.below`, `Ensures.model` — pieces one after the other, further down,
  and within an object.

A check carries over to another if that one passes whenever it does, with a related value
(`Carries`); so do pieces side by side (`Carries.seq`, `Carries.map`).
-/
import MetricRelay.Settings.Check

namespace MetricRelay.Settings.Checked

variable {α β α' β' : Type}

theorem seq_eq_valid_iff {f : Checked (α → β)} {x : Checked α} {b : β} :
    f <*> x = valid b ↔ ∃ g, f = valid g ∧ ∃ a, x = valid a ∧ g a = b := by
  constructor
  · intro h
    cases f <;> cases x <;> cases h
    exact ⟨_, rfl, _, rfl, rfl⟩
  · rintro ⟨g, rfl, a, rfl, rfl⟩
    rfl

theorem map_eq_valid_iff {f : α → β} {x : Checked α} {b : β} :
    f <$> x = valid b ↔ ∃ a, x = valid a ∧ f a = b := by
  rw [show f <$> x = valid f <*> x from rfl, seq_eq_valid_iff]
  simp

theorem andThen_eq_valid_iff {x : Checked α} {f : α → Checked β} {b : β} :
    x.andThen f = valid b ↔ ∃ a, x = valid a ∧ f a = valid b := by
  cases x <;> simp [andThen]

theorem below_eq_valid_iff {x : Checked α} {step : Step} {a : α} :
    x.below step = valid a ↔ x = valid a := by
  cases x <;> simp [below]

/-- Every value that passes has a property. -/
def Ensures (x : Checked α) (P : α → Prop) : Prop :=
  ∀ a, x = valid a → P a

theorem ensures_true (x : Checked α) : x.Ensures fun _ => True :=
  fun _ _ => trivial

theorem ensures_valid {P : α → Prop} {a : α} (h : P a) : (valid a).Ensures P := by
  intro b hb
  cases hb
  exact h

theorem ensures_problem (P : α → Prop) (kind : ProblemKind) : (problem kind).Ensures P := by
  intro a h
  cases h

theorem Ensures.seq {P : β → Prop} {Q : α → Prop} {f : Checked (α → β)} {x : Checked α}
    (hf : f.Ensures fun g => ∀ a, Q a → P (g a)) (hx : x.Ensures Q) : (f <*> x).Ensures P := by
  intro b hb
  cases f <;> cases x <;> cases hb
  exact hf _ rfl _ (hx _ rfl)

theorem Ensures.map {P : β → Prop} {Q : α → Prop} {f : α → β} {x : Checked α} (hx : x.Ensures Q)
    (hf : ∀ a, Q a → P (f a)) : (f <$> x).Ensures P :=
  Ensures.seq (ensures_valid hf) hx

theorem Ensures.andThen {P : β → Prop} {Q : α → Prop} {x : Checked α} {f : α → Checked β}
    (hx : x.Ensures Q) (hf : ∀ a, Q a → (f a).Ensures P) : (x.andThen f).Ensures P := by
  intro b hb
  cases x with
  | valid a => exact hf a (hx a rfl) b hb
  | invalid ps => cases hb
  | crashed c => cases hb

theorem Ensures.below {P : α → Prop} {x : Checked α} (hx : x.Ensures P) (step : Step) :
    (x.below step).Ensures P := by
  intro a h
  cases x with
  | valid b => exact hx a h
  | invalid ps => cases h
  | crashed c => cases h

theorem Ensures.model {P : α → Prop} {f : List (String × Json) → Checked α}
    (hf : ∀ ms, (f ms).Ensures P) (v : Json) : (model f v).Ensures P := by
  cases v with
  | object ms => exact hf ms
  | _ => exact ensures_problem P .notModel

/-- If the first of two checks passes, so does the second, with a related value. -/
def Carries (R : α → α' → Prop) (x : Checked α) (x' : Checked α') : Prop :=
  ∀ a, x = valid a → ∃ a', x' = valid a' ∧ R a a'

theorem Carries.refl (x : Checked α) : Carries Eq x x :=
  fun a h => ⟨a, h, rfl⟩

theorem Carries.seq {Q : α → α' → Prop} {R : β → β' → Prop} {f : Checked (α → β)}
    {f' : Checked (α' → β')} {x : Checked α} {x' : Checked α'}
    (hf : Carries (fun g g' => ∀ a a', Q a a' → R (g a) (g' a')) f f') (hx : Carries Q x x') :
    Carries R (f <*> x) (f' <*> x') := by
  intro b hb
  obtain ⟨g, hg, a, ha, rfl⟩ := seq_eq_valid_iff.mp hb
  obtain ⟨g', hg', hgg'⟩ := hf g hg
  obtain ⟨a', ha', haa'⟩ := hx a ha
  exact ⟨g' a', seq_eq_valid_iff.mpr ⟨g', hg', a', ha', rfl⟩, hgg' a a' haa'⟩

theorem Carries.map {Q : α → α' → Prop} {R : β → β' → Prop} {f : α → β} {f' : α' → β'}
    {x : Checked α} {x' : Checked α'} (hx : Carries Q x x')
    (hf : ∀ a a', Q a a' → R (f a) (f' a')) : Carries R (f <$> x) (f' <$> x') := by
  refine Carries.seq ?_ hx
  rintro _ ⟨⟩
  exact ⟨f', rfl, hf⟩

end MetricRelay.Settings.Checked
