/-
The bounds that a layout declares.

Explicit bounds are declared one by one.  A linear or an exponential layout of `n` finite buckets
declares `n + 1` finite bounds, or none if `n` is negative (`declaredBounds?`).  How many they are
is counted with the help of doubles, and there may be too many for the room (`HasRoom`).

* `boundCount_of_hasRoom` — where there is room, the count is exact;
* `finiteBounds_of_declared` — and the bounds are those that are declared.
-/
import MetricRelay.Histogram.Buckets
import MetricRelay.Proofs.Decimal.Whole

namespace MetricRelay.Histogram

open Monitoring

/-- The bounds of `n` finite buckets: one more than there are buckets. -/
def spread (n : Int) (bound : Nat → Float) : List Float :=
  (List.range (n + 1).toNat).map bound

/-- The finite bounds that the layout of a distribution declares: of several layouts the explicit
one counts, then the linear one. -/
def declaredBounds? (options : BucketOptions) : Option (List Float) :=
  match options.explicit, options.linear, options.exponential with
  | some bounds, _, _ => some bounds
  | none, some l, _ => some (spread l.finiteBuckets fun i => l.offset + Float.ofNat i * l.width)
  | none, none, some e =>
    some (spread e.finiteBuckets fun i => e.scale * e.growth.pow (Float.ofNat i))
  | none, none, none => none

/-- The number of finite buckets of a layout that is not explicit. -/
def declaredCount? (options : BucketOptions) : Option Int :=
  match options.explicit, options.linear, options.exponential with
  | some _, _, _ => none
  | none, some l, _ => some l.finiteBuckets
  | none, none, some e => some e.finiteBuckets
  | none, none, none => none

/-- The bounds of `n` finite buckets can be counted: their number is not more than there is room for
and than doubles can tell apart, and as a double it does not fall below the signed words. -/
structure HasRoom (room : Nat) (n : Int) : Prop where
  le_room : n + 1 ≤ room
  lt_exact : n + 1 < 9007199254740992
  isWord : ∃ wanted, (Decimal.ofInt? (n + 1)).bind Decimal.truncate? = some wanted ∧
    -(wordCount / 2 : Nat) ≤ wanted

/-- Below 2^53 a positive number of bounds is exact, and what is not positive asks for none. -/
theorem eq_or_nonpos_of_wanted {n wanted : Int} (hexact : n + 1 < 9007199254740992)
    (hwanted : (Decimal.ofInt? (n + 1)).bind Decimal.truncate? = some wanted) :
    wanted = n + 1 ∨ n + 1 ≤ 0 ∧ wanted ≤ 0 := by
  rcases lt_or_ge 0 (n + 1) with hpos | hneg
  · exact Or.inl (Option.some.inj
      (hwanted.symm.trans (Decimal.truncate?_ofInt?_of_pos hpos hexact)))
  · exact Or.inr ⟨hneg, Decimal.nonpos_of_truncate?_ofInt? hneg hwanted⟩

theorem boundCount_of_hasRoom {room : Nat} {n : Int} (h : HasRoom room n) :
    boundCount room n = .ok (n + 1).toNat := by
  obtain ⟨hroom, hexact, wanted, hwanted, hword⟩ := h
  have hboundSize : (boundSize : Int) = 8 := rfl
  have hhalf : (wordCount : Int) / 2 = 9223372036854775808 := rfl
  rw [show ((wordCount / 2 : Nat) : Int) = (wordCount : Int) / 2 from rfl] at hword
  have hsame := eq_or_nonpos_of_wanted hexact hwanted
  have htoNat : wanted.toNat = (n + 1).toNat := by omega
  simp only [boundCount, hwanted, hboundSize]
  rw [if_neg (by omega), if_neg (by omega), if_neg (by omega), if_neg (by omega), htoNat]

/-- A number of buckets that falls below the signed words is refused. -/
theorem boundCount_eq_error (room : Nat) {n wanted : Int}
    (hwanted : (Decimal.ofInt? (n + 1)).bind Decimal.truncate? = some wanted)
    (h : wanted < -(wordCount / 2 : Nat)) : boundCount room n = .error .tooManyBuckets := by
  simp only [boundCount, hwanted]
  exact if_pos (Or.inl h)

theorem finiteBounds_linear (room : Nat) (l : LinearLayout) (e : Option ExponentialLayout) :
    finiteBounds room { linear := some l, exponential := e } =
      (boundCount room l.finiteBuckets).map fun n =>
        (List.range n).map fun i => l.offset + Float.ofNat i * l.width :=
  rfl

theorem finiteBounds_exponential (room : Nat) (e : ExponentialLayout) :
    finiteBounds room { exponential := some e } = (boundCount room e.finiteBuckets).map fun n =>
      (List.range n).map fun i => e.scale * e.growth.pow (Float.ofNat i) :=
  rfl

/-- Where there is room, the bounds are those that are declared. -/
theorem finiteBounds_of_declared {room : Nat} {options : BucketOptions} {finite : List Float}
    (h : declaredBounds? options = some finite)
    (hroom : ∀ n, declaredCount? options = some n → HasRoom room n) :
    finiteBounds room options = .ok finite := by
  obtain ⟨explicit, linear, exponential⟩ := options
  cases explicit with
  | some bounds => exact congrArg Except.ok (Option.some.inj h)
  | none =>
    cases linear with
    | some l =>
      rw [finiteBounds_linear, boundCount_of_hasRoom (hroom _ rfl)]
      exact congrArg Except.ok (Option.some.inj h)
    | none =>
      cases exponential with
      | some e =>
        rw [finiteBounds_exponential, boundCount_of_hasRoom (hroom _ rfl)]
        exact congrArg Except.ok (Option.some.inj h)
      | none => cases h

/-! ### No layout -/

/-- No layout that is known is declared. -/
def IsUndeclared (options : BucketOptions) : Prop :=
  options.explicit = none ∧ options.linear = none ∧ options.exponential = none

theorem boundCount_ne_unknownBuckets (room : Nat) (n : Int) :
    boundCount room n ≠ .error .unknownBuckets := by
  intro h
  simp only [boundCount] at h
  split at h
  · cases h
  · iterate 4
      split at h
      · cases h
    cases h

theorem finiteBounds_eq_unknownBuckets_iff {room : Nat} {options : BucketOptions} :
    finiteBounds room options = .error .unknownBuckets ↔ IsUndeclared options := by
  obtain ⟨explicit, linear, exponential⟩ := options
  have hcount : ∀ (n : Int) (f : Nat → List Float),
      (boundCount room n).map f ≠ .error .unknownBuckets := by
    intro n f h
    cases hn : boundCount room n with
    | error fault =>
      rw [hn] at h
      obtain rfl := Except.error.inj h
      exact boundCount_ne_unknownBuckets room n hn
    | ok count =>
      rw [hn] at h
      cases h
  cases explicit with
  | some bounds => simp [finiteBounds, IsUndeclared]
  | none =>
    cases linear with
    | some l => exact iff_of_false (hcount _ _) (by simp [IsUndeclared])
    | none =>
      cases exponential with
      | some e => exact iff_of_false (hcount _ _) (by simp [IsUndeclared])
      | none => simp [finiteBounds, IsUndeclared]

end MetricRelay.Histogram
