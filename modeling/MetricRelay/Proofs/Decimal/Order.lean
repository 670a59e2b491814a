/-
The order of doubles.

The comparisons of doubles leave NaN out and take the two zeros for one number.  `rank` gives every
double a place in a linear order, so that on numbers

* `lt_iff_rank`, `le_iff_rank` — one double is below another exactly if its rank is;
* `beq_iff_rank` — two doubles compare equal exactly if their ranks are equal;
* `rank_le_infinity` — no number is above positive infinity;
* `not_lt_sub_self` — a double less itself is not above zero.

Everything else that is known about the order comes from the linear order of the ranks.
-/
import Mathlib
import MetricRelay.Decimal.Binary

namespace MetricRelay.Decimal

open Float.Model Float.Model.UnpackedFloat

/-- Places in the order of doubles: the kind of number first, then exponent and mantissa. -/
abbrev Rank := ℤ ×ₗ ℤ ×ₗ ℤ

/-- The place of a double by its parts: the infinities stand at the ends, finite doubles of one sign
are ordered by exponent and mantissa, and both zeros have one place. -/
def partsRank : UnpackedFloat → Rank
  | .infinity .negative => toLex (-2, toLex (0, 0))
  | .finite .negative m e _ => toLex (-1, toLex (-e, -m))
  | .zero _ => toLex (0, toLex (0, 0))
  | .finite .positive m e _ => toLex (1, toLex (e, m))
  | .infinity .positive => toLex (2, toLex (0, 0))
  | .notANumber => toLex (3, toLex (0, 0))

/-- The place of a double in the order. -/
def rank (x : Float) : Rank :=
  partsRank x.toModel.unpack

theorem compare_neg_neg (a b : ℤ) : compare (-a) (-b) = (compare a b).swap := by
  rcases lt_trichotomy a b with h | h | h
  · rw [compare_lt_iff_lt.mpr h, compare_gt_iff_gt.mpr (by omega)]
    rfl
  · rw [h, compare_eq_iff_eq.mpr rfl, compare_eq_iff_eq.mpr rfl]
    rfl
  · rw [compare_gt_iff_gt.mpr h, compare_lt_iff_lt.mpr (by omega)]
    rfl

theorem compare_natCast (m n : ℕ) : compare (m : ℤ) n = compare m n := by
  rcases lt_trichotomy m n with h | h | h
  · rw [compare_lt_iff_lt.mpr h, compare_lt_iff_lt.mpr (by omega)]
  · rw [h, compare_eq_iff_eq.mpr rfl, compare_eq_iff_eq.mpr rfl]
  · rw [compare_gt_iff_gt.mpr h, compare_gt_iff_gt.mpr (by omega)]

/-- Numbers compare as their places do. -/
theorem compare_eq_some {u v : UnpackedFloat} (hu : u.isNaN = false) (hv : v.isNaN = false) :
    u.compare v = some (compare (partsRank u) (partsRank v)) := by
  -- kinds and signs decide by themselves unless both numbers are finite and of one sign
  match u, v with
  | .notANumber, _ => exact absurd hu (by decide)
  | _, .notANumber => exact absurd hv (by decide)
  | .infinity s, .infinity t => cases s <;> cases t <;> rfl
  | .infinity s, .zero t => cases s <;> cases t <;> rfl
  | .infinity s, .finite t _ _ _ => cases s <;> cases t <;> rfl
  | .zero s, .infinity t => cases s <;> cases t <;> rfl
  | .zero s, .zero t => cases s <;> cases t <;> rfl
  | .zero s, .finite t _ _ _ => cases s <;> cases t <;> rfl
  | .finite s _ _ _, .infinity t => cases s <;> cases t <;> rfl
  | .finite s _ _ _, .zero t => cases s <;> cases t <;> rfl
  | .finite .positive _ _ _, .finite .negative _ _ _ => rfl
  | .finite .negative _ _ _, .finite .positive _ _ _ => rfl
  | .finite .positive m e _, .finite .positive n f _ =>
    show some ((compare e f).then (compare m n))
      = some ((compare e f).then (compare (m : ℤ) n))
    rw [compare_natCast]
  | .finite .negative m e _, .finite .negative n f _ =>
    show some ((compare e f).then (compare m n)).swap
      = some ((compare (-e) (-f)).then (compare (-m : ℤ) (-n)))
    rw [compare_neg_neg, compare_neg_neg, compare_natCast, Ordering.swap_then]

theorem compare_eq_none {u v : UnpackedFloat} (h : u.isNaN = true ∨ v.isNaN = true) :
    u.compare v = none := by
  cases u <;> cases v <;> simp_all [UnpackedFloat.isNaN, UnpackedFloat.compare]

/-- A comparison of two doubles holds exactly if both are numbers and it holds of their places. -/
theorem compare_iff_rank (a b : Float) (p : Ordering → Bool) :
    (a.toModel.unpack.compare b.toModel.unpack).any p = true ↔
      a.isNaN = false ∧ b.isNaN = false ∧ p (compare (rank a) (rank b)) = true := by
  cases ha : a.isNaN with
  | true => simp [compare_eq_none (Or.inl (show a.toModel.unpack.isNaN = true from ha))]
  | false =>
    cases hb : b.isNaN with
    | true => simp [compare_eq_none (Or.inr (show b.toModel.unpack.isNaN = true from hb))]
    | false =>
      rw [compare_eq_some (show a.toModel.unpack.isNaN = false from ha)
        (show b.toModel.unpack.isNaN = false from hb)]
      simp [rank]

theorem any_beq_iff (o : Option Ordering) (p : Ordering) :
    o.any (· == p) = true ↔ (o == some p) = true := by
  cases o <;> simp

theorem lt_iff_rank (a b : Float) :
    a < b ↔ a.isNaN = false ∧ b.isNaN = false ∧ rank a < rank b := by
  show decide (a.toModel < b.toModel) = true ↔ _
  rw [decide_eq_true_iff]
  refine (any_beq_iff _ _).symm.trans ((compare_iff_rank a b (· == .lt)).trans ?_)
  rw [beq_iff_eq, compare_lt_iff_lt]

theorem le_iff_rank (a b : Float) :
    a ≤ b ↔ a.isNaN = false ∧ b.isNaN = false ∧ rank a ≤ rank b := by
  show decide (a.toModel ≤ b.toModel) = true ↔ _
  rw [decide_eq_true_iff]
  refine (compare_iff_rank a b (·.isLE)).trans ?_
  rw [Ordering.isLE_iff_ne_gt, ← ne_eq, compare_le_iff_le]

theorem beq_iff_rank (a b : Float) :
    (a == b) = true ↔ a.isNaN = false ∧ b.isNaN = false ∧ rank a = rank b := by
  refine (any_beq_iff _ _).symm.trans ((compare_iff_rank a b (· == .eq)).trans ?_)
  rw [beq_iff_eq, compare_eq_iff_eq]

/-- Of two numbers, one is at or above the other or below it. -/
theorem not_le_iff_lt {a b : Float} (ha : a.isNaN = false) (hb : b.isNaN = false) :
    ¬b ≤ a ↔ a < b := by
  simp only [le_iff_rank, lt_iff_rank, ha, hb, true_and, not_le]

theorem isNaN_infinity : infinity.isNaN = false := by decide

/-- No number is above positive infinity. -/
theorem rank_le_infinity {x : Float} (h : x.isNaN = false) : rank x ≤ rank infinity := by
  show partsRank x.toModel.unpack ≤ toLex (2, toLex (0, 0))
  have hx : x.toModel.unpack.isNaN = false := h
  match hu : x.toModel.unpack with
  | .notANumber => rw [hu] at hx; exact absurd hx (by decide)
  | .infinity .positive => exact le_refl _
  | .infinity .negative | .finite .negative _ _ _ | .zero _ | .finite .positive _ _ _ =>
    exact Prod.Lex.toLex_le_toLex.mpr (Or.inl (by simp))

/-- A number less itself is zero; what is no number, or infinite, leaves no number. -/
theorem unpacked_sub_self (f : Format) (u : UnpackedFloat) :
    u.sub f u = .notANumber ∨ u.sub f u = .zero .positive := by
  match u with
  | .notANumber => exact Or.inl rfl
  | .infinity .positive | .infinity .negative => exact Or.inl rfl
  | .zero .positive | .zero .negative => exact Or.inr rfl
  | .finite s m e h =>
    refine Or.inr ?_
    simp only [UnpackedFloat.sub, Int.sub_self]
    rfl

theorem sub_self_cases (x : Float) : (x - x).isNaN = true ∨ x - x = 0 := by
  have h : x - x = ⟨pack (x.toModel.unpack.sub .binary64 x.toModel.unpack)⟩ := rfl
  rw [h]
  rcases unpacked_sub_self .binary64 x.toModel.unpack with hsub | hsub
  · rw [hsub]
    exact Or.inl (by decide)
  · rw [hsub]
    exact Or.inr (by rfl)

/-- Nothing above zero is below a number less itself. -/
theorem not_lt_sub_self {ttl : Float} (h : 0 < ttl) (x : Float) : ¬ttl < x - x := by
  intro hlt
  rcases sub_self_cases x with hnan | hzero
  · rw [lt_iff_rank, hnan] at hlt
    simp at hlt
  · rw [hzero, lt_iff_rank] at hlt
    exact lt_asymm hlt.2.2 ((lt_iff_rank _ _).mp h).2.2

end MetricRelay.Decimal
