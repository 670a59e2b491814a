/-
The sign of a decimal fraction as a double.

A double rounds to nothing only far below one, so that a fixed-point number keeps its sign when it
is rounded.  `Full` describes what such a rounding gives: an infinity, or a finite number whose
mantissa has all its 53 bits.

* `full_round`, `full_div` — roundings and quotients are full where the exponent is not too small;
* `Full.unpack_pack` — bits keep what is full;
* `Time.Span.seconds_nonpos_iff` — the seconds of a span are positive exactly if the span is.
-/
import Mathlib
import MetricRelay.Proofs.Decimal.Order
import MetricRelay.Proofs.Decimal.Parts
import MetricRelay.Proofs.Decimal.Signed
import MetricRelay.Time.Span

namespace MetricRelay.Decimal

open Float.Model Float.Model.UnpackedFloat

/-! ### Rounding a long mantissa -/

theorem shiftRight_mantissa (em : ExtendedMantissa) (k : Nat) :
    (em >>> k).mantissa = em.mantissa / 2 ^ k := by
  induction k with
  | zero => simp [HShiftRight.hShiftRight, Nat.repeat]
  | succ k ih =>
    show (em >>> k).mantissa / 2 = _
    rw [ih, Nat.div_div_eq_div_mul, pow_succ]

theorem mantissa_le_roundedMantissa (em : ExtendedMantissa) : em.mantissa ≤ em.roundedMantissa := by
  obtain ⟨m, r, s⟩ := em
  cases r <;> cases s <;>
    simp [ExtendedMantissa.roundedMantissa, ExtendedMantissa.accuracy, Accuracy.roundToNearestEven]

theorem ofMantissaAndAccuracy_mantissa (m : Nat) (a : Accuracy) :
    (ExtendedMantissa.ofMantissaAndAccuracy m a).mantissa = m := by
  match a with
  | .exact | .inexact .lt | .inexact .eq | .inexact .gt => rfl

/-- A mantissa of at least 53 bits is shifted to 53 bits. -/
theorem shiftToTargetExponent_spec {m : Nat} (hm : 2 ^ 52 ≤ m) {e : Int} (he : -1074 ≤ e)
    (a : Accuracy) :
    let r := shiftToTargetExponent .binary64 m e a
    2 ^ 52 ≤ r.1.mantissa ∧ r.1.mantissa < 2 ^ 53 ∧ e ≤ r.2 := by
  have hm₀ : m ≠ 0 := by omega
  have hlog : 52 ≤ m.log2 := (Nat.le_log2 hm₀).mpr hm
  have hshift : (Format.binary64.targetExponent (totalExponent m e) - e).toNat = m.log2 - 52 := by
    simp only [targetExponent_eq, totalExponent]
    omega
  have hmantissa : (shiftToTargetExponent .binary64 m e a).1.mantissa = m / 2 ^ (m.log2 - 52) := by
    simp only [shiftToTargetExponent, shiftToExponent, shiftRight_mantissa,
      ofMantissaAndAccuracy_mantissa, hshift]
  have hpow : 2 ^ (m.log2 - 52) * 2 ^ 52 = 2 ^ m.log2 := by
    rw [← pow_add, Nat.sub_add_cancel hlog]
  refine ⟨?_, ?_, ?_⟩
  · rw [hmantissa, Nat.le_div_iff_mul_le (by positivity), mul_comm, hpow]
    exact Nat.log2_self_le hm₀
  · rw [hmantissa, Nat.div_lt_iff_lt_mul (by positivity)]
    calc m < 2 ^ (m.log2 + 1) := Nat.lt_log2_self
      _ = 2 ^ 53 * 2 ^ (m.log2 - 52) := by rw [pow_succ, ← hpow]; ring
  · simp only [shiftToTargetExponent, shiftToExponent, hshift]
    omega

/-- An infinity, or finite with a mantissa of 53 bits and an exponent that is not below `low`. -/
inductive Full (s : Sign) (low : Int) : UnpackedFloat → Prop
  | infinity : Full s low (.infinity s)
  | finite {m : Nat} {e : Int} (h : 0 < m) :
    2 ^ 52 ≤ m → m < 2 ^ 53 → low ≤ e → Full s low (.finite s m e h)

theorem Full.mono {s : Sign} {low low' : Int} (hle : low' ≤ low) {u : UnpackedFloat}
    (hu : Full s low u) : Full s low' u := by
  cases hu with
  | infinity => exact .infinity
  | finite h hm hlt he => exact .finite h hm hlt (hle.trans he)

theorem Full.neg {low : Int} {u : UnpackedFloat} (hu : Full .positive low u) :
    Full .negative low u.neg := by
  cases hu with
  | infinity => exact .infinity
  | finite h hm hlt he => exact .finite h hm hlt he

theorem full_round (s : Sign) {m : Nat} (hm : 2 ^ 52 ≤ m) {e : Int} (he : -1074 ≤ e)
    (a : Accuracy) : Full s e (roundWithAccuracy .binary64 s m e a) := by
  obtain ⟨hm₁, -, he₁⟩ := shiftToTargetExponent_spec hm he a
  have hround := mantissa_le_roundedMantissa (shiftToTargetExponent .binary64 m e a).1
  -- rounding up may have lengthened the mantissa, so it is shifted once more
  obtain ⟨hm₂, hlt, he₂⟩ :=
    shiftToTargetExponent_spec (hm₁.trans hround) (he.trans he₁) .exact
  rw [roundWithAccuracy]
  dsimp only
  rw [dif_neg (by omega)]
  exact .finite _ hm₂ hlt (he₁.trans he₂)

/-! ### Bits -/

/-- What is full is read back as it was written, or as an infinity of its sign. -/
theorem Full.unpack_pack {s : Sign} {low : Int} (hlow : -1074 ≤ low) {u : UnpackedFloat}
    (hu : Full s low u) : Full s low (Float.Model.pack u).unpack := by
  obtain _ | @⟨m, e, h, hm, hlt, he⟩ := hu
  · cases s <;> exact .infinity
  by_cases hsmall : e < 972
  · rw [unpack_pack_finite h hm hlt (hlow.trans he) hsmall]
    exact .finite h hm hlt he
  · have hbias :
        (e + Format.binary64.exponentBias + Format.binary64.mantissaBitsWithoutImplicit).toNat
        = (e + 1075).toNat := by
      show (e + (2 ^ (11 - 1) - 1 : Nat) + (52 : Nat)).toNat = (e + 1075).toNat
      omega
    have hbig : 2 ^ 11 ≤ (e + 1075).toNat + 1 := by omega
    show Full s low (unpack .binary64 (pack .binary64 (.finite s m e h)))
    rw [UnpackedFloat.pack]
    simp only [hbias]
    rw [if_pos hbig]
    cases s <;> exact .infinity

/-! ### Quotients -/

theorem full_div {s t : Sign} {m n : Nat} (hm : 0 < m) (hn : 0 < n) {e f : Int}
    (hexp : -1074 ≤ e - f) (htotal : -1021 ≤ totalExponent m e - totalExponent n f) :
    Full (s / t) (-1074) (div .binary64 (.finite s m e hm) (.finite t n f hn)) := by
  have htarget : -1074 ≤ (divCore .binary64 m e n f).2.1 := by
    simp only [divCore, targetExponent_eq]
    omega
  -- the dividend is shifted so far that the quotient has 53 bits
  have hquotient : 2 ^ 52 ≤ (divCore .binary64 m e n f).1 := by
    simp only [divCore, Nat.le_div_iff_mul_le hn, Nat.shiftLeft_eq]
    generalize hk : (e - f - min (e - f) _).toNat = k
    have hbits : n.log2 + 53 ≤ m.log2 + k := by
      simp only [targetExponent_eq, totalExponent] at hk htotal
      omega
    calc 2 ^ 52 * n ≤ 2 ^ 52 * 2 ^ (n.log2 + 1) := Nat.mul_le_mul_left _ Nat.lt_log2_self.le
      _ = 2 ^ (n.log2 + 53) := by rw [← pow_add]; congr 1; omega
      _ ≤ 2 ^ (m.log2 + k) := Nat.pow_le_pow_right (by decide) hbits
      _ = 2 ^ m.log2 * 2 ^ k := pow_add _ _ _
      _ ≤ m * 2 ^ k := Nat.mul_le_mul_right _ (Nat.log2_self_le hm.ne')
  exact (full_round _ hquotient htarget _).mono htarget

theorem Full.div {s t : Sign} {low : Int} {u : UnpackedFloat} (hu : Full s low u) {n : Nat}
    (hn : 0 < n) {f : Int} (hexp : -1074 ≤ low - f)
    (htotal : -1021 ≤ low + 53 - totalExponent n f) :
    Full (s / t) (-1074) (div .binary64 u (.finite t n f hn)) := by
  cases hu with
  | infinity => exact .infinity
  | finite h hm hlt he =>
    have hlog := (Nat.le_log2 h.ne').mpr hm
    refine full_div h hn (by omega) ?_
    simp only [totalExponent] at htotal ⊢
    omega

/-! ### Fixed-point numbers -/

theorem full_toFloat {m : Nat} (hm : 0 < m) (hlt : m < 2 ^ 53) :
    Full .positive (-52) m.toUInt64.toFloat.toModel.unpack := by
  obtain ⟨hlow, hhigh⟩ := fullMantissa_bounds hm hlt
  rw [unpack_toFloat hm hlt]
  exact .finite _ hlow hhigh (by omega)

/-- A positive number of millionths is a full double. -/
theorem full_ofScientific {m : Nat} (hm : 0 < m) :
    ∃ u, Full .positive (-1074) u ∧ Float.ofScientific m true 6 = ⟨.pack u⟩ := by
  rw [Float.ofScientific]
  split
  · next h =>
    have hmillion : (Float.ofBits 0x412E848000000000).toModel.unpack
        = .finite .positive 8589934592000000 (-33) (by decide) := rfl
    refine ⟨_, (full_toFloat hm h.1).div (t := .positive) (n := 8589934592000000) (f := -33)
      (by decide) (by decide) ?_, ?_⟩
    · have hlog : Nat.log2 8589934592000000 = 52 := by decide +kernel
      simp only [totalExponent, hlog]
      decide
    · rw [← hmillion]
      rfl
  · next h =>
    refine ⟨_, ?_, rfl⟩
    rw [UnpackedFloat.ofScientific, dif_neg hm.ne', if_neg (by norm_num), if_neg (by norm_num),
      if_neg (by norm_num)]
    refine full_div (s := .positive) (t := .positive) _ _ (by norm_num) ?_
    have hlog : Nat.log2 (10 ^ 6) = 19 := by decide +kernel
    show (-1021 : Int) ≤ (m.log2 + 1 + 0) - (Nat.log2 (10 ^ 6) + 1 + 0)
    rw [hlog]
    omega

theorem Full.isNaN {s : Sign} {low : Int} {u : UnpackedFloat} (hu : Full s low u) :
    u.isNaN = false := by
  cases hu <;> rfl

theorem Full.rank_pos {low : Int} {u : UnpackedFloat} (hu : Full .positive low u) :
    rank 0 < partsRank u := by
  cases hu <;> exact Prod.Lex.toLex_lt_toLex.mpr (Or.inl (by norm_num))

theorem Full.rank_neg {low : Int} {u : UnpackedFloat} (hu : Full .negative low u) :
    partsRank u < rank 0 := by
  cases hu <;> exact Prod.Lex.toLex_lt_toLex.mpr (Or.inl (by norm_num))

theorem isNaN_zero : (0 : Float).isNaN = false := by decide

/-! ### Sums -/

theorem isNaN_unpack_pack {u : UnpackedFloat} (hu : u.isNaN = false) :
    (Float.Model.pack u).unpack.isNaN = false := by
  obtain ⟨s, hs⟩ := exists_signed hu
  exact hs.unpack_pack.isNaN

theorem isNaN_normalize (m e : Int) (s : Sign) : (normalize .binary64 m e s).isNaN = false := by
  rw [UnpackedFloat.normalize]
  split
  · exact (signed_roundWithAccuracy _ _ _ _).isNaN
  · rfl
  · exact (signed_roundWithAccuracy _ _ _ _).isNaN

/-- A finite number and a number have a sum. -/
theorem isNaN_add {x y : Float} (hx : x.isFinite = true) (hy : y.isNaN = false) :
    (x + y).isNaN = false := by
  have hx' : x.toModel.unpack.isFinite = true := hx
  have hy' : y.toModel.unpack.isNaN = false := hy
  show (Float.Model.pack (add .binary64 x.toModel.unpack y.toModel.unpack)).unpack.isNaN = false
  refine isNaN_unpack_pack ?_
  cases hu : x.toModel.unpack with
  | infinity s => rw [hu] at hx'; cases hx'
  | notANumber => rw [hu] at hx'; cases hx'
  | zero s =>
    cases hv : y.toModel.unpack with
    | notANumber => rw [hv] at hy'; cases hy'
    | infinity t => rfl
    | zero t => cases s <;> cases t <;> rfl
    | finite t n f h => rfl
  | finite s m e h =>
    cases hv : y.toModel.unpack with
    | notANumber => rw [hv] at hy'; cases hy'
    | infinity t => rfl
    | zero t => rfl
    | finite t n f h => exact isNaN_normalize _ _ _

theorem isNaN_of_isFinite {x : Float} (hx : x.isFinite = true) : x.isNaN = false := by
  have hx' : x.toModel.unpack.isFinite = true := hx
  show x.toModel.unpack.isNaN = false
  cases hu : x.toModel.unpack with
  | notANumber => rw [hu] at hx'; cases hx'
  | infinity s => rfl
  | zero s => rfl
  | finite s m e h => rfl

end MetricRelay.Decimal

namespace MetricRelay.Time.Span

open Decimal

theorem seconds_pos {s : Span} (h : 0 < s.micros) : 0 < s.seconds := by
  obtain ⟨u, hu, hsize⟩ := full_ofScientific (m := s.micros.natAbs) (by omega)
  have hfull := hu.unpack_pack le_rfl
  rw [seconds, ofFixed, hsize, if_neg (by omega)]
  exact (lt_iff_rank _ _).mpr ⟨isNaN_zero, hfull.isNaN, hfull.rank_pos⟩

theorem seconds_neg {s : Span} (h : s.micros < 0) : s.seconds < 0 := by
  obtain ⟨u, hu, hsize⟩ := full_ofScientific (m := s.micros.natAbs) (by omega)
  have hfull := (hu.unpack_pack le_rfl).neg.unpack_pack le_rfl
  rw [seconds, ofFixed, hsize, if_pos h]
  exact (lt_iff_rank _ _).mpr ⟨hfull.isNaN, isNaN_zero, hfull.rank_neg⟩

theorem seconds_zero {s : Span} (h : s.micros = 0) : s.seconds = 0 := by
  rw [seconds, h]
  rfl

theorem isNaN_seconds (s : Span) : s.seconds.isNaN = false := by
  rcases lt_trichotomy s.micros 0 with h | h | h
  · exact ((lt_iff_rank _ _).mp (seconds_neg h)).1
  · rw [seconds_zero h]
    exact isNaN_zero
  · exact ((lt_iff_rank _ _).mp (seconds_pos h)).2.1

/-- The seconds of a span are positive exactly if the span is. -/
theorem seconds_nonpos_iff (s : Span) : s.seconds ≤ 0 ↔ s.micros ≤ 0 := by
  constructor
  · intro hle
    by_contra hpos
    have hlt := (lt_iff_rank _ _).mp (seconds_pos (not_le.mp hpos))
    exact absurd ((le_iff_rank _ _).mp hle).2.2 (not_le.mpr hlt.2.2)
  · intro hle
    rcases hle.lt_or_eq with h | h
    · have hlt := (lt_iff_rank _ _).mp (seconds_neg h)
      exact (le_iff_rank _ _).mpr ⟨hlt.1, hlt.2.1, hlt.2.2.le⟩
    · rw [seconds_zero h]
      decide

end MetricRelay.Time.Span
