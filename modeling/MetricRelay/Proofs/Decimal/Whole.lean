/-
Whole numbers as doubles.

A whole number is rounded to the nearest double, and the double is cut off to a whole number again.

* `truncate?_ofInt?_of_pos` — positive whole numbers below `2 ^ 53` come back;
* `nonpos_of_truncate?_ofInt?` — what is not positive comes back as what is not positive, if at all.
-/
import MetricRelay.Proofs.Decimal.Sign

namespace MetricRelay.Decimal

open Float.Model Float.Model.UnpackedFloat

/-! ### Small numbers -/

/-- A number of 53 bits divided by one. -/
theorem unpacked_div_one {m : Nat} (h : 0 < m) (hm : 2 ^ 52 ≤ m) (hlt : m < 2 ^ 53) {e : Int}
    (he : -1000 ≤ e) (hsmall : e ≤ 0) :
    div .binary64 (.finite .positive m e h) (.finite .positive (2 ^ 52) (-52) (by decide))
      = .finite .positive m e h := by
  have hlog : m.log2 = 52 := (Nat.log2_eq_iff (by omega)).mpr ⟨hm, hlt⟩
  have hone : (2 ^ 52 : Nat).log2 = 52 := Nat.log2_two_pow
  have htarget : min (e - -52) (Format.binary64.targetExponent
      (totalExponent m e - totalExponent (2 ^ 52) (-52))) = e - 1 := by
    simp only [targetExponent_eq, totalExponent, hlog, hone]
    omega
  -- the quotient has one bit more than the dividend, a zero at its end
  have hshift : (e - -52 - (e - 1)).toNat = 53 := by omega
  have hcore : divCore .binary64 m e (2 ^ 52) (-52) = (m * 2 ^ 1, e - 1, .exact) := by
    simp only [divCore, htarget, hshift, Nat.shiftLeft_eq]
    rw [show m * 2 ^ 53 = m * 2 ^ 1 * 2 ^ 52 by ring, Nat.mul_div_cancel _ (by positivity),
      Nat.mul_mod_left]
    rfl
  rw [UnpackedFloat.div]
  simp only [hcore]
  rw [show (Sign.positive / Sign.positive : Sign) = .positive from rfl,
    round_shiftLeft .positive h hm hlt 1 (by omega)]
  simp

theorem unpack_ofScientific {m : Nat} (hm : 0 < m) (hlt : m < 2 ^ 53) :
    (Float.ofScientific m true 0).toModel.unpack
      = .finite .positive (fullMantissa m) (-(52 - m.log2 : Nat)) (fullMantissa_pos hm) := by
  obtain ⟨hlow, hhigh⟩ := fullMantissa_bounds hm hlt
  rw [Float.ofScientific, dif_pos ⟨hlt, by decide⟩]
  have hone : (Float.ofBits 4607182418800017408).toModel.unpack
      = .finite .positive (2 ^ 52) (-52) (by decide) := rfl
  show (Float.Model.pack (div .binary64 m.toUInt64.toFloat.toModel.unpack
    (Float.ofBits 4607182418800017408).toModel.unpack)).unpack = _
  rw [hone, unpack_toFloat hm hlt, unpacked_div_one _ hlow hhigh (by omega) (by omega),
    unpack_pack_finite _ hlow hhigh (by omega) (by omega)]

theorem truncate?_of_unpack {x : Float} {u : UnpackedFloat} (h : x.toModel.unpack = u) :
    truncate? x = (partsDyadic? u).map Dyadic.truncate := by
  rw [truncate?, ofFloat?_eq, h]

theorem truncate_shifted (m k : Nat) :
    (⟨false, m * 2 ^ k, -(k : Int)⟩ : Dyadic).truncate = m := by
  rw [Dyadic.truncate]
  dsimp only
  rw [if_neg Bool.false_ne_true]
  split
  next h =>
    obtain rfl : k = 0 := by omega
    simp
  next h =>
    rw [neg_neg, Int.toNat_natCast]
    exact congrArg Nat.cast (Nat.mul_div_cancel m (Nat.pow_pos (by decide)))

/-- A positive whole number below `2 ^ 53` is a double. -/
theorem truncate?_ofScientific {m : Nat} (hm : 0 < m) (hlt : m < 2 ^ 53) :
    truncate? (Float.ofScientific m true 0) = some (m : Int) := by
  rw [truncate?_of_unpack (unpack_ofScientific hm hlt)]
  exact congrArg some (truncate_shifted m (52 - m.log2))

theorem isInf_eq_false_of_truncate? {x : Float} {n : Int} (h : truncate? x = some n) :
    x.isInf = false := by
  rw [truncate?, ofFloat?_eq] at h
  show x.toModel.unpack.isInf = false
  cases hu : x.toModel.unpack with
  | infinity s => rw [hu] at h; cases h
  | _ => rfl

/-- Positive whole numbers below `2 ^ 53` come back. -/
theorem truncate?_ofInt?_of_pos {n : Int} (hpos : 0 < n) (hlt : n < 2 ^ 53) :
    (ofInt? n).bind truncate? = some n := by
  have htruncate := truncate?_ofScientific (m := n.natAbs) (by omega) (by omega)
  have hfixed : ofFixed n 0 = Float.ofScientific n.natAbs true 0 := if_neg (by omega)
  rw [ofInt?, hfixed, isInf_eq_false_of_truncate? htruncate, if_neg (by decide), Option.bind_some,
    htruncate]
  congr 1
  omega

/-! ### Signs -/

/-- A positive whole number is full. -/
theorem full_ofScientific_whole {m : Nat} (hm : 0 < m) :
    Full .positive (-1074) (Float.ofScientific m true 0).toModel.unpack := by
  by_cases hlt : m < 2 ^ 53
  · rw [unpack_ofScientific hm hlt]
    obtain ⟨hlow, hhigh⟩ := fullMantissa_bounds hm hlt
    exact .finite _ hlow hhigh (by omega)
  · have hsize : Float.ofScientific m true 0
        = ⟨.pack (UnpackedFloat.ofScientific .binary64 m 0)⟩ := by
      rw [Float.ofScientific, dif_neg fun h => hlt h.1]
      rfl
    rw [hsize]
    refine Full.unpack_pack le_rfl ?_
    rw [UnpackedFloat.ofScientific, dif_neg hm.ne', if_neg (by norm_num), if_neg (by norm_num),
      if_pos le_rfl]
    have hround :=
      full_round .positive (m := m <<< 53 * 10 ^ 0) (e := -53 + 0) ?_ (by decide) .exact
    · exact hround.mono (by decide)
    · rw [pow_zero, mul_one, Nat.shiftLeft_eq]
      calc 2 ^ 52 ≤ 1 * 2 ^ 53 := by decide
        _ ≤ m * 2 ^ 53 := Nat.mul_le_mul_right _ hm

theorem truncate_zero (negative : Bool) (e : Int) : (⟨negative, 0, e⟩ : Dyadic).truncate = 0 := by
  simp [Dyadic.truncate]

theorem Full.truncate_nonpos {low : Int} {u : UnpackedFloat} (hu : Full .negative low u)
    {d : Dyadic} (hd : partsDyadic? u = some d) : d.truncate ≤ 0 := by
  cases hu with
  | infinity => cases hd
  | finite _ hm hlt he =>
    obtain rfl := Option.some.inj hd
    exact neg_nonpos.mpr (Int.natCast_nonneg _)

/-- What is not positive comes back as what is not positive. -/
theorem nonpos_of_truncate?_ofInt? {n z : Int} (hn : n ≤ 0)
    (h : (ofInt? n).bind truncate? = some z) : z ≤ 0 := by
  have htruncate : truncate? (ofFixed n 0) = some z := by
    rw [ofInt?] at h
    split at h
    · cases h
    · exact h
  rcases hn.lt_or_eq with hneg | rfl
  · have hfixed : ofFixed n 0 = -Float.ofScientific n.natAbs true 0 := if_pos hneg
    have hfull := (full_ofScientific_whole (m := n.natAbs) (by omega)).neg.unpack_pack le_rfl
    change Full .negative (-1074) (-Float.ofScientific n.natAbs true 0).toModel.unpack at hfull
    rw [hfixed, truncate?, ofFloat?_eq] at htruncate
    obtain ⟨d, hd, rfl⟩ := Option.map_eq_some_iff.mp htruncate
    exact hfull.truncate_nonpos hd
  · have hzero : truncate? (ofFixed 0 0) = some 0 := by
      rw [truncate?_of_unpack (u := .zero .positive) rfl]
      exact congrArg some (truncate_zero false (-1074))
    rw [hzero] at htruncate
    exact (Option.some.inj htruncate).ge

end MetricRelay.Decimal
