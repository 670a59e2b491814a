/-
The parts of a double.

A double has a sign, a mantissa and an exponent, which its bits keep (`unpack_pack_finite`).
Rounding leaves a mantissa of 53 bits alone, and cuts off nothing but the zeros behind it
(`round_shiftLeft`).

* `unpack_toFloat` — the parts of a positive whole number below `2 ^ 53`;
* `ofFloat?_eq` — the parts are what the exact value of a double is read from;
* `eq_infinity_of_unpack` — the parts of positive infinity belong to one double.
-/
import Mathlib
import MetricRelay.Decimal.Binary

namespace MetricRelay.Decimal

open Float.Model Float.Model.UnpackedFloat

/-! ### Bits -/

/-- The bits keep a mantissa of 53 bits with an exponent in range. -/
theorem unpack_pack_finite {s : Sign} {m : Nat} {e : Int} (h : 0 < m) (hm : 2 ^ 52 ≤ m)
    (hlt : m < 2 ^ 53) (he : -1074 ≤ e) (hsmall : e < 972) :
    (Float.Model.pack (.finite s m e h)).unpack = .finite s m e h := by
  have hlog : m.log2 = 52 := (Nat.log2_eq_iff (by omega)).mpr ⟨hm, hlt⟩
  have hbias :
      (e + Format.binary64.exponentBias + Format.binary64.mantissaBitsWithoutImplicit).toNat
        = (e + 1075).toNat := by
    show (e + (2 ^ (11 - 1) - 1 : Nat) + (52 : Nat)).toNat = (e + 1075).toNat
    omega
  show unpack .binary64 (pack .binary64 (.finite s m e h)) = _
  rw [UnpackedFloat.pack]
  simp only [hlog, hbias]
  -- the field of the exponent is neither all ones nor all zeros
  have hfield : (BitVec.ofNat 11 (e + 1075).toNat).toNat = (e + 1075).toNat := by
    rw [BitVec.toNat_ofNat, Nat.mod_eq_of_lt (by omega)]
  have hones : BitVec.ofNat 11 (e + 1075).toNat ≠ -1#11 := by
    intro heq
    have htop : (e + 1075).toNat = 2047 := hfield.symm.trans (congrArg BitVec.toNat heq)
    omega
  have hzeros : BitVec.ofNat 11 (e + 1075).toNat ≠ 0#11 := by
    intro heq
    have hbottom : (e + 1075).toNat = 0 := hfield.symm.trans (congrArg BitVec.toNat heq)
    omega
  have hmantissa : (1#1 ++ BitVec.ofNat 52 m).toNat = m := by
    rw [BitVec.toNat_append, ← Nat.shiftLeft_add_eq_or_of_lt (BitVec.ofNat 52 m).isLt,
      BitVec.toNat_ofNat, Nat.shiftLeft_eq, BitVec.toNat_ofNat]
    omega
  have hexponent : ((e + 1075).toNat : Int) - (Format.binary64.exponentBias + (52 : Nat)) = e := by
    show ((e + 1075).toNat : Int) - ((2 ^ (11 - 1) - 1 : Nat) + (52 : Nat)) = e
    omega
  have hsize : ¬2 ^ 11 ≤ (e + 1075).toNat + 1 := by omega
  rw [if_neg hsize, if_pos (by simp [Format.mantissaBits]), UnpackedFloat.unpack]
  simp only [unpackMantissa_packComponents, unpackExponent_packComponents,
    unpackSign_packComponents, Sign.ofBitVec_toBitVec, if_neg hones, if_neg hzeros,
    hmantissa, hfield, hexponent]

/-! ### Rounding -/

theorem targetExponent_eq (e : Int) :
    Format.binary64.targetExponent e = max (e - 53) (-1074) := by
  simp only [Format.targetExponent]
  rfl

theorem shiftRight_shiftLeft (m j : Nat) :
    (⟨m * 2 ^ j, false, false⟩ : ExtendedMantissa) >>> j = ⟨m, false, false⟩ := by
  induction j generalizing m with
  | zero => simp [HShiftRight.hShiftRight, Nat.repeat]
  | succ j ih =>
    show ExtendedMantissa.shiftRightOne
      ((⟨m * 2 ^ (j + 1), false, false⟩ : ExtendedMantissa) >>> j) = _
    rw [pow_succ, mul_comm _ 2, ← mul_assoc, ih]
    simp [ExtendedMantissa.shiftRightOne]

theorem shiftToTargetExponent_shiftLeft {m : Nat} (hm : 2 ^ 52 ≤ m) (hlt : m < 2 ^ 53) (j : Nat)
    {e : Int} (he : -1074 ≤ e + j) :
    shiftToTargetExponent .binary64 (m * 2 ^ j) e .exact = (⟨m, false, false⟩, e + j) := by
  have hlog : (m * 2 ^ j).log2 = 52 + j := by
    refine (Nat.log2_eq_iff (by positivity)).mpr ⟨?_, ?_⟩
    · rw [pow_add]
      exact Nat.mul_le_mul_right _ hm
    · rw [show 52 + j + 1 = 53 + j by omega, pow_add]
      exact Nat.mul_lt_mul_of_pos_right hlt (by positivity)
  have hshift : (Format.binary64.targetExponent (totalExponent (m * 2 ^ j) e) - e).toNat = j := by
    simp only [targetExponent_eq, totalExponent, hlog]
    omega
  simp only [shiftToTargetExponent, shiftToExponent, hshift]
  exact congrArg (·, e + (j : Int)) (shiftRight_shiftLeft m j)

/-- Rounding cuts off the zeros behind a mantissa of 53 bits, and nothing else. -/
theorem round_shiftLeft (s : Sign) {m : Nat} (h : 0 < m) (hm : 2 ^ 52 ≤ m) (hlt : m < 2 ^ 53)
    (j : Nat) {e : Int} (he : -1074 ≤ e + j) :
    roundWithAccuracy .binary64 s (m * 2 ^ j) e .exact = .finite s m (e + j) h := by
  have hsecond := shiftToTargetExponent_shiftLeft hm hlt 0 (e := e + j) (by omega)
  rw [pow_zero, mul_one] at hsecond
  rw [roundWithAccuracy, shiftToTargetExponent_shiftLeft hm hlt j he]
  have hrounded : (⟨m, false, false⟩ : ExtendedMantissa).roundedMantissa = m := rfl
  simp only [hrounded, hsecond]
  rw [dif_neg h.ne']
  simp

theorem log2_le {m : Nat} (hm : 0 < m) (hlt : m < 2 ^ 53) : m.log2 ≤ 52 :=
  Nat.lt_succ_iff.mp ((Nat.log2_lt hm.ne').mpr hlt)

/-- The mantissa of 53 bits of a positive number below `2 ^ 53`. -/
def fullMantissa (m : Nat) : Nat :=
  m * 2 ^ (52 - m.log2)

theorem fullMantissa_bounds {m : Nat} (hm : 0 < m) (hlt : m < 2 ^ 53) :
    2 ^ 52 ≤ fullMantissa m ∧ fullMantissa m < 2 ^ 53 := by
  have hpow : 2 ^ m.log2 * 2 ^ (52 - m.log2) = 2 ^ 52 := by
    rw [← pow_add, Nat.add_sub_cancel' (log2_le hm hlt)]
  constructor
  · rw [← hpow]
    exact Nat.mul_le_mul_right _ (Nat.log2_self_le hm.ne')
  · calc fullMantissa m < 2 ^ (m.log2 + 1) * 2 ^ (52 - m.log2) :=
        Nat.mul_lt_mul_of_pos_right Nat.lt_log2_self (by positivity)
      _ = 2 ^ 53 := by rw [pow_succ, mul_right_comm, hpow, ← pow_succ]

theorem fullMantissa_pos {m : Nat} (hm : 0 < m) : 0 < fullMantissa m :=
  Nat.mul_pos hm (by positivity)

/-- A positive whole number below `2 ^ 53` is converted without rounding. -/
theorem unpack_toFloat {m : Nat} (hm : 0 < m) (hlt : m < 2 ^ 53) :
    m.toUInt64.toFloat.toModel.unpack
      = .finite .positive (fullMantissa m) (-(52 - m.log2 : Nat)) (fullMantissa_pos hm) := by
  have hlog := log2_le hm hlt
  obtain ⟨hlow, hhigh⟩ := fullMantissa_bounds hm hlt
  have hnat : m.toUInt64.toNat = m := by
    rw [Nat.toUInt64_eq, UInt64.toNat_ofNat_of_lt' (by rw [UInt64.size]; omega)]
  have hshift : (0 - Format.binary64.targetExponent (totalExponent m 0)).toNat = 52 - m.log2 := by
    simp only [targetExponent_eq, totalExponent]
    omega
  have hpositive : compare (m : Int) 0 = .gt := by
    rw [compare_gt_iff_gt]
    omega
  have hround : UnpackedFloat.ofUInt64 .binary64 m.toUInt64
      = .finite .positive (fullMantissa m) (-(52 - m.log2 : Nat)) (fullMantissa_pos hm) := by
    rw [UnpackedFloat.ofUInt64, hnat, UnpackedFloat.ofNat, UnpackedFloat.ofInt]
    simp only [UnpackedFloat.normalize, hpositive, UnpackedFloat.round, decreaseExponent, hshift,
      Int.toNat_natCast, Nat.shiftLeft_eq]
    have h := round_shiftLeft .positive (fullMantissa_pos hm) hlow hhigh 0
      (e := 0 - (52 - m.log2 : Nat)) (by omega)
    rw [pow_zero, mul_one] at h
    simpa [fullMantissa] using h
  show (Float.Model.pack (UnpackedFloat.ofUInt64 .binary64 m.toUInt64)).unpack = _
  rw [hround, unpack_pack_finite _ hlow hhigh (by omega) (by omega)]

/-! ### Exact values -/

theorem toNat_unpackExponent (b : BitVec 64) :
    (@unpackExponent .binary64 b).toNat = b.toNat / leadingBit % 2048 := by
  rw [unpackExponent_def, BitVec.extractLsb'_toNat, Nat.shiftRight_eq_div_pow]
  rfl

theorem toNat_unpackMantissa (b : BitVec 64) :
    (@unpackMantissa .binary64 b).toNat = b.toNat % leadingBit := by
  rw [unpackMantissa_def, BitVec.extractLsb'_toNat, Nat.shiftRight_zero]
  rfl

theorem ofBitVec_unpackSign_beq (b : BitVec 64) :
    (Sign.ofBitVec (@unpackSign .binary64 b) == .negative) = (b.toNat / signBit == 1) := by
  have hsign : (@unpackSign .binary64 b).toNat = b.toNat / signBit := by
    rw [unpackSign_def, BitVec.extractLsb'_toNat, Nat.shiftRight_eq_div_pow]
    show b.toNat / 2 ^ 63 % 2 ^ 1 = b.toNat / 2 ^ 63
    have := b.isLt
    omega
  rw [← hsign]
  generalize @unpackSign .binary64 b = bit
  decide +revert

/-- Only one word has the parts of positive infinity. -/
theorem toNat_of_unpack_infinity {b : BitVec 64} (h : unpack .binary64 b = .infinity .positive) :
    b.toNat = 0x7ff * leadingBit := by
  have hexponent := toNat_unpackExponent b
  have hmantissa := toNat_unpackMantissa b
  have hsign := ofBitVec_unpackSign_beq b
  rw [UnpackedFloat.unpack] at h
  dsimp only at h
  split at h
  · next hones =>
    split at h
    · next hzero =>
      rw [UnpackedFloat.infinity.inj h] at hsign
      have hfield : 0x7ff = b.toNat / leadingBit % 2048 := by simpa [hones] using hexponent
      have hfraction : 0 = b.toNat % leadingBit := by simpa [hzero] using hmantissa
      have hpositive : b.toNat / signBit ≠ 1 := by simpa using hsign
      have hleading : leadingBit = 2 ^ 52 := rfl
      have hsignBit : signBit = 2 ^ 63 := rfl
      rw [hleading] at hfield hfraction ⊢
      rw [hsignBit] at hpositive
      have := b.isLt
      omega
    · cases h
  · split at h
    · split at h <;> cases h
    · cases h

theorem eq_infinity_of_unpack {x : Float} (h : x.toModel.unpack = .infinity .positive) :
    x = infinity := by
  have hbits : x.toModel.toBits = infinity.toModel.toBits :=
    UInt64.toNat_inj.mp ((toNat_of_unpack_infinity h).trans (by decide))
  obtain ⟨⟨bits, valid⟩⟩ := x
  obtain rfl : bits = infinity.toModel.toBits := hbits
  rfl

/-- The exact value of the parts of a finite double. -/
def partsDyadic? : UnpackedFloat → Option Dyadic
  | .finite s m e _ => some ⟨s == .negative, m, e⟩
  | .zero s => some ⟨s == .negative, 0, -1074⟩
  | _ => none

theorem partsDyadic?_unpack (b : BitVec 64) :
    partsDyadic? (unpack .binary64 b) =
      if b.toNat / leadingBit % 2048 = 0x7ff then none
      else if b.toNat / leadingBit % 2048 = 0 then
        some ⟨b.toNat / signBit == 1, b.toNat % leadingBit, -1074⟩
      else
        some ⟨b.toNat / signBit == 1, leadingBit + b.toNat % leadingBit,
          (b.toNat / leadingBit % 2048 : Nat) - 1075⟩ := by
  rw [UnpackedFloat.unpack]
  dsimp only
  rw [← toNat_unpackExponent, ← toNat_unpackMantissa, ← ofBitVec_unpackSign_beq]
  by_cases hones : @unpackExponent .binary64 b = -1#11
  · have hones' : (@unpackExponent .binary64 b).toNat = 0x7ff := by
      rw [hones]
      rfl
    rw [if_pos hones, if_pos hones']
    split <;> rfl
  have hones' : (@unpackExponent .binary64 b).toNat ≠ 0x7ff := fun h =>
    hones (BitVec.eq_of_toNat_eq h)
  rw [if_neg hones, if_neg hones']
  by_cases hzeros : @unpackExponent .binary64 b = 0#11
  · have hzeros' : (@unpackExponent .binary64 b).toNat = 0 := by
      rw [hzeros]
      rfl
    rw [if_pos hzeros, if_pos hzeros']
    split
    next hzero =>
      rw [hzero]
      rfl
    next =>
      rw [partsDyadic?, hzeros]
      rfl
  · have hzeros' : (@unpackExponent .binary64 b).toNat ≠ 0 := fun h =>
      hzeros (BitVec.eq_of_toNat_eq h)
    have hmantissa : (1#1 ++ @unpackMantissa .binary64 b).toNat
        = leadingBit + (@unpackMantissa .binary64 b).toNat := by
      rw [BitVec.toNat_append, ← Nat.shiftLeft_add_eq_or_of_lt (BitVec.isLt _), Nat.shiftLeft_eq]
      rfl
    rw [if_neg hzeros, if_neg hzeros', partsDyadic?, hmantissa]
    rfl

/-- The exact value of a double is that of its parts. -/
theorem ofFloat?_eq (x : Float) : Dyadic.ofFloat? x = partsDyadic? x.toModel.unpack :=
  (partsDyadic?_unpack x.toModel.toBits.toBitVec).symm

end MetricRelay.Decimal
