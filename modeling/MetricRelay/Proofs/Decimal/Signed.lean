/-
Numbers of one sign.

Adding numbers of one sign and multiplying by what is neither zero nor infinite leaves a number, and
the sign is known.  `Signed` says of the parts of a double that they are a number with a given sign,
where the zeros and the infinities have signs too:

* `Signed.add`, `Signed.mul`, `Signed.div` — sums, products and quotients;
* `Signed.unpack_pack` — bits keep the sign;
* `isPlus_nearest` — what digits are rounded to is a number with a plus sign.
-/
import Mathlib
import MetricRelay.Decimal.Binary

namespace MetricRelay.Decimal

open Float.Model Float.Model.UnpackedFloat

/-- A number with a sign. -/
inductive Signed (s : Sign) : UnpackedFloat → Prop
  | infinity : Signed s (.infinity s)
  | zero : Signed s (.zero s)
  | finite {m : Nat} {e : Int} (h : 0 < m) : Signed s (.finite s m e h)

/-- A number with a sign that is neither zero nor infinite. -/
inductive SignedProper (s : Sign) : UnpackedFloat → Prop
  | finite {m : Nat} {e : Int} (h : 0 < m) : SignedProper s (.finite s m e h)

instance : (s : Sign) → DecidablePred (SignedProper s)
  | .positive, .finite .positive _ _ h | .negative, .finite .negative _ _ h => .isTrue (.finite h)
  | .positive, .finite .negative _ _ _ | .negative, .finite .positive _ _ _ | _, .infinity _
  | _, .notANumber | _, .zero _ => .isFalse nofun

section

variable {s t : Sign} {u v : UnpackedFloat}

theorem Signed.isNaN (hu : Signed s u) : u.isNaN = false := by
  cases hu <;> rfl

/-- All but NaN is a number with a sign. -/
theorem exists_signed (hu : u.isNaN = false) : ∃ s, Signed s u := by
  cases u with
  | infinity s => exact ⟨s, .infinity⟩
  | notANumber => cases hu
  | zero s => exact ⟨s, .zero⟩
  | finite s m e h => exact ⟨s, .finite h⟩

theorem signed_roundWithAccuracy (s : Sign) (m : Nat) (e : Int) (a : Accuracy) :
    Signed s (roundWithAccuracy .binary64 s m e a) := by
  rw [roundWithAccuracy]
  dsimp only
  split
  · exact .zero
  · exact .finite _

/-- What is not negative is rounded to what is not negative. -/
theorem signed_normalize {m : Int} (hm : 0 ≤ m) (e : Int) :
    Signed .positive (normalize .binary64 m e .positive) := by
  rw [UnpackedFloat.normalize]
  split
  · next h => exact absurd (compare_lt_iff_lt.mp h) (not_lt.mpr hm)
  · exact .zero
  · exact signed_roundWithAccuracy _ _ _ _

/-! ### Bits -/

theorem signed_unpack_packComponents (s : Sign) {e : BitVec 11} (he : e ≠ -1#11) (m : BitVec 52) :
    Signed s (unpack .binary64 (packComponents .binary64 s e m)) := by
  rw [UnpackedFloat.unpack]
  simp only [unpackExponent_packComponents, unpackMantissa_packComponents,
    unpackSign_packComponents, Sign.ofBitVec_toBitVec, if_neg he]
  split
  · split
    · exact .zero
    · exact .finite _
  · exact .finite _

theorem Signed.unpack_pack (hu : Signed s u) : Signed s (Float.Model.pack u).unpack := by
  show Signed s (unpack .binary64 (pack .binary64 u))
  cases hu with
  | infinity => cases s <;> exact .infinity
  | zero => cases s <;> exact .zero
  | @finite m e h =>
    rw [UnpackedFloat.pack]
    dsimp only
    split
    · cases s <;> exact .infinity
    · next hsmall =>
      split
      · refine signed_unpack_packComponents s (fun hones => ?_) _
        have htop := congrArg BitVec.toNat hones
        rw [BitVec.toNat_ofNat, Nat.mod_eq_of_lt (by omega)] at htop
        change _ = 2047 at htop
        omega
      · exact signed_unpack_packComponents s (by decide) _

/-! ### Operations -/

theorem Signed.mul (hu : Signed s u) (hv : SignedProper t v) :
    Signed (s * t) (mul .binary64 u v) := by
  cases hv
  cases hu with
  | infinity => exact .infinity
  | zero => exact .zero
  | finite h => exact signed_roundWithAccuracy _ _ _ _

theorem SignedProper.mul (hu : SignedProper s u) (hv : Signed t v) :
    Signed (s * t) (mul .binary64 u v) := by
  cases hu
  cases hv with
  | infinity => exact .infinity
  | zero => exact .zero
  | finite h => exact signed_roundWithAccuracy _ _ _ _

theorem Signed.div (hu : Signed s u) (hv : SignedProper t v) :
    Signed (s / t) (div .binary64 u v) := by
  cases hv
  cases hu with
  | infinity => exact .infinity
  | zero => exact .zero
  | finite h => exact signed_roundWithAccuracy _ _ _ _

theorem Signed.add (hu : Signed .positive u) (hv : Signed .positive v) :
    Signed .positive (add .binary64 u v) := by
  cases hu with
  | infinity => cases hv <;> exact .infinity
  | zero =>
    cases hv with
    | infinity => exact .infinity
    | zero => exact .zero
    | finite h => exact .finite h
  | finite h =>
    cases hv with
    | infinity => exact .infinity
    | zero => exact .finite h
    | finite h' =>
      exact signed_normalize (Int.add_nonneg (Int.natCast_nonneg _) (Int.natCast_nonneg _)) _

end

/-! ### Doubles -/

/-- A double that is a number with a plus sign. -/
def IsPlus (x : Float) : Prop :=
  Signed .positive x.toModel.unpack

theorem IsPlus.add {x y : Float} (hx : IsPlus x) (hy : IsPlus y) : IsPlus (x + y) :=
  (Signed.add hx hy).unpack_pack

theorem IsPlus.mul {x y : Float} (hx : IsPlus x) (hy : SignedProper .positive y.toModel.unpack) :
    IsPlus (x * y) :=
  (Signed.mul hx hy).unpack_pack

/-- A number has a product with a factor that is neither zero nor infinite. -/
theorem isNaN_mul {s t : Sign} {x y : Float} (hx : SignedProper s x.toModel.unpack)
    (hy : Signed t y.toModel.unpack) : (x * y).isNaN = false :=
  (SignedProper.mul hx hy).unpack_pack.isNaN

/-! ### Decimals -/

theorem signedProper_power : ∀ e : Fin Float.exactlyRepresentablePowersOfTen.size,
    SignedProper .positive Float.exactlyRepresentablePowersOfTen[e].toModel.unpack := by
  decide

theorem isPlus_ofScientific (m : Nat) (negative : Bool) (e : Nat) :
    IsPlus (Float.ofScientific m negative e) := by
  rw [Float.ofScientific]
  split
  · next h =>
    have hm : IsPlus m.toUInt64.toFloat :=
      (signed_normalize (Int.natCast_nonneg _) 0).unpack_pack
    have hpower := signedProper_power ⟨e, show e < 23 by omega⟩
    split
    · exact (Signed.div hm hpower).unpack_pack
    · exact (Signed.mul hm hpower).unpack_pack
  · have hsize : ∀ e, Signed .positive (UnpackedFloat.ofScientific .binary64 m e) := by
      intro e
      rw [UnpackedFloat.ofScientific]
      split
      · exact .zero
      split
      · exact .infinity
      split
      · exact .zero
      split
      · exact Signed.mul (s := .positive) (t := .positive) (.finite _) (.finite _)
      · exact Signed.div (s := .positive) (t := .positive) (.finite _) (.finite _)
    exact (hsize _).unpack_pack

theorem isPlus_nearest (m digits : Nat) (e : Int) : IsPlus (nearest m digits e) := by
  rw [nearest]
  split
  · exact .zero
  split
  · exact .infinity
  split
  · exact .zero
  · exact isPlus_ofScientific _ _ _

end MetricRelay.Decimal
