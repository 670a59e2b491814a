/-
ASCII digits and the numbers that they write.

Digits of one width and the numbers below a power of ten are the same thing: a number is padded to
digits that write it, and digits are those of the number that they write.

* `isDecimal_iff_isDigit` — ASCII has no other decimal digits;
* `ofDigits_paddedDigits`, `paddedDigits_ofDigits` — reading and writing undo each other;
* `length_digitsOf_le_iff` — how many digits a number has.
-/
import Mathlib.Data.List.Induction
import MetricRelay.Text.Digit

namespace MetricRelay.Text

/-! ### Characters -/

theorem toNat_digitChar {d : Nat} (h : d < 10) : (digitChar d).toNat = 0x30 + d := by
  have hall : ∀ d < 10, (digitChar d).toNat = 0x30 + d := by decide
  exact hall d h

theorem isDigit_iff_toNat (c : Char) : c.isDigit = true ↔ 0x30 ≤ c.toNat ∧ c.toNat < 0x3a := by
  have hzero : '0'.toNat = 0x30 := rfl
  have hnine : '9'.toNat = 0x39 := rfl
  rw [Char.isDigit_iff_toNat, hzero, hnine]
  omega

theorem isDigit_digitChar {d : Nat} (h : d < 10) : (digitChar d).isDigit = true := by
  rw [isDigit_iff_toNat, toNat_digitChar h]
  omega

theorem digitChar_toNat {c : Char} (h : c.isDigit = true) : digitChar (c.toNat - 0x30) = c := by
  obtain ⟨hlow, hhigh⟩ := (isDigit_iff_toNat c).mp h
  have hlt : c.toNat - 0x30 < 10 := by omega
  refine Char.toNat_inj.mp ?_
  rw [toNat_digitChar hlt]
  omega

theorem isDecimal_iff (c : Char) :
    isDecimal c = true ↔ ∃ z ∈ digitZeros, z ≤ c.toNat ∧ c.toNat < z + 10 := by
  simp [isDecimal, digitValue?]

theorem isDecimal_of_isDigit {c : Char} (h : c.isDigit = true) : isDecimal c = true := by
  obtain ⟨hlow, hhigh⟩ := (isDigit_iff_toNat c).mp h
  exact (isDecimal_iff c).mpr ⟨0x30, List.mem_cons_self, hlow, by omega⟩

/-- The decimal digits of ASCII are the usual ones. -/
theorem isDecimal_iff_isDigit {c : Char} (h : c.toNat < 128) :
    isDecimal c = true ↔ c.isDigit = true := by
  refine ⟨fun hc => ?_, isDecimal_of_isDigit⟩
  obtain ⟨z, hz, hlow, hhigh⟩ := (isDecimal_iff c).mp hc
  have hzeros : ∀ z ∈ digitZeros, z = 0x30 ∨ 128 ≤ z := by decide
  rw [isDigit_iff_toNat]
  rcases hzeros z hz with rfl | hz
  · omega
  · omega

/-! ### Numbers -/

theorem ofDigits_concat (ds : List Nat) (d : Nat) :
    ofDigits (ds ++ [d]) = 10 * ofDigits ds + d := by
  rw [ofDigits, ofDigits, List.foldl_append]
  rfl

theorem ofDigits_zero_cons (ds : List Nat) : ofDigits (0 :: ds) = ofDigits ds := rfl

theorem ofDigits_zeros_append (k : Nat) (ds : List Nat) :
    ofDigits (List.replicate k 0 ++ ds) = ofDigits ds := by
  induction k with
  | zero => rfl
  | succ k ih => rw [List.replicate_succ, List.cons_append, ofDigits_zero_cons, ih]

theorem ofDigits_lt {ds : List Nat} (h : ∀ d ∈ ds, d < 10) :
    ofDigits ds < Nat.pow 10 ds.length := by
  induction ds using List.reverseRecOn with
  | nil => decide
  | append_singleton ds d ih =>
    have hds := ih fun e he => h e (List.mem_append_left _ he)
    have hd := h d (List.mem_append_right _ List.mem_cons_self)
    have hpow : Nat.pow 10 (ds ++ [d]).length = Nat.pow 10 ds.length * 10 := by
      rw [List.length_append]
      rfl
    rw [ofDigits_concat, hpow]
    omega

/-- Digits of one width differ if their numbers do not. -/
theorem ofDigits_inj {ds es : List Nat} (hlength : ds.length = es.length) (hds : ∀ d ∈ ds, d < 10)
    (hes : ∀ d ∈ es, d < 10) (h : ofDigits ds = ofDigits es) : ds = es := by
  -- on the last digit, which is what the number leaves when it is divided by ten
  induction ds using List.reverseRecOn generalizing es with
  | nil => exact (List.length_eq_zero_iff.mp hlength.symm).symm
  | append_singleton ds d ih =>
    rcases List.eq_nil_or_concat es with rfl | ⟨es, e, rfl⟩
    · simp at hlength
    · rw [List.concat_eq_append] at *
      have hd := hds d (List.mem_append_right _ List.mem_cons_self)
      have he := hes e (List.mem_append_right _ List.mem_cons_self)
      rw [ofDigits_concat, ofDigits_concat] at h
      have hlast : d = e := by omega
      have hfront : ds = es := by
        refine ih (by simpa using hlength) (fun x hx => hds x (List.mem_append_left _ hx))
          (fun x hx => hes x (List.mem_append_left _ hx)) ?_
        omega
      rw [hfront, hlast]

theorem digitsOf_of_lt {n : Nat} (h : n < 10) : digitsOf n = [n] := by
  rw [digitsOf, if_pos h]

theorem digitsOf_of_le {n : Nat} (h : 10 ≤ n) : digitsOf n = digitsOf (n / 10) ++ [n % 10] := by
  rw [digitsOf, if_neg (by omega)]

theorem lt_ten_of_mem_digitsOf {n d : Nat} (h : d ∈ digitsOf n) : d < 10 := by
  induction n using digitsOf.induct with
  | case1 n hn =>
    rw [digitsOf_of_lt hn, List.mem_singleton] at h
    omega
  | case2 n hn ih =>
    rw [digitsOf_of_le (by omega), List.mem_append, List.mem_singleton] at h
    rcases h with h | h
    · exact ih h
    · omega

theorem ofDigits_digitsOf (n : Nat) : ofDigits (digitsOf n) = n := by
  induction n using digitsOf.induct with
  | case1 n hn =>
    rw [digitsOf_of_lt hn]
    exact Nat.zero_add n
  | case2 n hn ih =>
    rw [digitsOf_of_le (by omega), ofDigits_concat, ih]
    omega

theorem length_digitsOf_pos (n : Nat) : 0 < (digitsOf n).length := by
  rw [digitsOf]
  split
  · exact Nat.one_pos
  · rw [List.length_append]
    exact Nat.succ_pos _

/-- A number has at most as many digits as the power of ten has zeros that it stays below. -/
theorem length_digitsOf_le_iff {k : Nat} (hk : 0 < k) (n : Nat) :
    (digitsOf n).length ≤ k ↔ n < Nat.pow 10 k := by
  induction k generalizing n with
  | zero => omega
  | succ k ih =>
    have hpow : Nat.pow 10 (k + 1) = Nat.pow 10 k * 10 := rfl
    have hpos : 0 < Nat.pow 10 k := Nat.pow_pos (by decide)
    rw [hpow]
    by_cases hn : n < 10
    · rw [digitsOf_of_lt hn, List.length_singleton]
      omega
    · rw [digitsOf_of_le (by omega), List.length_append, List.length_singleton]
      cases k with
      | zero =>
        have hlength := length_digitsOf_pos (n / 10)
        have hone : Nat.pow 10 0 = 1 := rfl
        omega
      | succ k =>
        have hih := ih (by omega) (n / 10)
        omega

/-- The digits of a number, with zeros in front up to a width. -/
def paddedDigits (width n : Nat) : List Nat :=
  List.replicate (width - (digitsOf n).length) 0 ++ digitsOf n

theorem padded_eq (width n : Nat) : padded width n = (paddedDigits width n).map digitChar := by
  rw [padded, paddedDigits, List.map_append, List.map_replicate]
  rfl

theorem lt_ten_of_mem_paddedDigits {width n d : Nat} (h : d ∈ paddedDigits width n) : d < 10 := by
  rcases List.mem_append.mp h with h | h
  · rw [(List.mem_replicate.mp h).2]
    decide
  · exact lt_ten_of_mem_digitsOf h

theorem ofDigits_paddedDigits (width n : Nat) : ofDigits (paddedDigits width n) = n := by
  rw [paddedDigits, ofDigits_zeros_append, ofDigits_digitsOf]

theorem length_paddedDigits {width n : Nat} (hw : 0 < width) (h : n < Nat.pow 10 width) :
    (paddedDigits width n).length = width := by
  have hle := (length_digitsOf_le_iff hw n).mpr h
  rw [paddedDigits, List.length_append, List.length_replicate]
  omega

theorem paddedDigits_ofDigits {ds : List Nat} (hne : ds ≠ []) (h : ∀ d ∈ ds, d < 10) :
    paddedDigits ds.length (ofDigits ds) = ds := by
  refine ofDigits_inj ?_ (fun d hd => lt_ten_of_mem_paddedDigits hd) h (ofDigits_paddedDigits _ _)
  exact length_paddedDigits (List.length_pos_iff.mpr hne) (ofDigits_lt h)

/-- A number that has the width needs no zeros. -/
theorem padded_eq_decimal {width n : Nat} (h : (digitsOf n).length = width) :
    padded width n = decimal n := by
  rw [padded, h, Nat.sub_self]
  rfl

end MetricRelay.Text
