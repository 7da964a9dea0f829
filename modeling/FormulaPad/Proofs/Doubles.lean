import FormulaPad.Decimal.Binary64
import Mathlib

/-!
# FormulaPad.Proofs.Doubles

The rational number that a double stands for.

`exactValue` reads it off the sign, mantissa and exponent of the logical model
of `Float`. Main statements: `ofFloat_of_isFinite` (the bits of a finite double
are taken apart into the same sign and number) and `fraction_eq` (its fraction
of natural numbers has that value).
-/

namespace FormulaPad

open Float.Model (UnpackedFloat Format)
open Float.Model.UnpackedFloat (unpackExponent unpackMantissa unpackSign)

/-- The rational number of an unpacked double; infinities and what is no number have none, and
zero in its place. -/
def rational : UnpackedFloat → ℚ
  | .finite .negative mantissa exponent _ => -(mantissa * 2 ^ exponent)
  | .finite .positive mantissa exponent _ => mantissa * 2 ^ exponent
  | _ => 0

/-- The rational number that a finite double stands for. -/
def exactValue (x : Float) : ℚ := rational x.toModel.unpack

namespace Binary64

/-! ## The fields of the bits -/

theorem toNat_unpackExponent (b : BitVec 64) :
    (@unpackExponent Format.binary64 b).toNat = b.toNat / Nat.pow 2 52 % 2048 := by
  simp [unpackExponent, BitVec.extractLsb_toNat, Nat.shiftRight_eq_div_pow]

theorem toNat_unpackMantissa (b : BitVec 64) :
    (@unpackMantissa Format.binary64 b).toNat = b.toNat % Nat.pow 2 52 := by
  simp [unpackMantissa, BitVec.extractLsb_toNat]

/-- The leading bit that a normal number leaves out. -/
theorem toNat_one_append (m : BitVec 52) : (1#1 ++ m).toNat = m.toNat + Nat.pow 2 52 := by
  rw [BitVec.toNat_append, ← Nat.shiftLeft_add_eq_or_of_lt m.isLt, Nat.add_comm]
  rfl

theorem abs_rational_finite (sign : UnpackedFloat.Sign) (m : Nat) (e : Int) (h : 0 < m) :
    |rational (.finite sign m e h)| = m * 2 ^ e := by
  have hpos : (0 : ℚ) ≤ m * 2 ^ e := mul_nonneg (Nat.cast_nonneg m) (zpow_nonneg (by norm_num) e)
  cases sign with
  | negative => rw [rational, abs_neg, abs_of_nonneg hpos]
  | positive => rw [rational, abs_of_nonneg hpos]

/-- The exponent field of a finite double is not the largest. -/
theorem exponent_ne_of_isFinite {x : Float} (h : x.isFinite = true) :
    x.toBits.toNat / Nat.pow 2 52 % 2048 ≠ 2047 := by
  intro he
  have hall : @unpackExponent Format.binary64 x.toModel.toBits.toBitVec = -1#11 := by
    apply BitVec.eq_of_toNat_eq
    rw [toNat_unpackExponent]
    exact he
  simp only [Float.isFinite, Float.Model.isFinite, Float.Model.unpack, UnpackedFloat.unpack] at h
  rw [if_pos hall] at h
  split at h <;> simp [UnpackedFloat.isFinite] at h

/-- The exponent field of the bits without the sign. -/
theorem exponentField_mod (n : Nat) :
    n % Nat.pow 2 63 / Nat.pow 2 52 = n / Nat.pow 2 52 % 2048 := by
  simp only [Nat.pow_eq, Nat.reducePow]; omega

theorem mantissaField_mod (n : Nat) : n % Nat.pow 2 63 % Nat.pow 2 52 = n % Nat.pow 2 52 := by
  simp only [Nat.pow_eq, Nat.reducePow]; omega

theorem magnitude_subnormal {n : Nat} (h : n / Nat.pow 2 52 % 2048 = 0) :
    magnitude (n % Nat.pow 2 63) = (n % Nat.pow 2 52, -1074) := by
  have hmod : n % Nat.pow 2 63 = n % Nat.pow 2 52 := by
    simp only [Nat.pow_eq, Nat.reducePow] at h ⊢; omega
  rw [magnitude, exponentField_mod, if_pos h, hmod]

theorem magnitude_normal {n : Nat} (h : n / Nat.pow 2 52 % 2048 ≠ 0) :
    magnitude (n % Nat.pow 2 63) =
      (n % Nat.pow 2 52 + Nat.pow 2 52, ((n / Nat.pow 2 52 % 2048 : Nat) : Int) - 1075) := by
  rw [magnitude, exponentField_mod, if_neg h, mantissaField_mod]

/-- The number that a finite double stands for is the one that its bits are read as. -/
theorem abs_exactValue {x : Float} (h : x.isFinite = true) :
    |exactValue x| = (magnitude (x.toBits.toNat % Nat.pow 2 63)).1 *
      2 ^ (magnitude (x.toBits.toNat % Nat.pow 2 63)).2 := by
  have hmax := exponent_ne_of_isFinite h
  have hexp := toNat_unpackExponent x.toModel.toBits.toBitVec
  have hman := toNat_unpackMantissa x.toModel.toBits.toBitVec
  have hbits : x.toModel.toBits.toBitVec.toNat = x.toBits.toNat := rfl
  rw [hbits] at hexp hman
  have hall : @unpackExponent Format.binary64 x.toModel.toBits.toBitVec ≠ -1#11 := by
    intro he
    rw [he] at hexp
    exact hmax hexp.symm
  rw [exactValue, Float.Model.unpack, UnpackedFloat.unpack, if_neg hall]
  split
  case isTrue hzero =>
      have hfield : x.toBits.toNat / Nat.pow 2 52 % 2048 = 0 := by rw [← hexp, hzero]; rfl
      rw [magnitude_subnormal hfield, ← hman]
      split
      case isTrue hm => rw [hm]; simp [rational]
      case isFalse hm =>
          rw [abs_rational_finite, hzero]
          rfl
  case isFalse hne =>
      have hfield : x.toBits.toNat / Nat.pow 2 52 % 2048 ≠ 0 := by
        intro h0
        rw [← hexp] at h0
        exact hne (BitVec.eq_of_toNat_eq h0)
      rw [magnitude_normal hfield, ← hman, ← hexp, abs_rational_finite,
        toNat_one_append]
      rfl

theorem le_magnitude_exponent (bits : Nat) : -1074 ≤ (magnitude bits).2 := by
  simp only [magnitude, Nat.pow_eq, Nat.reducePow]
  split
  · exact Int.le_refl _
  · simp only; omega

/-- The bits of a finite double are taken apart into its sign and its number. -/
theorem ofFloat_of_isFinite {x : Float} (h : x.isFinite = true) :
    ∃ significand exponent, -1074 ≤ exponent ∧
      ofFloat x = .finite (x.toBits.toNat.testBit 63) significand exponent ∧
      |exactValue x| = significand * 2 ^ exponent := by
  have hmax := exponent_ne_of_isFinite h
  have hlt := x.toBits.toNat_lt
  have hfinite : x.toBits.toNat % Nat.pow 2 63 < infinityBits := by
    rw [← exponentField_mod] at hmax
    simp only [infinityBits, Nat.pow_eq, Nat.reducePow] at hmax ⊢
    omega
  have hsign : decide (Nat.pow 2 63 ≤ x.toBits.toNat) = x.toBits.toNat.testBit 63 := by
    rw [Nat.testBit_eq_decide_div_mod_eq, decide_eq_decide]
    simp only [Nat.pow_eq, Nat.reducePow] at hlt ⊢
    omega
  refine ⟨_, _, le_magnitude_exponent _, ?_, abs_exactValue h⟩
  rw [ofFloat, ofBits, if_neg (by omega), if_neg (by omega), hsign]

/-! ## The fraction of a double -/

theorem fraction_den_pos (significand : Nat) (exponent : Int) :
    0 < (fraction significand exponent).2 := by
  unfold fraction
  split
  · exact Nat.one_pos
  · exact Nat.two_pow_pos _

/-- The fraction of a double has its value. -/
theorem fraction_eq (significand : Nat) (exponent : Int) :
    ((fraction significand exponent).1 : ℚ) / (fraction significand exponent).2 =
      significand * 2 ^ exponent := by
  unfold fraction
  split
  case isTrue h =>
      obtain ⟨k, rfl⟩ := Int.eq_ofNat_of_zero_le h
      simp
  case isFalse h =>
      obtain ⟨k, hk⟩ := Int.eq_ofNat_of_zero_le (a := -exponent) (by omega)
      obtain rfl : exponent = -(k : Int) := by omega
      simp [div_eq_mul_inv]

/-- A number has as many binary digits after the point as its exponent is below zero. -/
theorem fraction_den_dvd {significand n : Nat} {exponent : Int} (h : -(n : Int) ≤ exponent) :
    (fraction significand exponent).2 ∣ Nat.pow 2 n := by
  unfold fraction
  split
  · exact Nat.one_dvd _
  · exact Nat.pow_dvd_pow 2 (by omega)

end Binary64
end FormulaPad
