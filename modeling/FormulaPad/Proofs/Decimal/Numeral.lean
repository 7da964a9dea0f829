import FormulaPad.Decimal.Numeral
import FormulaPad.Proofs.Decimal.Rounding
import FormulaPad.Proofs.Digits

/-!
# FormulaPad.Proofs.Decimal.Numeral

The double that a decimal numeral stands for.

It depends on the value of the numeral alone: zeros may go from the significand
into the exponent (`magnitudeBits_mul_pow`), and a numeral with the exact value of
a double stands for this double (`magnitudeBits_of_value`). The powers of ten that
are out of range for every double do not get in the way, since the number of
digits tells a natural number up to a factor of ten (`digitCount_bounds`).
-/

namespace FormulaPad

/-- The rational number that the bits of a finite double stand for, without the sign. -/
def Binary64.value (bits : Nat) : ℚ := (magnitude bits).1 * 2 ^ (magnitude bits).2

namespace Binary64

theorem value_pos {bits : Nat} (h : 0 < bits) : 0 < value bits := by
  have hs : (0 : ℚ) < (magnitude bits).1 := by exact_mod_cast (magnitude_spec h).1
  unfold value
  positivity

/-- The number that a finite double stands for lies between these powers of two. -/
theorem value_bounds {bits : Nat} (hpos : 0 < bits) (hfinite : bits < infinityBits) :
    (2 : ℚ) ^ (-1074 : Int) ≤ value bits ∧ value bits < 2 ^ (1024 : Int) := by
  obtain ⟨hs, hlt, hle, -, -⟩ := magnitude_spec hpos
  have hexponent := exponent_le hpos hfinite
  have hone : (1 : ℚ) ≤ (magnitude bits).1 := by exact_mod_cast hs
  have hbound : ((magnitude bits).1 : ℚ) < 2 ^ (53 : Int) := by exact_mod_cast hlt
  constructor
  · calc (2 : ℚ) ^ (-1074 : Int) ≤ 2 ^ (magnitude bits).2 := zpow_le_zpow_right₀ one_le_two hle
      _ ≤ value bits := le_mul_of_one_le_left (by positivity) hone
  · calc value bits < 2 ^ (53 : Int) * 2 ^ (magnitude bits).2 :=
          mul_lt_mul_of_pos_right hbound (by positivity)
      _ = 2 ^ (53 + (magnitude bits).2) := (zpow_add₀ two_ne_zero _ _).symm
      _ ≤ 2 ^ (1024 : Int) := zpow_le_zpow_right₀ one_le_two (by omega)

end Binary64

namespace Numeral

open Binary64

/-! ## Counting digits -/

theorem digitCount_of_lt {n : Nat} (hn : 0 < n) (h : n < 10) : digitCount n = 1 := by
  unfold digitCount
  rw [if_neg hn.ne', Nat.toDigits_of_lt_base h]
  rfl

theorem digitCount_of_le {n : Nat} (h : 10 ≤ n) : digitCount n = digitCount (n / 10) + 1 := by
  unfold digitCount
  rw [if_neg (by omega), if_neg (by omega), Nat.toDigits_of_base_le (by decide) h]
  simp

theorem digitCount_ten_mul {n : Nat} (hn : 0 < n) : digitCount (10 * n) = digitCount n + 1 := by
  rw [digitCount_of_le (by omega), Nat.mul_div_cancel_left _ (by decide)]

/-- The number of digits tells a number up to a factor of ten. -/
theorem digitCount_bounds {n : Nat} (hn : 0 < n) :
    ∃ k, digitCount n = k + 1 ∧ 10 ^ k ≤ n ∧ n < 10 ^ (k + 1) := by
  induction n using Nat.strongRecOn with
  | ind n ih =>
      by_cases h : n < 10
      · exact ⟨0, digitCount_of_lt hn h, by omega, by omega⟩
      · obtain ⟨k, hk, hle, hlt⟩ := ih (n / 10) (by omega) (by omega)
        refine ⟨k + 1, by rw [digitCount_of_le (by omega), hk], ?_, ?_⟩
        · rw [Nat.pow_succ]; omega
        · rw [Nat.pow_succ]; omega

theorem digitCount_eq {n k : Nat} (hle : 10 ^ k ≤ n) (hlt : n < 10 ^ (k + 1)) :
    digitCount n = k + 1 := by
  have hn : 0 < n := lt_of_lt_of_le (by positivity) hle
  obtain ⟨j, hj, hle', hlt'⟩ := digitCount_bounds hn
  have h₁ : k < j + 1 := (Nat.pow_lt_pow_iff_right (by decide)).1 (hle.trans_lt hlt')
  have h₂ : j < k + 1 := (Nat.pow_lt_pow_iff_right (by decide)).1 (hle'.trans_lt hlt)
  omega

/-! ## The value of a numeral -/

theorem fraction_den_pos (significand : Nat) (exponent : Int) :
    0 < (fraction significand exponent).2 := by
  unfold fraction
  split
  · exact Nat.one_pos
  · exact Nat.pow_pos (by decide)

theorem fraction_eq (significand : Nat) (exponent : Int) :
    ((fraction significand exponent).1 : ℚ) / (fraction significand exponent).2 =
      significand * 10 ^ exponent := by
  unfold fraction
  split
  case isTrue h =>
      obtain ⟨k, rfl⟩ := Int.eq_ofNat_of_zero_le h
      simp
  case isFalse h =>
      obtain ⟨k, hk⟩ := Int.eq_ofNat_of_zero_le (a := -exponent) (by omega)
      obtain rfl : exponent = -(k : Int) := by omega
      simp [div_eq_mul_inv]

theorem fraction_num_pos {significand : Nat} (h : 0 < significand) (exponent : Int) :
    0 < (fraction significand exponent).1 := by
  unfold fraction
  split
  · exact Nat.mul_pos h (Nat.pow_pos (by decide))
  · exact h

/-- The power of ten of the leading digit tells the value up to a factor of ten. -/
theorem value_bounds {significand : Nat} (h : 0 < significand) (exponent : Int) :
    (10 : ℚ) ^ (exponent + digitCount significand - 1) ≤ significand * 10 ^ exponent ∧
      (significand : ℚ) * 10 ^ exponent < 10 ^ (exponent + digitCount significand) := by
  obtain ⟨k, hk, hle, hlt⟩ := digitCount_bounds h
  have hten : (0 : ℚ) < 10 ^ exponent := by positivity
  constructor
  · rw [hk, show exponent + ((k + 1 : Nat) : Int) - 1 = k + exponent by push_cast; ring,
      zpow_add₀ (by norm_num), zpow_natCast]
    exact mul_le_mul_of_nonneg_right (by exact_mod_cast hle) hten.le
  · rw [hk, add_comm, zpow_add₀ (by norm_num), zpow_natCast]
    exact mul_lt_mul_of_pos_right (by exact_mod_cast hlt) hten

/-! ## The double of a numeral -/

/-- A zero at the end of the significand may as well be counted by the exponent. -/
theorem magnitudeBits_ten_mul (k : Nat) (exponent : Int) :
    magnitudeBits (10 * k) exponent = magnitudeBits k (exponent + 1) := by
  rcases Nat.eq_zero_or_pos k with rfl | hk
  · simp [magnitudeBits]
  · have hreach : exponent + digitCount (10 * k) = exponent + 1 + digitCount k := by
      rw [digitCount_ten_mul hk]
      push_cast
      ring
    have hbits : nearestBits (fraction (10 * k) exponent).1 (fraction (10 * k) exponent).2 =
        nearestBits (fraction k (exponent + 1)).1 (fraction k (exponent + 1)).2 := by
      refine nearestBits_congr (fraction_num_pos (by omega) _) (fraction_den_pos _ _)
        (fraction_den_pos _ _) ?_
      rw [fraction_eq, fraction_eq, zpow_add_one₀ (by norm_num)]
      push_cast
      ring
    unfold magnitudeBits
    rw [hreach]
    dsimp only
    rw [hbits]
    simp [hk.ne']

theorem magnitudeBits_mul_pow (k n : Nat) (exponent : Int) :
    magnitudeBits (k * 10 ^ n) exponent = magnitudeBits k (exponent + n) := by
  induction n generalizing exponent with
  | zero => simp
  | succ n ih =>
      rw [Nat.pow_succ, ← Nat.mul_assoc, Nat.mul_comm, magnitudeBits_ten_mul, ih]
      push_cast
      ring_nf

/-- Three binary digits are fewer than a decimal one. -/
theorem two_pow_le (n : Nat) : (2 : ℚ) ^ (3 * n) ≤ 10 ^ n := by
  rw [pow_mul]
  exact pow_le_pow_left₀ (by norm_num) (by norm_num) n

/-- The doubles end below this power of ten. -/
theorem two_zpow_lt : (2 : ℚ) ^ (1024 : Int) < 10 ^ (400 : Int) := by
  calc (2 : ℚ) ^ (1024 : Int) < 2 ^ (1200 : Int) := zpow_lt_zpow_right₀ one_lt_two (by decide)
    _ ≤ 10 ^ (400 : Int) := two_pow_le 400

/-- A numeral with the exact value of a double stands for this double. -/
theorem magnitudeBits_of_value {significand bits : Nat} {exponent : Int} (hpos : 0 < bits)
    (hfinite : bits < infinityBits) (h : (significand : ℚ) * 10 ^ exponent = value bits) :
    magnitudeBits significand exponent = bits := by
  have hs : 0 < significand := by
    refine Nat.pos_of_ne_zero fun hzero => ?_
    have := value_pos hpos
    rw [← h, hzero, Nat.cast_zero, zero_mul] at this
    exact lt_irrefl _ this
  obtain ⟨hlow, hhigh⟩ := Binary64.value_bounds hpos hfinite
  obtain ⟨hlow', hhigh'⟩ := value_bounds hs exponent
  rw [h] at hlow' hhigh'
  -- a value in the range of the doubles has its leading digit far from where the powers of ten end
  have hreach : -400 < exponent + digitCount significand := by
    have hten : (10 : ℚ) ^ (-400 : Int) < 2 ^ (-1074 : Int) := by
      calc (10 : ℚ) ^ (-400 : Int) ≤ 2 ^ (-1200 : Int) := inv_anti₀ (by positivity) (two_pow_le 400)
        _ < 2 ^ (-1074 : Int) := zpow_lt_zpow_right₀ one_lt_two (by decide)
    exact (zpow_lt_zpow_iff_right₀ (by norm_num : (1 : ℚ) < 10)).1
      (hten.trans_le hlow |>.trans hhigh')
  have hreach' : exponent + digitCount significand - 1 < 400 := by
    exact (zpow_lt_zpow_iff_right₀ (by norm_num : (1 : ℚ) < 10)).1
      (hlow'.trans_lt hhigh |>.trans two_zpow_lt)
  have hbits := nearestBits_fraction hpos hfinite
  unfold magnitudeBits outOfRange
  dsimp only
  rw [if_neg (by omega), if_neg (by omega), ← hbits]
  refine nearestBits_congr (fraction_num_pos hs _) (fraction_den_pos _ _)
    (Binary64.fraction_den_pos _ _) ?_
  rw [fraction_eq, Binary64.fraction_eq, h]
  rfl

end Numeral
end FormulaPad
