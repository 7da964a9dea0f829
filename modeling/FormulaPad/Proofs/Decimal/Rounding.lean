import FormulaPad.Proofs.Doubles

/-!
# FormulaPad.Proofs.Decimal.Rounding

Rounding an exact number to a double.

`exponentOf_spec` says at which exponent a positive fraction has 53 binary
digits, or that it is the least exponent; there is only one such exponent
(`exponentOf_eq`), and it depends on the value of the fraction alone. So does the
double that is nearest (`nearestBits_congr`), and the double nearest to the exact
value of a double is this double (`nearestBits_fraction`).
-/

namespace FormulaPad.Binary64

variable {num den num' den' : Nat}

/-! ## Quotients -/

/-- Rounding does not depend on common factors. -/
theorem roundDiv_mul_left {c : Nat} (hc : 0 < c) (num den : Nat) :
    roundDiv (c * num) (c * den) = roundDiv num den := by
  have hlow : 2 * (c * (num % den)) < c * den ↔ 2 * (num % den) < den := by
    rw [Nat.mul_left_comm]
    exact Nat.mul_lt_mul_left hc
  have hhigh : c * den < 2 * (c * (num % den)) ↔ den < 2 * (num % den) := by
    rw [Nat.mul_left_comm]
    exact Nat.mul_lt_mul_left hc
  simp only [roundDiv, Nat.mul_div_mul_left _ _ hc, Nat.mul_mod_mul_left, hlow, hhigh]

/-- Equal quotients are rounded to the same number. -/
theorem roundDiv_congr (hden : 0 < den) (hden' : 0 < den')
    (h : (num : ℚ) / den = num' / den') : roundDiv num den = roundDiv num' den' := by
  have hq : (den : ℚ) ≠ 0 := by positivity
  have hq' : (den' : ℚ) ≠ 0 := by positivity
  have hcross : den' * num = den * num' := by
    rw [div_eq_div_iff hq hq'] at h
    have hnat : num * den' = num' * den := by exact_mod_cast h
    rw [Nat.mul_comm, hnat, Nat.mul_comm]
  rw [← roundDiv_mul_left hden' num den, ← roundDiv_mul_left hden num' den', hcross,
    Nat.mul_comm den' den]

/-! ## Shifting by a power of two -/

theorem shiftRight_pos (num : Nat) (hden : 0 < den) (q : Int) : 0 < (shiftRight num den q).2 := by
  unfold shiftRight
  split
  · exact Nat.mul_pos hden (Nat.two_pow_pos _)
  · exact hden

/-- To shift is to divide by a power of two. -/
theorem shiftRight_eq (num den : Nat) (q : Int) :
    ((shiftRight num den q).1 : ℚ) / (shiftRight num den q).2 = num / den / 2 ^ q := by
  unfold shiftRight
  split
  case isTrue h =>
      obtain ⟨k, rfl⟩ := Int.eq_ofNat_of_zero_le h
      simp [div_div]
  case isFalse h =>
      obtain ⟨k, hk⟩ := Int.eq_ofNat_of_zero_le (a := -q) (by omega)
      obtain rfl : q = -(k : Int) := by omega
      simp
      ring

/-- The significand at an exponent has more than 53 digits just if the number is that large. -/
theorem le_shiftRight_div_iff (hden : 0 < den) (q : Int) :
    Nat.pow 2 53 ≤ (shiftRight num den q).1 / (shiftRight num den q).2 ↔
      (2 : ℚ) ^ (q + 53) ≤ num / den := by
  have hpos := shiftRight_pos num hden q
  have hq : (0 : ℚ) < (shiftRight num den q).2 := by exact_mod_cast hpos
  rw [Nat.le_div_iff_mul_le hpos, ← Nat.cast_le (α := ℚ), Nat.cast_mul, ← le_div_iff₀ hq,
    shiftRight_eq, le_div_iff₀ (by positivity), zpow_add₀ two_ne_zero, mul_comm]
  norm_num

/-! ## The exponent -/

/-- The number of binary digits tells a fraction up to a factor of two on each side. -/
theorem log2_bounds (hnum : 0 < num) (hden : 0 < den) :
    (2 : ℚ) ^ ((num.log2 : Int) - den.log2 - 1) < num / den ∧
      (num : ℚ) / den < 2 ^ ((num.log2 : Int) - den.log2 + 1) := by
  have hbounds {n : Nat} (hn : 0 < n) : (2 : ℚ) ^ n.log2 ≤ n ∧ (n : ℚ) < 2 ^ (n.log2 + 1) := by
    exact ⟨by exact_mod_cast Nat.log2_self_le hn.ne', by exact_mod_cast Nat.lt_log2_self⟩
  obtain ⟨hlow, hhigh⟩ := hbounds hnum
  obtain ⟨hlow', hhigh'⟩ := hbounds hden
  have hq : (0 : ℚ) < den := by exact_mod_cast hden
  have hsplit (a b : Nat) : (2 : ℚ) ^ ((a : Int) - b) = 2 ^ a / 2 ^ b := by
    rw [zpow_sub₀ two_ne_zero, zpow_natCast, zpow_natCast]
  constructor
  · rw [show (num.log2 : Int) - den.log2 - 1 = num.log2 - (den.log2 + 1 : Nat) by push_cast; ring,
      hsplit]
    calc (2 : ℚ) ^ num.log2 / 2 ^ (den.log2 + 1) < 2 ^ num.log2 / den :=
          div_lt_div_of_pos_left (by positivity) hq hhigh'
      _ ≤ num / den := div_le_div_of_nonneg_right hlow hq.le
  · rw [show (num.log2 : Int) - den.log2 + 1 = (num.log2 + 1 : Nat) - den.log2 by push_cast; ring,
      hsplit]
    calc (num : ℚ) / den < 2 ^ (num.log2 + 1) / den := div_lt_div_of_pos_right hhigh hq
      _ ≤ 2 ^ (num.log2 + 1) / 2 ^ den.log2 :=
          div_le_div_of_nonneg_left (by positivity) (by positivity) hlow'

/-- The exponent is first guessed from the numbers of digits, and then at most one too small. -/
theorem exists_guess (num : Nat) (hden : 0 < den) :
    ∃ guess : Int, guess = max ((num.log2 : Int) - den.log2 - 53) (-1074) ∧
      exponentOf num den = if (2 : ℚ) ^ (guess + 53) ≤ num / den then guess + 1 else guess := by
  refine ⟨_, rfl, ?_⟩
  unfold exponentOf
  exact if_congr (le_shiftRight_div_iff hden _) rfl rfl

/-- The exponent leaves a significand of at most 53 binary digits, and of just so many unless it is
the least. -/
theorem exponentOf_spec (hnum : 0 < num) (hden : 0 < den) :
    -1074 ≤ exponentOf num den ∧ (num : ℚ) / den < 2 ^ (exponentOf num den + 53) ∧
      (exponentOf num den = -1074 ∨ (2 : ℚ) ^ (exponentOf num den + 52) ≤ num / den) := by
  obtain ⟨hlow, hhigh⟩ := log2_bounds hnum hden
  obtain ⟨guess, hguess, hexponent⟩ := exists_guess num hden
  rw [hexponent]
  split
  case isTrue hle =>
      -- the guess is too small, so it is that of the digits and not the least exponent
      have hdigits : guess + 53 < (num.log2 : Int) - den.log2 + 1 :=
        (zpow_lt_zpow_iff_right₀ (one_lt_two (α := ℚ))).1 (hle.trans_lt hhigh)
      have hfar : guess + 1 + 53 = (num.log2 : Int) - den.log2 + 1 := by omega
      exact ⟨by omega, hfar ▸ hhigh, .inr (by rwa [add_assoc])⟩
  case isFalse hlt =>
      refine ⟨by omega, not_le.1 hlt, ?_⟩
      rcases max_choice ((num.log2 : Int) - den.log2 - 53) (-1074) with hmax | hmax
      · have hnear : guess + 52 = (num.log2 : Int) - den.log2 - 1 := by omega
        exact .inr (hnear ▸ hlow.le)
      · exact .inl (hguess.trans hmax)

/-- There is no other such exponent. -/
theorem exponentOf_eq (hnum : 0 < num) (hden : 0 < den) {q : Int} (hq : -1074 ≤ q)
    (hlt : (num : ℚ) / den < 2 ^ (q + 53)) (hle : q = -1074 ∨ (2 : ℚ) ^ (q + 52) ≤ num / den) :
    exponentOf num den = q := by
  obtain ⟨hq', hlt', hle'⟩ := exponentOf_spec hnum hden
  have hbelow {p r : Int} (hp : -1074 ≤ p) (hpr : (num : ℚ) / den < 2 ^ (p + 53))
      (hr : r = -1074 ∨ (2 : ℚ) ^ (r + 52) ≤ num / den) : r ≤ p := by
    rcases hr with rfl | hr
    · exact hp
    · have := (zpow_lt_zpow_iff_right₀ (one_lt_two (α := ℚ))).1 (hr.trans_lt hpr)
      omega
  exact le_antisymm (hbelow hq hlt hle') (hbelow hq' hlt' hle)

/-- The exponent depends on the value of the fraction alone. -/
theorem exponentOf_congr (hnum : 0 < num) (hden : 0 < den) (hnum' : 0 < num') (hden' : 0 < den')
    (h : (num : ℚ) / den = num' / den') : exponentOf num den = exponentOf num' den' := by
  obtain ⟨hq, hlt, hle⟩ := exponentOf_spec hnum' hden'
  exact exponentOf_eq hnum hden hq (h ▸ hlt) (h ▸ hle)

/-! ## The nearest double -/

/-- The nearest double depends on the value of the fraction alone. -/
theorem nearestBits_congr (hnum : 0 < num) (hden : 0 < den) (hden' : 0 < den')
    (h : (num : ℚ) / den = num' / den') : nearestBits num den = nearestBits num' den' := by
  have hnum' : 0 < num' := by
    refine Nat.pos_of_ne_zero fun hzero => ?_
    have hq : (0 : ℚ) < num / den := by positivity
    rw [h, hzero, Nat.cast_zero, zero_div] at hq
    exact lt_irrefl _ hq
  have hexponent := exponentOf_congr hnum hden hnum' hden' h
  have hround : roundDiv (shiftRight num den (exponentOf num den)).1
        (shiftRight num den (exponentOf num den)).2 =
      roundDiv (shiftRight num' den' (exponentOf num den)).1
        (shiftRight num' den' (exponentOf num den)).2 :=
    roundDiv_congr (shiftRight_pos _ hden _) (shiftRight_pos _ hden' _)
      (by rw [shiftRight_eq, shiftRight_eq, h])
  unfold nearestBits
  dsimp only
  rw [hround, hexponent]

/-- The significand and the exponent of a finite double, from its bits. -/
theorem magnitude_spec {bits : Nat} (hpos : 0 < bits) :
    0 < (magnitude bits).1 ∧ (magnitude bits).1 < Nat.pow 2 53 ∧ -1074 ≤ (magnitude bits).2 ∧
      ((magnitude bits).2 = -1074 ∨ Nat.pow 2 52 ≤ (magnitude bits).1) ∧
      ((magnitude bits).2 + 1074).toNat * Nat.pow 2 52 + (magnitude bits).1 = bits := by
  have hle := le_magnitude_exponent bits
  unfold magnitude at hle ⊢
  simp only [Nat.pow_eq, Nat.reducePow] at hle ⊢
  split
  case isTrue h => simp at hle ⊢; omega
  case isFalse h => simp at hle ⊢; omega

/-- The exponent of a finite double is bounded. -/
theorem exponent_le {bits : Nat} (hpos : 0 < bits) (h : bits < infinityBits) :
    (magnitude bits).2 ≤ 971 := by
  obtain ⟨hs, hlt, hle, hnormal, hbits⟩ := magnitude_spec hpos
  simp only [infinityBits, Nat.pow_eq, Nat.reducePow, Nat.reduceMul] at h hbits hnormal
  omega

/-- The double nearest to the value of a finite double is this double. -/
theorem nearestBits_fraction {bits : Nat} (hpos : 0 < bits) (hfinite : bits < infinityBits) :
    nearestBits (fraction (magnitude bits).1 (magnitude bits).2).1
      (fraction (magnitude bits).1 (magnitude bits).2).2 = bits := by
  obtain ⟨hs, hlt, hle, hnormal, hbits⟩ := magnitude_spec hpos
  generalize (magnitude bits).1 = significand at *
  generalize (magnitude bits).2 = exponent at *
  have hden := fraction_den_pos significand exponent
  have hvalue := fraction_eq significand exponent
  have hnum : 0 < (fraction significand exponent).1 := by
    refine Nat.pos_of_ne_zero fun hzero => ?_
    rw [hzero, Nat.cast_zero, zero_div] at hvalue
    exact (by positivity : (significand : ℚ) * 2 ^ exponent ≠ 0) hvalue.symm
  have hexponent : exponentOf (fraction significand exponent).1 (fraction significand exponent).2 =
      exponent := by
    refine exponentOf_eq hnum hden hle ?_ (hnormal.imp_right fun hge => ?_)
    · rw [hvalue, zpow_add₀ two_ne_zero, mul_comm]
      gcongr
      exact_mod_cast hlt
    · rw [hvalue, zpow_add₀ two_ne_zero, mul_comm]
      gcongr
      exact_mod_cast hge
  have hround : roundDiv
      (shiftRight (fraction significand exponent).1 (fraction significand exponent).2 exponent).1
      (shiftRight (fraction significand exponent).1 (fraction significand exponent).2 exponent).2 =
        significand := by
    have hone : roundDiv significand 1 = significand := by
      simpa using roundDiv_mul significand 1 Nat.one_pos
    refine (roundDiv_congr (shiftRight_pos _ hden _) Nat.one_pos ?_).trans hone
    rw [shiftRight_eq, hvalue, Nat.cast_one, div_one]
    exact mul_div_cancel_right₀ _ (by positivity)
  unfold nearestBits
  dsimp only
  rw [hexponent, hround, hbits]
  exact Nat.min_eq_left hfinite.le

end FormulaPad.Binary64
