import FormulaPad.Decimal.Shortest
import FormulaPad.Proofs.Decimal.Numeral

/-!
# FormulaPad.Proofs.Decimal.Shortest

The digits that are found for a double read back to it.

The search goes from few digits to many and takes only what reads back; it ends,
because with enough digits the double is written exactly (`exists_exact`). Main
statements: `shortest_spec` (the digits read back, and their leading power is that of
the number, or the next one, which the number is then rounded up to) and
`le_lead_iff` (for which doubles the leading power is at least a given one).
-/

namespace FormulaPad.Digits

open Numeral Binary64

variable {tie : Tie} {bits num den k count fuel : Nat} {top : Int}

/-! ## Neighbours -/

/-- The leading power tells a fraction up to a factor of ten. -/
theorem leadingPower_bounds (hnum : 0 < num) (hden : 0 < den) :
    (10 : ℚ) ^ leadingPower num den ≤ num / den ∧
      (num : ℚ) / den < 10 ^ (leadingPower num den + 1) := by
  have hq : (0 : ℚ) < den := by exact_mod_cast hden
  unfold leadingPower
  split
  case isTrue h =>
      obtain ⟨j, hj, hle, hlt⟩ := digitCount_bounds (Nat.div_pos h hden)
      rw [hj]
      rw [Nat.le_div_iff_mul_le hden] at hle
      rw [Nat.div_lt_iff_lt_mul hden] at hlt
      constructor
      · rw [le_div_iff₀ hq, show ((j + 1 : Nat) : Int) - 1 = j by push_cast; ring, zpow_natCast]
        exact_mod_cast hle
      · rw [div_lt_iff₀ hq, show ((j + 1 : Nat) : Int) - 1 + 1 = (j + 1 : Nat) by push_cast; ring,
          zpow_natCast]
        exact_mod_cast hlt
  case isFalse h =>
      obtain ⟨j, hj, hle, hlt⟩ := digitCount_bounds
        (Nat.div_pos (by omega : num ≤ den - 1) hnum)
      rw [hj]
      rw [Nat.le_div_iff_mul_le hnum] at hle
      rw [Nat.div_lt_iff_lt_mul hnum] at hlt
      constructor
      · rw [zpow_neg, inv_le_comm₀ (by positivity) (by positivity), inv_div, div_le_iff₀
          (by exact_mod_cast hnum), zpow_natCast]
        have : den ≤ 10 ^ (j + 1) * num := by omega
        exact_mod_cast this
      · rw [show -((j + 1 : Nat) : Int) + 1 = -(j : Int) by push_cast; ring, zpow_neg,
          lt_inv_comm₀ (by positivity) (by positivity), inv_div, lt_div_iff₀
          (by exact_mod_cast hnum), zpow_natCast]
        have : 10 ^ j * num < den := by omega
        exact_mod_cast this

/-- On the multiples of a power of ten, a fraction is again a fraction. -/
theorem exists_scaled (num : Nat) (hden : 0 < den) (power : Int) :
    ∃ n d, (if 0 ≤ power then (num, den * Nat.pow 10 power.toNat)
        else (num * Nat.pow 10 (-power).toNat, den)) = (n, d) ∧
      0 < d ∧ (n : ℚ) / d = num / den / 10 ^ power := by
  split
  case isTrue h =>
      obtain ⟨j, rfl⟩ := Int.eq_ofNat_of_zero_le h
      exact ⟨_, _, rfl, Nat.mul_pos hden (Nat.pow_pos (by decide)), by simp [div_div]⟩
  case isFalse h =>
      obtain ⟨j, hj⟩ := Int.eq_ofNat_of_zero_le (a := -power) (by omega)
      obtain rfl : power = -(j : Int) := by omega
      exact ⟨_, _, rfl, hden, by simp; ring⟩

/-- What is taken is the multiple below the fraction or the one above it, and it reads back; the
one below is not passed over if it reads back. -/
theorem candidate?_spec (tie : Tie) (bits num : Nat) (hden : 0 < den) (power : Int) :
    ∃ low : Nat, (low : ℚ) * 10 ^ power ≤ num / den ∧ (num : ℚ) / den < (low + 1) * 10 ^ power ∧
      (∀ k ∈ candidate? tie bits num den power,
        (k = low ∨ k = low + 1) ∧ Numeral.magnitudeBits k power = bits) ∧
      (Numeral.magnitudeBits low power = bits → candidate? tie bits num den power ≠ none) := by
  obtain ⟨n, d, hscaled, hd, hvalue⟩ := exists_scaled num hden power
  have hten : (0 : ℚ) < 10 ^ power := by positivity
  have hq : (0 : ℚ) < d := by exact_mod_cast hd
  refine ⟨n / d, ?below, ?above, ?taken, ?found⟩
  case below =>
      rw [← le_div_iff₀ hten, ← hvalue]
      exact Nat.cast_div_le
  case above =>
      have hlt := Nat.lt_mul_div_succ n hd
      rw [Nat.mul_comm] at hlt
      rw [← div_lt_iff₀ hten, ← hvalue, div_lt_iff₀ hq]
      exact_mod_cast hlt
  case taken =>
      intro k hk
      unfold candidate? at hk
      rw [hscaled] at hk
      dsimp only at hk
      grind
  case found =>
      intro hlow
      unfold candidate?
      rw [hscaled]
      dsimp only
      rw [if_pos (by simpa using hlow)]
      exact Option.some_ne_none _

/-! ## The search -/

/-- If there is something to be found in so many steps, the search ends with what is found first. -/
theorem search_spec (h : ∃ c, count ≤ c ∧ c < count + fuel ∧
      candidate? tie bits num den (top + 1 - c) ≠ none) :
    ∃ c k, count ≤ c ∧ search tie bits num den top fuel count = ⟨k, top + 1 - c⟩ ∧
      candidate? tie bits num den (top + 1 - c) = some k := by
  induction fuel generalizing count with
  | zero => obtain ⟨c, hle, hlt, -⟩ := h; omega
  | succ fuel ih =>
      rw [search]
      cases hfound : candidate? tie bits num den (top + 1 - count) with
      | some k => exact ⟨count, k, le_rfl, rfl, hfound⟩
      | none =>
          obtain ⟨c, hle, hlt, hc⟩ := h
          have hne : count ≠ c := fun he => hc (he ▸ hfound)
          have hrest : ∃ c, count + 1 ≤ c ∧ c < count + 1 + fuel ∧
              candidate? tie bits num den (top + 1 - c) ≠ none := ⟨c, by omega, by omega, hc⟩
          obtain ⟨c', k, hle', hsearch, hk⟩ := ih hrest
          exact ⟨c', k, by omega, hsearch, hk⟩

/-- A double with digits after the binary point is not large. -/
theorem value_lt_of_exponent_neg (hpos : 0 < bits) (h : (magnitude bits).2 < 0) :
    value bits < 10 ^ (16 : Int) := by
  have hsignificand : ((magnitude bits).1 : ℚ) < 2 ^ 53 := by
    exact_mod_cast (magnitude_spec hpos).2.1
  have hone : (2 : ℚ) ^ (magnitude bits).2 ≤ 1 := zpow_le_one_of_nonpos₀ one_le_two h.le
  calc value bits ≤ (magnitude bits).1 * 1 := mul_le_mul_of_nonneg_left hone (Nat.cast_nonneg _)
    _ < 2 ^ 53 := by rwa [mul_one]
    _ < 10 ^ (16 : Int) := by norm_num

/-- Every double has finitely many decimal digits: as many after the point as its exponent is below
zero. -/
theorem exists_exact (hpos : 0 < bits) :
    ∃ (k : Nat) (power : Int), (k : ℚ) * 10 ^ power = value bits ∧ -1074 ≤ power ∧ power ≤ 0 ∧
      (power < 0 → value bits < 10 ^ (16 : Int)) := by
  obtain ⟨-, -, hle, -, -⟩ := magnitude_spec hpos
  have hsmall := value_lt_of_exponent_neg hpos
  unfold value at hsmall ⊢
  generalize (magnitude bits).1 = significand at *
  generalize (magnitude bits).2 = exponent at *
  rcases le_or_gt 0 exponent with h | h
  · obtain ⟨j, rfl⟩ := Int.eq_ofNat_of_zero_le h
    exact ⟨significand * 2 ^ j, 0, by simp, by decide, le_rfl, by omega⟩
  · obtain ⟨j, hj⟩ := Int.eq_ofNat_of_zero_le (a := -exponent) (by omega)
    obtain rfl : exponent = -(j : Int) := by omega
    refine ⟨significand * 5 ^ j, -(j : Int), ?_, hle, h.le, hsmall⟩
    have hten : (10 : ℚ) ^ j = 2 ^ j * 5 ^ j := by rw [← mul_pow]; norm_num
    rw [zpow_neg, zpow_neg, zpow_natCast, zpow_natCast, hten]
    push_cast
    field_simp

/-! ## Zeros at the end -/

theorem lead_ten_mul (hk : 0 < k) (power : Int) : lead ⟨10 * k, power⟩ = lead ⟨k, power + 1⟩ := by
  unfold lead
  rw [digitCount_ten_mul hk]
  push_cast
  ring

/-- Without its zeros at the end, a numeral stands for the same double and has the same leading
power. -/
theorem dropZeros_spec (fuel : Nat) {d : Digits} (hd : 0 < d.digits) :
    0 < (dropZeros fuel d).digits ∧ (dropZeros fuel d).lead = d.lead ∧
      Numeral.magnitudeBits (dropZeros fuel d).digits (dropZeros fuel d).exponent =
        Numeral.magnitudeBits d.digits d.exponent := by
  induction fuel generalizing d with
  | zero => exact ⟨hd, rfl, rfl⟩
  | succ fuel ih =>
      rw [dropZeros]
      split
      case isTrue h =>
          obtain ⟨k, hk⟩ : ∃ k, d.digits = 10 * k := ⟨d.digits / 10, by omega⟩
          have hpos : 0 < k := by omega
          obtain ⟨digits, power⟩ := d
          obtain rfl : digits = 10 * k := hk
          have hdiv : 10 * k / 10 = k := by omega
          obtain ⟨hdrop, hlead, hbits⟩ := ih (d := ⟨10 * k / 10, power + 1⟩) (by rwa [hdiv])
          refine ⟨hdrop, hlead.trans ?_, hbits.trans ?_⟩
          · rw [hdiv, lead_ten_mul hpos]
          · rw [hdiv, magnitudeBits_ten_mul]
      case isFalse h => exact ⟨hd, rfl, rfl⟩

/-! ## The fewest digits -/

/-- The fraction that the bits of a positive double stand for. -/
def fractionOf (bits : Nat) : Nat × Nat :=
  Binary64.fraction (magnitude bits).1 (magnitude bits).2

theorem fractionOf_pos (hpos : 0 < bits) : 0 < (fractionOf bits).1 ∧ 0 < (fractionOf bits).2 := by
  obtain ⟨hs, -⟩ := magnitude_spec hpos
  refine ⟨?_, Binary64.fraction_den_pos _ _⟩
  unfold fractionOf Binary64.fraction
  split
  · exact Nat.mul_pos hs (Nat.two_pow_pos _)
  · exact hs

theorem fractionOf_eq (bits : Nat) : ((fractionOf bits).1 : ℚ) / (fractionOf bits).2 = value bits :=
  Binary64.fraction_eq _ _

/-- The leading power of a positive double. -/
def leadOf (bits : Nat) : Int := leadingPower (fractionOf bits).1 (fractionOf bits).2

theorem leadOf_bounds (hpos : 0 < bits) :
    (10 : ℚ) ^ leadOf bits ≤ value bits ∧ value bits < 10 ^ (leadOf bits + 1) := by
  obtain ⟨hnum, hden⟩ := fractionOf_pos hpos
  rw [← fractionOf_eq]
  exact leadingPower_bounds hnum hden

/-- The exact digits of a double reach from its leading power down to their own, which is not too
far. -/
theorem leadOf_near (hpos : 0 < bits) (hfinite : bits < infinityBits) {power : Int}
    (hvalue : (k : ℚ) * 10 ^ power = value bits) (hle : -1074 ≤ power) (hpower : power ≤ 0)
    (hsmall : power < 0 → value bits < 10 ^ (16 : Int)) :
    power ≤ leadOf bits ∧ leadOf bits - power < digitLimit := by
  obtain ⟨hlow, hhigh⟩ := leadOf_bounds hpos
  obtain ⟨-, hmax⟩ := Binary64.value_bounds hpos hfinite
  have hten : (0 : ℚ) < 10 ^ power := by positivity
  have hone : (1 : ℚ) < 10 := by norm_num
  have hk : (1 : ℚ) ≤ k := by
    have hkpos : (0 : ℚ) < k := pos_of_mul_pos_left (hvalue ▸ value_pos hpos) hten.le
    exact_mod_cast hkpos
  constructor
  · have hbelow : (10 : ℚ) ^ power ≤ value bits := hvalue ▸ le_mul_of_one_le_left hten.le hk
    exact Int.lt_add_one_iff.1 ((zpow_lt_zpow_iff_right₀ hone).1 (hbelow.trans_lt hhigh))
  · unfold digitLimit
    rcases hpower.lt_or_eq with hneg | rfl
    · have := (zpow_lt_zpow_iff_right₀ hone).1 (hlow.trans_lt (hsmall hneg))
      omega
    · have := (zpow_lt_zpow_iff_right₀ hone).1 (hlow.trans_lt (hmax.trans two_zpow_lt))
      omega

/-- A multiple of a power of ten lies right below itself. -/
theorem eq_of_between {low : Nat} {power : Int} (hbelow : (low : ℚ) * 10 ^ power ≤ k * 10 ^ power)
    (habove : (k : ℚ) * 10 ^ power < (low + 1) * 10 ^ power) : low = k := by
  have hten : (0 : ℚ) < 10 ^ power := by positivity
  have hle : (low : ℚ) ≤ k := le_of_mul_le_mul_right hbelow hten
  have hlt : (k : ℚ) < low + 1 := lt_of_mul_lt_mul_right habove hten.le
  have hle' : low ≤ k := by exact_mod_cast hle
  have hlt' : k < low + 1 := by exact_mod_cast hlt
  omega

/-- With enough digits there is something to be found, so that a double has an end. -/
theorem exists_candidate (hpos : 0 < bits) (hfinite : bits < infinityBits) :
    ∃ c, 1 ≤ c ∧ c < 1 + digitLimit ∧
      candidate? tie bits (fractionOf bits).1 (fractionOf bits).2 (leadOf bits + 1 - c) ≠ none := by
  obtain ⟨k, power, hvalue, hle, hpower, hsmall⟩ := exists_exact hpos
  obtain ⟨hfirst, hlast⟩ := leadOf_near hpos hfinite hvalue hle hpower hsmall
  obtain ⟨-, hden⟩ := fractionOf_pos hpos
  refine ⟨(leadOf bits + 1 - power).toNat, by omega, by omega, ?_⟩
  rw [Int.toNat_of_nonneg (by omega), sub_sub_cancel]
  obtain ⟨low, hbelow, habove, -, hfound⟩ := candidate?_spec tie bits (fractionOf bits).1 hden power
  rw [fractionOf_eq, ← hvalue] at hbelow habove
  obtain rfl := eq_of_between hbelow habove
  exact hfound (magnitudeBits_of_value hpos hfinite hvalue)

/-- The search ends with digits that read back, as many as it has come to, or with the power of ten
that comes after them. -/
theorem search_double (tie : Tie) (hpos : 0 < bits) (hfinite : bits < infinityBits) :
    ∃ c k : Nat,
      search tie bits (fractionOf bits).1 (fractionOf bits).2 (leadOf bits) digitLimit 1 =
        ⟨k, leadOf bits - c⟩ ∧
      10 ^ c ≤ k ∧ k ≤ 10 ^ (c + 1) ∧ Numeral.magnitudeBits k (leadOf bits - c) = bits := by
  obtain ⟨-, hden⟩ := fractionOf_pos hpos
  obtain ⟨hlow, hhigh⟩ := leadOf_bounds hpos
  obtain ⟨count, k, hcount, hsearch, hk⟩ := search_spec (exists_candidate hpos hfinite)
  obtain ⟨c, rfl⟩ : ∃ c, count = c + 1 := ⟨count - 1, by omega⟩
  have hpower : leadOf bits + 1 - (c + 1 : Nat) = leadOf bits - c := by push_cast; ring
  rw [hpower] at hsearch hk
  obtain ⟨low, hbelow, habove, htaken, -⟩ :=
    candidate?_spec tie bits (fractionOf bits).1 hden (leadOf bits - c)
  obtain ⟨hnear, hbits⟩ := htaken k hk
  rw [fractionOf_eq] at hbelow habove
  have hten : (0 : ℚ) < 10 ^ (leadOf bits - c) := by positivity
  have hsplit (n : Nat) : (10 : ℚ) ^ (leadOf bits - c + n) = 10 ^ n * 10 ^ (leadOf bits - c) := by
    rw [zpow_add₀ (by norm_num), zpow_natCast, mul_comm]
  have hfew : 10 ^ c < low + 1 := by
    have h : (10 : ℚ) ^ c * 10 ^ (leadOf bits - c) < (low + 1) * 10 ^ (leadOf bits - c) := by
      rw [← hsplit, sub_add_cancel]
      exact hlow.trans_lt habove
    exact_mod_cast lt_of_mul_lt_mul_right h hten.le
  have hmany : low < 10 ^ (c + 1) := by
    have h : (low : ℚ) * 10 ^ (leadOf bits - c) < 10 ^ (c + 1) * 10 ^ (leadOf bits - c) := by
      rw [← hsplit, show leadOf bits - c + (c + 1 : Nat) = leadOf bits + 1 by push_cast; ring]
      exact hbelow.trans_lt hhigh
    exact_mod_cast lt_of_mul_lt_mul_right h hten.le
  exact ⟨c, k, hsearch, by omega, by omega, hbits⟩

/-- The fewest digits read back to the double, and their leading power is that of the double, or the
next one, which then reads back to the double. -/
theorem shortest_spec (tie : Tie) (hpos : 0 < bits) (hfinite : bits < infinityBits) :
    0 < (shortest tie bits).digits ∧
      Numeral.magnitudeBits (shortest tie bits).digits (shortest tie bits).exponent = bits ∧
      ((shortest tie bits).lead = leadOf bits ∨ (shortest tie bits).lead = leadOf bits + 1 ∧
        Numeral.magnitudeBits 1 (leadOf bits + 1) = bits) := by
  obtain ⟨c, k, hsearch, hle, hge, hbits⟩ := search_double tie hpos hfinite
  have hk : 0 < k := lt_of_lt_of_le (by positivity) hle
  have hshortest : shortest tie bits = dropZeros (digitCount k) ⟨k, leadOf bits - c⟩ := by
    have h : shortest tie bits =
        let found :=
          search tie bits (fractionOf bits).1 (fractionOf bits).2 (leadOf bits) digitLimit 1
        dropZeros (digitCount found.digits) found := rfl
    rw [h, hsearch]
  obtain ⟨hdrop, hlead, hread⟩ := dropZeros_spec (digitCount k) (d := ⟨k, leadOf bits - c⟩) hk
  rw [hshortest, hlead, hread]
  refine ⟨hdrop, hbits, ?_⟩
  rcases hge.lt_or_eq with hlt | rfl
  · left
    simp only [lead, digitCount_eq hle hlt]
    push_cast
    ring
  · right
    have hcount : digitCount (10 ^ (c + 1)) = c + 2 :=
      digitCount_eq le_rfl (Nat.pow_lt_pow_right (by decide) (by omega))
    have hpower : leadOf bits - c + (c + 1 : Nat) = leadOf bits + 1 := by push_cast; ring
    constructor
    · simp only [lead, hcount]
      push_cast
      ring
    · have hmul := magnitudeBits_mul_pow 1 (c + 1) (leadOf bits - c)
      rw [one_mul, hbits, hpower] at hmul
      exact hmul.symm

/-- Where the double nearest to a power of ten is not below it, the leading power tells exactly
which doubles are below it. -/
theorem le_lead_iff (tie : Tie) (hpos : 0 < bits) (hfinite : bits < infinityBits) {power : Int}
    (hpower : (10 : ℚ) ^ power ≤ value (Numeral.magnitudeBits 1 power)) :
    power ≤ (shortest tie bits).lead ↔ (10 : ℚ) ^ power ≤ value bits := by
  obtain ⟨hlow, hhigh⟩ := leadOf_bounds hpos
  obtain ⟨-, -, hlead⟩ := shortest_spec tie hpos hfinite
  have hone : (1 : ℚ) < 10 := by norm_num
  constructor
  · intro hle
    rcases hlead with hlead | ⟨hlead, hbits⟩
    · rw [hlead] at hle
      exact (zpow_le_zpow_right₀ hone.le hle).trans hlow
    · -- the double is rounded up, perhaps just to this power of ten
      rcases (hlead ▸ hle).lt_or_eq with hlt | rfl
      · exact (zpow_le_zpow_right₀ hone.le (Int.lt_add_one_iff.1 hlt)).trans hlow
      · rwa [hbits] at hpower
  · intro hle
    have hlt : power < leadOf bits + 1 := (zpow_lt_zpow_iff_right₀ hone).1 (hle.trans_lt hhigh)
    rcases hlead with hlead | ⟨hlead, -⟩ <;> omega

end FormulaPad.Digits
