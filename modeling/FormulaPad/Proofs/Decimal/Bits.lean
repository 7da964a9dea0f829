import FormulaPad.Proofs.Decimal.Rounding

/-!
# FormulaPad.Proofs.Decimal.Bits

Doubles and their bits.

The bits of a finite double determine it (`toBits_ofBits`), and its negative has the
same bits but for the sign. A natural number becomes the double that is nearest to
it (`toBits_ofInt`): the conversion shifts binary digits out one by one and remembers of
them just what decides the rounding (`roundedMantissa_shift`).
-/

namespace FormulaPad.Binary64

open Float.Model (UnpackedFloat Format)
open Float.Model.UnpackedFloat

/-! ## Packing -/

theorem toNat_append {n k : Nat} (a : BitVec n) (b : BitVec k) :
    (a ++ b).toNat = a.toNat * Nat.pow 2 k + b.toNat := by
  rw [BitVec.toNat_append, ← Nat.shiftLeft_add_eq_or_of_lt b.isLt, Nat.shiftLeft_eq]
  rfl

theorem toNat_packComponents (s : Sign) (e : BitVec 11) (m : BitVec 52) :
    (packComponents Format.binary64 s e m).toNat =
      s.toBitVec.toNat * Nat.pow 2 63 + e.toNat * Nat.pow 2 52 + m.toNat := by
  unfold packComponents
  rw [toNat_append, toNat_append]
  simp only [Nat.pow_eq, Nat.reducePow]
  omega

theorem toNat_pack_zero (s : Sign) :
    (UnpackedFloat.pack Format.binary64 (.zero s)).toNat = s.toBitVec.toNat * Nat.pow 2 63 := by
  show (packComponents Format.binary64 s 0 0).toNat = _
  rw [toNat_packComponents]
  simp

/-- The bits of a finite double, from its sign, significand and exponent. -/
theorem toNat_pack_finite (s : Sign) {m : Nat} {e : Int} (h : 0 < m) (hlt : m < Nat.pow 2 53)
    (hle : -1074 ≤ e) (hmax : e ≤ 971) (hnormal : e = -1074 ∨ Nat.pow 2 52 ≤ m) :
    (UnpackedFloat.pack Format.binary64 (.finite s m e h)).toNat =
      s.toBitVec.toNat * Nat.pow 2 63 + ((e + 1074).toNat * Nat.pow 2 52 + m) := by
  have hlog : m.log2 + 1 = 53 ↔ Nat.pow 2 52 ≤ m := by
    have hlt' : m.log2 < 53 := (Nat.log2_lt h.ne').2 hlt
    have hiff : m.log2 < 52 ↔ m < 2 ^ 52 := Nat.log2_lt h.ne'
    rw [Nat.pow_eq]
    omega
  have hbiased :
      (e + Format.exponentBias Format.binary64 + (52 : Nat)).toNat = (e + 1075).toNat := by
    show (e + 1023 + 52).toNat = _
    rw [add_assoc]
    rfl
  have hbound : ¬ 2 ^ 11 ≤ (e + 1075).toNat + 1 := by omega
  unfold UnpackedFloat.pack
  dsimp only
  rw [hbiased, if_neg hbound]
  split
  case isTrue hbits =>
      have hm := hlog.1 hbits
      rw [toNat_packComponents, BitVec.toNat_ofNat, BitVec.toNat_ofNat]
      simp only [Nat.pow_eq, Nat.reducePow] at hm hlt ⊢
      omega
  case isFalse hbits =>
      have hm := mt hlog.2 hbits
      rw [toNat_packComponents, BitVec.toNat_ofNat, BitVec.toNat_ofNat]
      simp only [Nat.pow_eq, Nat.reducePow] at hm hlt hnormal ⊢
      omega

theorem toBitVec_ofBitVec (v : BitVec 1) : (Sign.ofBitVec v).toBitVec = v := by
  revert v
  decide

theorem toNat_unpackSign (b : BitVec 64) :
    (@unpackSign Format.binary64 b).toNat = b.toNat / Nat.pow 2 63 := by
  have hlt := b.isLt
  have hsign : (@unpackSign Format.binary64 b).toNat = b.toNat / Nat.pow 2 63 % 2 := by
    simp [unpackSign, BitVec.extractLsb_toNat, Nat.shiftRight_eq_div_pow]
  rw [hsign]
  simp only [Nat.pow_eq, Nat.reducePow] at hlt ⊢
  omega

/-- The sign that the bits tell. -/
def signOf (b : BitVec 64) : Sign := .ofBitVec (@unpackSign Format.binary64 b)

theorem toNat_signOf (b : BitVec 64) : (signOf b).toBitVec.toNat = b.toNat / Nat.pow 2 63 := by
  rw [signOf, toBitVec_ofBitVec, toNat_unpackSign]

theorem unpackExponent_ne {b : BitVec 64} (h : b.toNat % Nat.pow 2 63 < infinityBits) :
    @unpackExponent Format.binary64 b ≠ -1#11 := by
  intro hall
  have hfield := toNat_unpackExponent b
  rw [hall, ← exponentField_mod] at hfield
  have hmax : b.toNat % Nat.pow 2 63 / Nat.pow 2 52 = 2047 := hfield.symm
  simp only [infinityBits, Nat.pow_eq, Nat.reducePow] at h hmax
  omega

/-- Without an exponent the bits are those of a zero or of a subnormal number. -/
theorem unpack_subnormal {b : BitVec 64} (h : b.toNat / Nat.pow 2 52 % 2048 = 0) :
    (b.toNat % Nat.pow 2 63 = 0 ∧ UnpackedFloat.unpack Format.binary64 b = .zero (signOf b)) ∨
      ∃ hm, UnpackedFloat.unpack Format.binary64 b =
        .finite (signOf b) (magnitude (b.toNat % Nat.pow 2 63)).1
          (magnitude (b.toNat % Nat.pow 2 63)).2 hm := by
  have hman := toNat_unpackMantissa b
  have hzero : @unpackExponent Format.binary64 b = 0#_ :=
    BitVec.eq_of_toNat_eq ((toNat_unpackExponent b).trans h)
  have hlow : b.toNat % Nat.pow 2 63 = b.toNat % Nat.pow 2 52 := by
    simp only [Nat.pow_eq, Nat.reducePow] at h ⊢
    omega
  unfold UnpackedFloat.unpack
  rw [if_neg (by rw [hzero]; decide), if_pos hzero]
  split
  case isTrue hm => exact .inl ⟨by rw [hlow, ← hman, hm]; rfl, rfl⟩
  case isFalse hm =>
      right
      rw [magnitude_subnormal h, ← hman]
      refine ⟨Nat.pos_of_ne_zero fun hz => hm (BitVec.eq_of_toNat_eq hz), ?_⟩
      rw [UnpackedFloat.finite.injEq]
      exact ⟨rfl, rfl, by rw [hzero]; rfl⟩

/-- With an exponent they are those of a normal number, whose leading bit is not written. -/
theorem unpack_normal {b : BitVec 64} (h : b.toNat % Nat.pow 2 63 < infinityBits)
    (hfield : b.toNat / Nat.pow 2 52 % 2048 ≠ 0) :
    ∃ hm, UnpackedFloat.unpack Format.binary64 b =
      .finite (signOf b) (magnitude (b.toNat % Nat.pow 2 63)).1
        (magnitude (b.toNat % Nat.pow 2 63)).2 hm := by
  have hexp := toNat_unpackExponent b
  have hne : @unpackExponent Format.binary64 b ≠ 0#_ := by
    intro hzero
    rw [hzero] at hexp
    exact hfield hexp.symm
  unfold UnpackedFloat.unpack
  rw [if_neg (unpackExponent_ne h), if_neg hne, magnitude_normal hfield]
  refine ⟨Nat.lt_of_lt_of_le (Nat.two_pow_pos 52) (Nat.le_add_left ..), ?_⟩
  rw [UnpackedFloat.finite.injEq]
  exact ⟨rfl, by rw [toNat_one_append, toNat_unpackMantissa], by rw [hexp]; rfl⟩

/-- The bits of a finite double, taken apart. -/
theorem exists_unpack_eq {b : BitVec 64} (h : b.toNat % Nat.pow 2 63 < infinityBits) :
    ∃ s : Sign, s.toBitVec.toNat = b.toNat / Nat.pow 2 63 ∧
      ((b.toNat % Nat.pow 2 63 = 0 ∧ UnpackedFloat.unpack Format.binary64 b = .zero s) ∨
        ∃ hm, UnpackedFloat.unpack Format.binary64 b =
          .finite s (magnitude (b.toNat % Nat.pow 2 63)).1
            (magnitude (b.toNat % Nat.pow 2 63)).2 hm) := by
  refine ⟨signOf b, toNat_signOf b, ?_⟩
  by_cases hfield : b.toNat / Nat.pow 2 52 % 2048 = 0
  · exact unpack_subnormal hfield
  · exact .inr (unpack_normal h hfield)

/-! ## The bits of a double -/

theorem mod_eq_self {n : Nat} (h : n < infinityBits) : n % Nat.pow 2 63 = n :=
  Nat.mod_eq_of_lt (h.trans (by decide))

/-- The bits without the sign are those below the sign. -/
theorem signed_mod_eq {n : Nat} (negative : Prop) [Decidable negative] (h : n < infinityBits) :
    ((if negative then Nat.pow 2 63 else 0) + n) % Nat.pow 2 63 = n := by
  split <;> simpa using mod_eq_self h

/-- Packed again with a sign, the bits of a finite double are the same up to the sign. -/
theorem toNat_pack_unpack {b : BitVec 64} (h : b.toNat % Nat.pow 2 63 < infinityBits) :
    (UnpackedFloat.pack Format.binary64 (UnpackedFloat.unpack Format.binary64 b)).toNat = b.toNat ∧
      (UnpackedFloat.pack Format.binary64 (UnpackedFloat.unpack Format.binary64 b).neg).toNat =
        (1 - b.toNat / Nat.pow 2 63) * Nat.pow 2 63 + b.toNat % Nat.pow 2 63 := by
  obtain ⟨s, hs, hcase⟩ := exists_unpack_eq h
  have hneg : (-s).toBitVec.toNat = 1 - b.toNat / Nat.pow 2 63 := by
    rw [← hs]
    cases s <;> rfl
  have hdiv := Nat.div_add_mod' b.toNat (Nat.pow 2 63)
  rcases hcase with ⟨hzero, hunpack⟩ | ⟨hm, hunpack⟩
  · rw [hzero, Nat.add_zero] at hdiv
    rw [hunpack, UnpackedFloat.neg, toNat_pack_zero, toNat_pack_zero, hs, hneg, hzero]
    exact ⟨hdiv, (Nat.add_zero _).symm⟩
  · have hpos : 0 < b.toNat % Nat.pow 2 63 := by
      refine Nat.pos_of_ne_zero fun hzero => ?_
      rw [hzero] at hm
      exact absurd hm (by decide)
    obtain ⟨-, hlt, hle, hnormal, hbits⟩ := magnitude_spec hpos
    have hmax := exponent_le hpos h
    rw [hunpack, UnpackedFloat.neg, toNat_pack_finite s hm hlt hle hmax hnormal,
      toNat_pack_finite (-s) hm hlt hle hmax hnormal, hs, hneg, hbits]
    exact ⟨hdiv, rfl⟩

/-- A double is determined by its bits. -/
theorem eq_of_toBits {x y : Float} (h : x.toBits.toNat = y.toBits.toNat) : x = y := by
  obtain ⟨⟨bits, hx⟩⟩ := x
  obtain ⟨⟨bits', hy⟩⟩ := y
  obtain rfl : bits = bits' := UInt64.toNat_inj.1 h
  rfl

/-- The double of the bits of a finite number has these bits. -/
theorem toBits_ofBits {n : Nat} (h : n < infinityBits) :
    (Float.ofBits (UInt64.ofNat n)).toBits.toNat = n := by
  have hbound : infinityBits < 2 ^ 63 := by decide
  have hn : (UInt64.ofNat n).toBitVec.toNat = n := by
    show (UInt64.ofNat n).toNat = n
    rw [UInt64.toNat_ofNat']
    omega
  have hmod : (UInt64.ofNat n).toBitVec.toNat % Nat.pow 2 63 < infinityBits := by
    rwa [hn, mod_eq_self h]
  exact (toNat_pack_unpack hmod).1.trans hn

/-- A negative number has the bits of its absolute value, but for the sign. -/
theorem toBits_neg {x : Float} (h : x.toBits.toNat % Nat.pow 2 63 < infinityBits) :
    (-x).toBits.toNat =
      (1 - x.toBits.toNat / Nat.pow 2 63) * Nat.pow 2 63 + x.toBits.toNat % Nat.pow 2 63 :=
  (toNat_pack_unpack h).2

/-! ## Shifting digits out -/

theorem shift_succ (em : ExtendedMantissa) (k : Nat) :
    em >>> (k + 1) = (em >>> k).shiftRightOne := rfl

/-- A remainder is half of the divisor, or more or less than it but not nothing, unless it is
zero. -/
theorem half_or_rest_iff {p r : Nat} (h : r < p) : p ≤ 2 * r ∨ 2 * r % p ≠ 0 ↔ r ≠ 0 := by
  by_cases hhalf : p ≤ 2 * r
  · exact ⟨fun _ => by omega, fun _ => .inl hhalf⟩
  · rw [Nat.mod_eq_of_lt (by omega)]
    omega

/-- After `k` digits have been shifted out, the round bit tells whether they are at least half of
what the last digit kept counts, and the sticky bit whether they differ from nothing and from this
half. -/
theorem shift_exact (n k : Nat) :
    ExtendedMantissa.ofMantissaAndAccuracy n .exact >>> k =
      ⟨n / 2 ^ k, decide (2 ^ k ≤ 2 * (n % 2 ^ k)), decide (2 * (n % 2 ^ k) % 2 ^ k ≠ 0)⟩ := by
  induction k with
  | zero =>
      simp [HShiftRight.hShiftRight, Nat.repeat, ExtendedMantissa.ofMantissaAndAccuracy,
        Nat.mod_one]
  | succ k ih =>
      have hdiv : n / 2 ^ k / 2 = n / 2 ^ (k + 1) := by rw [Nat.div_div_eq_div_mul, Nat.pow_succ]
      have hmod : n % 2 ^ (k + 1) = n % 2 ^ k + 2 ^ k * (n / 2 ^ k % 2) := Nat.mod_pow_succ
      have hlt : n % 2 ^ k < 2 ^ k := Nat.mod_lt _ (Nat.two_pow_pos k)
      have hpow : 2 ^ (k + 1) = 2 * 2 ^ k := by rw [Nat.pow_succ, Nat.mul_comm]
      have hrest : 2 * (n % 2 ^ (k + 1)) % 2 ^ (k + 1) = 2 * (n % 2 ^ k) := by
        rw [hmod, hpow, Nat.mul_mod_mul_left, Nat.add_mul_mod_self_left, Nat.mod_mod]
      have hround : (n / 2 ^ k % 2 != 0) = decide (2 ^ (k + 1) ≤ 2 * (n % 2 ^ (k + 1))) := by
        rw [hmod, hpow, Bool.eq_iff_iff, bne_iff_ne, decide_eq_true_eq]
        rcases Nat.mod_two_eq_zero_or_one (n / 2 ^ k) with hbit | hbit <;> rw [hbit] <;> omega
      have hsticky : (decide (2 ^ k ≤ 2 * (n % 2 ^ k)) || decide (2 * (n % 2 ^ k) % 2 ^ k ≠ 0)) =
          decide (2 * (n % 2 ^ k) ≠ 0) := by
        rw [← Bool.decide_or, decide_eq_decide, half_or_rest_iff hlt]
        omega
      rw [shift_succ, ih, ExtendedMantissa.shiftRightOne, hdiv, hround, hsticky, hrest]

/-- To shift binary digits out and round is to divide and round. -/
theorem roundedMantissa_shift (n k : Nat) :
    (ExtendedMantissa.ofMantissaAndAccuracy n .exact >>> k).roundedMantissa =
      roundDiv n (2 ^ k) := by
  have hlt : n % 2 ^ k < 2 ^ k := Nat.mod_lt _ (Nat.two_pow_pos k)
  rw [shift_exact]
  unfold roundDiv ExtendedMantissa.roundedMantissa ExtendedMantissa.accuracy
  generalize n / 2 ^ k = q
  generalize n % 2 ^ k = r at *
  generalize 2 ^ k = p at *
  rcases Nat.lt_trichotomy (2 * r) p with hhalf | hhalf | hhalf
  · have hround : decide (p ≤ 2 * r) = false := decide_eq_false (by omega)
    rw [hround, if_pos hhalf]
    cases decide (2 * r % p ≠ 0) <;> rfl
  · have hround : decide (p ≤ 2 * r) = true := decide_eq_true (by omega)
    have hsticky : decide (2 * r % p ≠ 0) = false := by simp [hhalf]
    rw [hround, hsticky, if_neg (by omega), if_neg (by omega)]
    show q + q % 2 = _
    split <;> omega
  · have hround : decide (p ≤ 2 * r) = true := decide_eq_true (by omega)
    have hsticky : decide (2 * r % p ≠ 0) = true := by
      rw [decide_eq_true_eq, Nat.mod_eq_sub_mod (by omega), Nat.mod_eq_of_lt (by omega)]
      omega
    rw [hround, hsticky, if_neg (by omega), if_pos hhalf]
    rfl

/-! ## Integers -/

theorem targetExponent_eq (m : Nat) (e : Int) :
    Format.binary64.targetExponent (Float.Model.totalExponent m e) =
      max ((m.log2 : Int) - 52 + e) (-1074) := by
  show max ((m.log2 : Int) + 1 + e - 53) (-1074) = _
  congr 1
  ring

theorem shiftToTargetExponent_eq (m : Nat) {e : Int} {k : Nat} (hk : (m.log2 : Int) = 52 + k)
    (he : -1074 ≤ e) :
    shiftToTargetExponent Format.binary64 m e .exact =
      (ExtendedMantissa.ofMantissaAndAccuracy m .exact >>> k, e + k) := by
  have htarget : (max ((m.log2 : Int) - 52 + e) (-1074) - e).toNat = k := by omega
  unfold shiftToTargetExponent shiftToExponent
  rw [targetExponent_eq]
  dsimp only
  rw [htarget]

/-- A significand of 53 digits is kept. -/
theorem shiftToTargetExponent_normal {m : Nat} {e : Int} (hge : Nat.pow 2 52 ≤ m)
    (hlt : m < Nat.pow 2 53) (he : -1074 ≤ e) :
    shiftToTargetExponent Format.binary64 m e .exact = (⟨m, false, false⟩, e) := by
  have hm : m ≠ 0 := by
    rintro rfl
    exact absurd hge (by decide)
  have hlog : m.log2 = 52 := (Nat.log2_eq_iff hm).2 ⟨hge, hlt⟩
  rw [shiftToTargetExponent_eq (k := 0) m (by rw [hlog]; rfl) he]
  simp [HShiftRight.hShiftRight, Nat.repeat, ExtendedMantissa.ofMantissaAndAccuracy]

/-- One digit too many, as rounding may give, is shifted out. -/
theorem shiftToTargetExponent_carry {e : Int} (he : -1074 ≤ e) :
    shiftToTargetExponent Format.binary64 (Nat.pow 2 53) e .exact =
      (⟨Nat.pow 2 52, false, false⟩, e + 1) := by
  rw [shiftToTargetExponent_eq (k := 1) _ (by rw [Nat.pow_eq, Nat.log2_two_pow]; rfl) he]
  rfl

/-- A significand of 53 digits is rounded to itself. -/
theorem roundWithAccuracy_normal (s : Sign) {m : Nat} {e : Int} (hm : 0 < m)
    (hge : Nat.pow 2 52 ≤ m) (hlt : m < Nat.pow 2 53) (he : -1074 ≤ e) :
    roundWithAccuracy Format.binary64 s m e .exact = .finite s m e hm := by
  unfold roundWithAccuracy
  rw [shiftToTargetExponent_normal hge hlt he]
  dsimp only
  have hkept : (⟨m, false, false⟩ : ExtendedMantissa).roundedMantissa = m := rfl
  rw [hkept, shiftToTargetExponent_normal hge hlt he]
  dsimp only
  rw [dif_neg hm.ne']

theorem exponentOf_one {n : Nat} (hn : 0 < n) : exponentOf n 1 = (n.log2 : Int) - 52 := by
  have hvalue : (n : ℚ) / (1 : Nat) = n := by simp
  refine exponentOf_eq hn Nat.one_pos (by omega) ?_ (.inr ?_)
  · rw [hvalue, show (n.log2 : Int) - 52 + 53 = (n.log2 + 1 : Nat) by push_cast; ring, zpow_natCast]
    exact_mod_cast Nat.lt_log2_self
  · rw [hvalue, sub_add_cancel, zpow_natCast]
    exact_mod_cast Nat.log2_self_le hn.ne'

/-- A number of at most 53 digits is nearest to itself. -/
theorem nearestBits_of_log2_le {n j : Nat} (hn : 0 < n) (hj : n.log2 + j = 52)
    (hlt : n * Nat.pow 2 j < Nat.pow 2 53) :
    nearestBits n 1 = (-(j : Int) + 1074).toNat * Nat.pow 2 52 + n * Nat.pow 2 j := by
  have hexponent : exponentOf n 1 = -(j : Int) := by
    rw [exponentOf_one hn]
    omega
  have hround : roundDiv (shiftRight n 1 (-(j : Int))).1 (shiftRight n 1 (-(j : Int))).2 =
      n * Nat.pow 2 j := by
    have hone := roundDiv_mul (n * Nat.pow 2 j) 1 Nat.one_pos
    rw [Nat.mul_one] at hone
    refine (roundDiv_congr (shiftRight_pos _ Nat.one_pos _) Nat.one_pos ?_).trans hone
    rw [shiftRight_eq]
    simp
  unfold nearestBits
  dsimp only
  rw [hexponent, hround]
  refine Nat.min_eq_left ?_
  simp only [infinityBits, Nat.pow_eq, Nat.reducePow] at hlt ⊢
  omega

/-- A number of at most 53 digits is a double. -/
theorem round_of_log2_le (s : Sign) {n j : Nat} (hn : 0 < n) (hj : n.log2 + j = 52) :
    ∃ hm, UnpackedFloat.round Format.binary64 s n 0 = .finite s (n * Nat.pow 2 j) (-(j : Int)) hm ∧
      Nat.pow 2 52 ≤ n * Nat.pow 2 j ∧ n * Nat.pow 2 j < Nat.pow 2 53 ∧
      nearestBits n 1 = (-(j : Int) + 1074).toNat * Nat.pow 2 52 + n * Nat.pow 2 j := by
  have hge : Nat.pow 2 52 ≤ n * Nat.pow 2 j := by
    calc Nat.pow 2 52 = 2 ^ n.log2 * 2 ^ j := by rw [← Nat.pow_add, hj]
      _ ≤ n * 2 ^ j := Nat.mul_le_mul_right _ (Nat.log2_self_le hn.ne')
  have hlt : n * Nat.pow 2 j < Nat.pow 2 53 := by
    calc n * 2 ^ j < 2 ^ (n.log2 + 1) * 2 ^ j :=
          Nat.mul_lt_mul_of_pos_right Nat.lt_log2_self (Nat.two_pow_pos j)
      _ = Nat.pow 2 53 := by rw [← Nat.pow_add, Nat.add_right_comm, hj]
  have hm : 0 < n * Nat.pow 2 j := Nat.lt_of_lt_of_le (Nat.two_pow_pos 52) hge
  have htarget : max ((n.log2 : Int) - 52 + 0) (-1074) = -(j : Int) := by omega
  refine ⟨hm, ?_, hge, hlt, nearestBits_of_log2_le hn hj hlt⟩
  unfold UnpackedFloat.round decreaseExponent
  rw [targetExponent_eq, htarget]
  dsimp only
  rw [show (0 - -(j : Int)).toNat = j by omega, Nat.shiftLeft_eq, zero_sub]
  exact roundWithAccuracy_normal s hm hge hlt (by omega)

/-- Of a number of more digits, 53 are left before it is rounded, and perhaps one more after. -/
theorem roundDiv_bounds {n k : Nat} (hn : 0 < n) (hk : n.log2 = 52 + k) :
    Nat.pow 2 52 ≤ roundDiv n (2 ^ k) ∧ roundDiv n (2 ^ k) ≤ Nat.pow 2 53 := by
  have hlow := Nat.log2_self_le hn.ne'
  have hhigh := Nat.lt_log2_self (n := n)
  rw [hk, Nat.pow_add, ← Nat.le_div_iff_mul_le (Nat.two_pow_pos k)] at hlow
  rw [hk, Nat.add_right_comm, Nat.pow_add, ← Nat.div_lt_iff_lt_mul (Nat.two_pow_pos k)] at hhigh
  rw [Nat.pow_eq, Nat.pow_eq]
  rcases roundDiv_mem n (2 ^ k) with h | h <;> rw [h] <;> omega

/-- A number of more digits is nearest to what is left of it. -/
theorem nearestBits_of_lt_log2 {n k : Nat} (hn : 0 < n) (hk : n.log2 = 52 + k) (hle : k ≤ 900) :
    nearestBits n 1 = ((k : Int) + 1074).toNat * Nat.pow 2 52 + roundDiv n (2 ^ k) := by
  have hexponent : exponentOf n 1 = (k : Int) := by
    rw [exponentOf_one hn]
    omega
  have hshift : shiftRight n 1 k = (n, 2 ^ k) := by simp [shiftRight]
  have hround := (roundDiv_bounds hn hk).2
  unfold nearestBits
  dsimp only
  rw [hexponent, hshift]
  refine Nat.min_eq_left ?_
  simp only [infinityBits, Nat.pow_eq, Nat.reducePow, Nat.reduceMul] at hround ⊢
  omega

/-- A number of more digits is shifted and rounded. -/
theorem round_of_lt_log2 (s : Sign) {n k : Nat} (hn : 0 < n) (hk : n.log2 = 52 + k)
    (hle : k ≤ 900) :
    ∃ m e hm, UnpackedFloat.round Format.binary64 s n 0 = .finite s m e hm ∧ Nat.pow 2 52 ≤ m ∧
      m < Nat.pow 2 53 ∧ -1074 ≤ e ∧ e ≤ 971 ∧
      nearestBits n 1 = (e + 1074).toNat * Nat.pow 2 52 + m := by
  have hround : UnpackedFloat.round Format.binary64 s n 0 =
      roundWithAccuracy Format.binary64 s n 0 .exact := by
    have htarget : max ((n.log2 : Int) - 52 + 0) (-1074) = k := by omega
    unfold UnpackedFloat.round decreaseExponent
    rw [targetExponent_eq, htarget]
    dsimp only
    rw [show (0 - (k : Int)).toNat = 0 by omega]
    rfl
  have hfirst := shiftToTargetExponent_eq (e := 0) n (by rw [hk]; push_cast; rfl) (by decide)
  obtain ⟨hge, hle'⟩ := roundDiv_bounds hn hk
  rw [hround, nearestBits_of_lt_log2 hn hk hle]
  unfold roundWithAccuracy
  rw [hfirst]
  dsimp only
  rw [roundedMantissa_shift, zero_add]
  generalize roundDiv n (2 ^ k) = r at hge hle'
  rcases hle'.lt_or_eq with hlt | rfl
  · rw [shiftToTargetExponent_normal hge hlt (by omega)]
    have hpos : 0 < r := Nat.lt_of_lt_of_le (Nat.two_pow_pos 52) hge
    exact ⟨r, k, hpos, dif_neg hpos.ne', hge, hlt, by omega, by omega, rfl⟩
  · -- rounding up has given one digit more
    rw [shiftToTargetExponent_carry (by omega)]
    have hpos := Nat.two_pow_pos 52
    refine ⟨Nat.pow 2 52, (k : Int) + 1, hpos, dif_neg hpos.ne', le_rfl, by decide, by omega,
      by omega, ?_⟩
    simp only [Nat.pow_eq, Nat.reducePow]
    omega

/-- The double that a positive natural number is rounded to has the bits of the nearest one. -/
theorem exists_round_eq (s : Sign) {n : Nat} (hn : 0 < n) (hlt : n < Nat.pow 2 64) :
    ∃ m e hm, UnpackedFloat.round Format.binary64 s n 0 = .finite s m e hm ∧ Nat.pow 2 52 ≤ m ∧
      m < Nat.pow 2 53 ∧ -1074 ≤ e ∧ e ≤ 971 ∧
      nearestBits n 1 = (e + 1074).toNat * Nat.pow 2 52 + m := by
  have hlog : n.log2 < 64 := (Nat.log2_lt hn.ne').2 hlt
  rcases Nat.le_total n.log2 52 with h | h
  · obtain ⟨j, hj⟩ := Nat.exists_eq_add_of_le h
    obtain ⟨hm, hround, hge, hlt', hbits⟩ := round_of_log2_le s hn hj.symm
    exact ⟨_, _, hm, hround, hge, hlt', by omega, by omega, hbits⟩
  · obtain ⟨k, hk⟩ := Nat.exists_eq_add_of_le h
    exact round_of_lt_log2 s hn hk (by omega)

/-- An integer becomes the double that is nearest to it. -/
theorem toBits_ofInt {i : Int} (hi : i ≠ 0) (hlt : i.natAbs < Nat.pow 2 64) :
    (Float.ofModel (.ofInt i)).toBits.toNat =
      (if i < 0 then Nat.pow 2 63 else 0) + nearestBits i.natAbs 1 := by
  have hn : 0 < i.natAbs := Int.natAbs_pos.2 hi
  obtain ⟨s, hs, hround⟩ : ∃ s : Sign,
      s.toBitVec.toNat * Nat.pow 2 63 = (if i < 0 then Nat.pow 2 63 else 0) ∧
      UnpackedFloat.ofInt Format.binary64 i = UnpackedFloat.round Format.binary64 s i.natAbs 0 := by
    unfold UnpackedFloat.ofInt UnpackedFloat.normalize
    rcases lt_or_gt_of_ne hi with h | h
    · refine ⟨.negative, by rw [if_pos h]; rfl, ?_⟩
      rw [compare_lt_iff_lt.2 h, show i.natAbs = (-i).toNat by omega]
    · refine ⟨.positive, by rw [if_neg (by omega)]; rfl, ?_⟩
      rw [compare_gt_iff_gt.2 h, show i.natAbs = i.toNat by omega]
  obtain ⟨m, e, hm, hround', hge, hlt', hle, hmax, hbits⟩ := exists_round_eq s hn hlt
  show (UnpackedFloat.pack Format.binary64 (UnpackedFloat.ofInt Format.binary64 i)).toNat = _
  rw [hround, hround', toNat_pack_finite s hm hlt' hle hmax (.inr hge), hs, hbits]

/-! ## Numerical equality -/

/-- A finite double is equal to itself. -/
theorem beq_self {x : Float} (h : x.toBits.toNat % Nat.pow 2 63 < infinityBits) :
    (x == x) = true := by
  have hunpack := exists_unpack_eq (b := x.toBits.toBitVec) h
  show (UnpackedFloat.unpack Format.binary64 x.toBits.toBitVec).beq
    (UnpackedFloat.unpack Format.binary64 x.toBits.toBitVec) = true
  obtain ⟨s, -, ⟨-, hzero⟩ | ⟨hm, hfinite⟩⟩ := hunpack
  · rw [hzero]
    rfl
  · rw [hfinite]
    cases s <;> simp [UnpackedFloat.beq, UnpackedFloat.compare]

/-- Zeros are equal, whatever their signs are. -/
theorem beq_zero {x y : Float} (hx : x.toBits.toNat % Nat.pow 2 63 = 0)
    (hy : y.toBits.toNat % Nat.pow 2 63 = 0) : (x == y) = true := by
  have hunpack {z : Float} (hz : z.toBits.toNat % Nat.pow 2 63 = 0) :
      ∃ s, UnpackedFloat.unpack Format.binary64 z.toBits.toBitVec = .zero s := by
    have hz' : z.toBits.toBitVec.toNat % Nat.pow 2 63 = 0 := hz
    obtain ⟨s, -, ⟨-, hzero⟩ | ⟨hm, -⟩⟩ :=
      exists_unpack_eq (b := z.toBits.toBitVec) (by rw [hz']; decide)
    · exact ⟨s, hzero⟩
    · rw [hz'] at hm
      exact absurd hm (by decide)
  obtain ⟨s, hs⟩ := hunpack hx
  obtain ⟨s', hs'⟩ := hunpack hy
  show (UnpackedFloat.unpack Format.binary64 x.toBits.toBitVec).beq
    (UnpackedFloat.unpack Format.binary64 y.toBits.toBitVec) = true
  rw [hs, hs']
  rfl

/-- Of a finite double, the bits without the sign are below those of infinity. -/
theorem lt_infinityBits {x : Float} (h : x.isFinite = true) :
    x.toBits.toNat % Nat.pow 2 63 < infinityBits := by
  have hmax := exponent_ne_of_isFinite h
  have hlt := x.toBits.toNat_lt
  rw [← exponentField_mod] at hmax
  simp only [infinityBits, Nat.pow_eq, Nat.reducePow] at hmax ⊢
  omega

/-- A double whose bits without the sign are below those of infinity is finite. -/
theorem isFinite_of_lt {x : Float} (h : x.toBits.toNat % Nat.pow 2 63 < infinityBits) :
    x.isFinite = true := by
  have hunpack := exists_unpack_eq (b := x.toBits.toBitVec) h
  show (UnpackedFloat.unpack Format.binary64 x.toBits.toBitVec).isFinite = true
  obtain ⟨s, -, ⟨-, hzero⟩ | ⟨hm, hfinite⟩⟩ := hunpack
  · rw [hzero]
    rfl
  · rw [hfinite]
    rfl

theorem isFinite_ofBits {n : Nat} (h : n < infinityBits) :
    (Float.ofBits (.ofNat n)).isFinite = true := by
  refine isFinite_of_lt ?_
  rwa [toBits_ofBits h, mod_eq_self h]

end FormulaPad.Binary64
