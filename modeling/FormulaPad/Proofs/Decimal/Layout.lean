import FormulaPad.Json.Number
import FormulaPad.Proofs.Arithmetic.Lexemes
import FormulaPad.Proofs.Decimal.Bits
import FormulaPad.Proofs.Decimal.Shortest

/-!
# FormulaPad.Proofs.Decimal.Layout

The ways of laying digits out, and what an expression makes of them.

`Writes` says that a text is a number of the grammar that is read as a given
double. Positional notation is such a number wherever the point falls
(`writes_positional`), also with `.0` put behind it (`writes_positional_point`). With
a power of ten it is none, for the letter before the power is no character of an
expression (`exists_scientific_eq`). Which of the two is taken for a double is told by
its size (`positionalPowers_iff`).
-/

namespace FormulaPad.Digits

open Arithmetic

variable {t whole part : Text} {bits : Nat}

/-! ## Numbers as they are written -/

/-- The text is a number that ends with a digit, and the double it is read as has these bits. -/
structure Writes (t : Text) (bits : Nat) : Prop where
  isNumber : IsNumber t
  endsWithDigit : ∃ c ∈ t.getLast?, c.isDigit = true
  nearest :
    Numeral.magnitudeBits (Text.natOfDigits (t.filter Char.isDigit)) (-(places t : Int)) = bits

theorem Writes.toBits_numberValue (h : Writes t bits) (hfinite : bits < Binary64.infinityBits) :
    (numberValue t).toBits.toNat = bits := by
  unfold numberValue Numeral.toFloat Numeral.toBits
  rw [h.nearest]
  exact Binary64.toBits_ofBits hfinite

theorem exists_mem_getLast? (h : ∀ c ∈ t, c.isDigit = true) (hne : t ≠ []) :
    ∃ c ∈ t.getLast?, c.isDigit = true := by
  rw [List.getLast?_eq_getLast_of_ne_nil hne]
  exact ⟨_, rfl, h _ (List.getLast_mem hne)⟩

theorem writes_digits (h : ∀ c ∈ t, c.isDigit = true) (hne : t ≠ []) :
    Writes t (Numeral.magnitudeBits (Text.natOfDigits t) 0) where
  isNumber := (literalValue?_digits hne h).1
  endsWithDigit := exists_mem_getLast? h hne
  nearest := by simp [filter_isDigit_eq_self h, places_digits h]

theorem writes_point (hw : ∀ c ∈ whole, c.isDigit = true) (hp : ∀ c ∈ part, c.isDigit = true)
    (hne : part ≠ []) :
    Writes (whole ++ '.' :: part)
      (Numeral.magnitudeBits (Text.natOfDigits (whole ++ part)) (-(part.length : Int))) where
  isNumber := (literalValue?_point hw hp fun h => hne h.2).1
  endsWithDigit := by
    obtain ⟨c, hc, hdigit⟩ := exists_mem_getLast? hp hne
    exact ⟨c, by simp_all [List.getLast?_append, List.getLast?_cons], hdigit⟩
  nearest := by rw [filter_isDigit_point hw hp, places_point hw]

/-! ## Positional notation -/

theorem isDigit_of_mem_zeros {k : Nat} {c : Char} (h : c ∈ List.replicate k '0') :
    c.isDigit = true := by
  rw [List.eq_of_mem_replicate h]
  rfl

theorem isDigit_of_mem_zero : ∀ c ∈ ['0'], c.isDigit = true :=
  fun _ => isDigit_of_mem_zeros (k := 1)

theorem natOfDigits_zeros (k : Nat) : Text.natOfDigits (List.replicate k '0') = 0 := by
  induction k with
  | zero => rfl
  | succ k ih =>
      rw [List.replicate_succ', Text.natOfDigits_append_singleton, ih]
      rfl

theorem natOfDigits_zeros_append (k n : Nat) :
    Text.natOfDigits (List.replicate k '0' ++ Text.ofNat n) = n := by
  rw [Text.natOfDigits_append, natOfDigits_zeros, Text.natOfDigits_ofNat, Nat.mul_zero,
    Nat.zero_add]

theorem isDigit_of_mem_whole {n k : Nat} {c : Char} (h : c ∈ Text.ofNat n ++ List.replicate k '0') :
    c.isDigit = true := by
  cases List.mem_append.1 h with
  | inl h => exact Text.isDigit_of_mem_ofNat h
  | inr h => exact isDigit_of_mem_zeros h

/-- Zeros behind the digits count as a power of ten. -/
theorem magnitudeBits_whole (n k : Nat) :
    Numeral.magnitudeBits (Text.natOfDigits (Text.ofNat n ++ List.replicate k '0')) 0 =
      Numeral.magnitudeBits n k := by
  have hmul := Numeral.magnitudeBits_mul_pow n k 0
  rw [Int.zero_add] at hmul
  rw [Text.natOfDigits_append, natOfDigits_zeros, Text.natOfDigits_ofNat, List.length_replicate,
    Nat.add_zero, Nat.mul_comm]
  exact hmul

/-- Behind all digits there may be zeros. -/
theorem writes_whole (n k : Nat) :
    Writes (Text.ofNat n ++ List.replicate k '0') (Numeral.magnitudeBits n k) := by
  have hne : Text.ofNat n ++ List.replicate k '0' ≠ [] :=
    List.append_ne_nil_of_left_ne_nil (Text.ofNat_ne_nil n) _
  rw [← magnitudeBits_whole]
  exact writes_digits (fun _ => isDigit_of_mem_whole) hne

/-- The point may fall between two digits. -/
theorem writes_between {n k : Nat} (hk : 0 < k) (h : k < (Text.ofNat n).length) :
    Writes ((Text.ofNat n).take ((Text.ofNat n).length - k) ++
        '.' :: (Text.ofNat n).drop ((Text.ofNat n).length - k))
      (Numeral.magnitudeBits n (-(k : Int))) := by
  have hsplit := List.take_append_drop ((Text.ofNat n).length - k) (Text.ofNat n)
  have hlength : ((Text.ofNat n).drop ((Text.ofNat n).length - k)).length = k := by
    rw [List.length_drop]
    omega
  have hdigit : ∀ c ∈ Text.ofNat n, c.isDigit = true := fun _ => Text.isDigit_of_mem_ofNat
  generalize (Text.ofNat n).take ((Text.ofNat n).length - k) = whole at *
  generalize (Text.ofNat n).drop ((Text.ofNat n).length - k) = part at *
  rw [← hsplit] at hdigit
  have hwrites := writes_point (fun c hc => hdigit c (List.mem_append_left part hc))
    (fun c hc => hdigit c (List.mem_append_right whole hc))
    (List.ne_nil_of_length_pos (hlength ▸ hk))
  rwa [hsplit, hlength, Text.natOfDigits_ofNat] at hwrites

/-- Between the point and the digits there may be zeros. -/
theorem writes_below {n k : Nat} (h : (Text.ofNat n).length ≤ k) :
    Writes ('0' :: '.' :: List.replicate (k - (Text.ofNat n).length) '0' ++ Text.ofNat n)
      (Numeral.magnitudeBits n (-(k : Int))) := by
  have hlength : (List.replicate (k - (Text.ofNat n).length) '0' ++ Text.ofNat n).length = k := by
    rw [List.length_append, List.length_replicate]
    omega
  have hdigit : ∀ c ∈ List.replicate (k - (Text.ofNat n).length) '0' ++ Text.ofNat n,
      c.isDigit = true := fun c hc =>
    (List.mem_append.1 hc).elim isDigit_of_mem_zeros Text.isDigit_of_mem_ofNat
  have hvalue := natOfDigits_zeros_append (k - (Text.ofNat n).length + 1) n
  rw [List.replicate_succ, List.cons_append, ← List.singleton_append] at hvalue
  have hwrites := writes_point isDigit_of_mem_zero hdigit
    (List.append_ne_nil_of_right_ne_nil _ (Text.ofNat_ne_nil n))
  rwa [hvalue, hlength] at hwrites

/-- **Positional notation** is read as the double nearest to the number. -/
theorem writes_positional (d : Digits) :
    Writes (positional d) (Numeral.magnitudeBits d.digits d.exponent) := by
  obtain ⟨n, exponent⟩ := d
  unfold positional
  dsimp only
  split
  case isTrue h =>
      obtain ⟨k, rfl⟩ := Int.eq_ofNat_of_zero_le h
      exact writes_whole n k
  case isFalse h =>
      obtain ⟨k, hk⟩ := Int.eq_ofNat_of_zero_le (a := -exponent) (by omega)
      obtain rfl : exponent = -(k : Int) := by omega
      rw [neg_neg, Int.toNat_natCast]
      split
      case isTrue hlt => exact writes_between (by omega) hlt
      case isFalse hge => exact writes_below (by omega)

/-- A point and a zero behind a whole number do not change what it is read as. -/
theorem writes_positional_point {d : Digits} (h : 0 ≤ d.exponent) :
    Writes (positional d ++ ".0".toList) (Numeral.magnitudeBits d.digits d.exponent) := by
  have hpositional : positional d = Text.ofNat d.digits ++ List.replicate d.exponent.toNat '0' := by
    simp [positional, h]
  have hbits := Numeral.magnitudeBits_ten_mul
    (Text.natOfDigits (Text.ofNat d.digits ++ List.replicate d.exponent.toNat '0')) (-1)
  rw [neg_add_cancel, magnitudeBits_whole, Int.toNat_of_nonneg h] at hbits
  have hwrites := writes_point
    (fun _ => isDigit_of_mem_whole (n := d.digits) (k := d.exponent.toNat)) isDigit_of_mem_zero
    (List.cons_ne_nil _ _)
  rw [Text.natOfDigits_append_singleton] at hwrites
  rw [hpositional, ← hbits]
  exact hwrites

/-! ## Powers of ten -/

theorem isLiteralChar_of_isDigit {c : Char} (h : c.isDigit = true) : isLiteralChar c = true := by
  simp [isLiteralChar, h]

/-- With a power of ten there are digits and points up to the letter before the power, and no blanks
after it. -/
theorem exists_scientific_eq (d : Digits) :
    ∃ body power, scientific d = body ++ 'e' :: power ∧
      (∀ c ∈ body, isLiteralChar c = true) ∧ ∀ c ∈ power, Text.isBlank c = false := by
  have hdigit : ∀ c ∈ Text.ofNat d.digits, isLiteralChar c = true := fun _ hc =>
    isLiteralChar_of_isDigit (Text.isDigit_of_mem_ofNat hc)
  have hint : ∀ c ∈ Text.ofInt d.lead, Text.isBlank c = false := by
    have hnat : ∀ c ∈ Text.ofNat d.lead.natAbs, Text.isBlank c = false := fun _ hc =>
      isBlank_of_isLiteralChar (isLiteralChar_of_isDigit (Text.isDigit_of_mem_ofNat hc))
    unfold Text.ofInt
    split
    · exact List.forall_mem_cons.2 ⟨by decide, hnat⟩
    · exact hnat
  unfold scientific
  refine ⟨_, _, rfl, ?_, ?_⟩
  · split
    case h_1 first second rest hdigits =>
        rw [hdigits] at hdigit
        simp only [List.forall_mem_cons] at hdigit ⊢
        exact ⟨hdigit.1, by decide, hdigit.2⟩
    case h_2 => exact hdigit
  · split
    · exact List.forall_mem_cons.2 ⟨by decide, hint⟩
    · exact hint

end FormulaPad.Digits

namespace FormulaPad.Binary64

open Float.Model (UnpackedFloat Format)

variable {x : Float}

/-! ## The parts of a double -/

theorem value_eq_zero_iff {bits : Nat} : value bits = 0 ↔ bits = 0 := by
  constructor
  · intro h
    by_contra hne
    exact (value_pos (Nat.pos_of_ne_zero hne)).ne' h
  · rintro rfl
    simp [value, magnitude]

theorem abs_exactValue_eq (h : x.isFinite = true) :
    |exactValue x| = value (Digits.magnitudeBits x) :=
  abs_exactValue h

theorem magnitudeBits_pos_iff (h : x.isFinite = true) :
    0 < Digits.magnitudeBits x ↔ exactValue x ≠ 0 := by
  rw [Nat.pos_iff_ne_zero, Ne, ← value_eq_zero_iff, ← abs_exactValue_eq h, abs_eq_zero]

/-- A finite double, taken apart. -/
theorem ofFloat_eq (h : x.isFinite = true) :
    ofFloat x = .finite (ofFloat x).isNegative (magnitude (Digits.magnitudeBits x)).1
      (magnitude (Digits.magnitudeBits x)).2 := by
  have hfinite := lt_infinityBits h
  unfold ofFloat ofBits Digits.magnitudeBits
  dsimp only
  rw [if_neg (by omega), if_neg (by omega)]
  rfl

/-- The bits of a double, from its sign and its bits without the sign. -/
theorem toBits_eq (x : Float) :
    x.toBits.toNat =
      (if (ofFloat x).isNegative then Nat.pow 2 63 else 0) + Digits.magnitudeBits x := by
  have hlt := x.toBits.toNat_lt
  have hnegative : (ofFloat x).isNegative = decide (Nat.pow 2 63 ≤ x.toBits.toNat) := by
    unfold ofFloat ofBits
    dsimp only
    split
    · rfl
    · split <;> rfl
  rw [hnegative]
  unfold Digits.magnitudeBits
  simp only [Nat.pow_eq, Nat.reducePow, decide_eq_true_eq] at hlt ⊢
  split <;> omega

/-- The value of the double with these bits. -/
theorem abs_exactValue_ofBits {bits : Nat} (h : bits < infinityBits) :
    |exactValue (.ofBits (.ofNat bits))| = value bits := by
  have hbits : Digits.magnitudeBits (.ofBits (.ofNat bits)) = bits := by
    unfold Digits.magnitudeBits
    rw [toBits_ofBits h, mod_eq_self h]
  rw [abs_exactValue_eq (isFinite_ofBits h), hbits]

/-- Only the zeros are equal to zero. -/
theorem beq_zero_eq_false (h : x.isFinite = true) (hne : exactValue x ≠ 0) : (x == 0) = false := by
  have hpos := (magnitudeBits_pos_iff h).2 hne
  have hzero : UnpackedFloat.unpack Format.binary64 (0 : Float).toBits.toBitVec =
      .zero .positive := rfl
  show (UnpackedFloat.unpack Format.binary64 x.toBits.toBitVec).beq
    (UnpackedFloat.unpack Format.binary64 (0 : Float).toBits.toBitVec) = false
  obtain ⟨s, -, ⟨hbits, -⟩ | ⟨hm, hx⟩⟩ :=
    exists_unpack_eq (b := x.toBits.toBitVec) (lt_infinityBits h)
  · exact absurd hbits hpos.ne'
  · rw [hx, hzero]
    cases s <;> rfl

end FormulaPad.Binary64

namespace FormulaPad.Json.Number

open Digits (Writes shortest)
open Binary64 (infinityBits value)

variable {x : Float} {bits : Nat}

/-! ## Which layout is taken -/

/-- Of the powers of ten between which positional notation is used, the least is rounded up and the
one above the greatest is a double. -/
theorem le_value_positionalPowers :
    (10 : ℚ) ^ positionalPowers.1 ≤ value (Numeral.magnitudeBits 1 positionalPowers.1) ∧
      (10 : ℚ) ^ (positionalPowers.2 + 1) ≤
        value (Numeral.magnitudeBits 1 (positionalPowers.2 + 1)) := by
  have hleast : Numeral.magnitudeBits 1 (-5) = 0x3EE4F8B588E368F1 := by decide +kernel
  have hgreatest : Numeral.magnitudeBits 1 16 = 0x4341C37937E08000 := by decide +kernel
  show (10 : ℚ) ^ (-5 : Int) ≤ value (Numeral.magnitudeBits 1 (-5)) ∧
    (10 : ℚ) ^ (16 : Int) ≤ value (Numeral.magnitudeBits 1 16)
  rw [hleast, hgreatest]
  norm_num [value, Binary64.magnitude]

/-- The size of a double tells whether it is written in positional notation. -/
theorem positionalPowers_iff (hpos : 0 < bits) (hfinite : bits < infinityBits) :
    positionalPowers.1 ≤ (shortest .toEven bits).lead ∧
        (shortest .toEven bits).lead ≤ positionalPowers.2 ↔
      (10 : ℚ) ^ (-5 : Int) ≤ value bits ∧ value bits < 10 ^ (16 : Int) := by
  obtain ⟨hleast, hgreatest⟩ := le_value_positionalPowers
  have hlow := Digits.le_lead_iff .toEven hpos hfinite hleast
  have hhigh := Digits.le_lead_iff .toEven hpos hfinite hgreatest
  have hle : (shortest .toEven bits).lead ≤ positionalPowers.2 ↔
      ¬ positionalPowers.2 + 1 ≤ (shortest .toEven bits).lead := by omega
  rw [hlow, hle, hhigh, not_le]
  rfl

/-- A double of moderate size is written in positional notation. -/
theorem exists_writes_writeDouble (h : x.isFinite = true)
    (hlow : (10 : ℚ) ^ (-5 : Int) ≤ |exactValue x|) (hhigh : |exactValue x| < 10 ^ (16 : Int)) :
    ∃ t, writeDouble x = Digits.signOf x ++ t ∧ Writes t (Digits.magnitudeBits x) := by
  have hten : (0 : ℚ) < 10 ^ (-5 : Int) := by positivity
  have hne : exactValue x ≠ 0 := abs_pos.1 (hten.trans_le hlow)
  have hpos := (Binary64.magnitudeBits_pos_iff h).2 hne
  have hfinite := Binary64.lt_infinityBits h
  rw [Binary64.abs_exactValue_eq h] at hlow hhigh
  have hlead := (positionalPowers_iff hpos hfinite).2 ⟨hlow, hhigh⟩
  obtain ⟨-, hbits, -⟩ := Digits.shortest_spec .toEven hpos hfinite
  unfold writeDouble
  rw [if_neg (by rw [Binary64.beq_zero_eq_false h hne]; decide)]
  dsimp only [Digits.ofFloat]
  rw [if_pos hlead, List.append_assoc]
  generalize shortest .toEven (Digits.magnitudeBits x) = d at hbits ⊢
  refine ⟨_, rfl, ?_⟩
  rw [← hbits]
  split
  case isTrue hwhole => exact Digits.writes_positional_point hwhole
  case isFalse hpart =>
      rw [List.append_nil]
      exact Digits.writes_positional d

/-- A very small or a very large double is written with a power of ten. -/
theorem writeDouble_eq_scientific (h : x.isFinite = true) (hne : exactValue x ≠ 0)
    (hsize : |exactValue x| < 10 ^ (-5 : Int) ∨ (10 : ℚ) ^ (16 : Int) ≤ |exactValue x|) :
    writeDouble x = Digits.signOf x ++ Digits.scientific (Digits.ofFloat .toEven x) := by
  have hpos := (Binary64.magnitudeBits_pos_iff h).2 hne
  have hfinite := Binary64.lt_infinityBits h
  rw [Binary64.abs_exactValue_eq h] at hsize
  have hlead := mt (positionalPowers_iff hpos hfinite).1 (by
    rintro ⟨hlow, hhigh⟩
    rcases hsize with hsize | hsize
    · exact absurd hlow hsize.not_ge
    · exact absurd hhigh hsize.not_gt)
  unfold writeDouble
  rw [if_neg (by rw [Binary64.beq_zero_eq_false h hne]; decide)]
  exact if_neg hlead

end FormulaPad.Json.Number
