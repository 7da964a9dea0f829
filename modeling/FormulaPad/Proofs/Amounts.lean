import FormulaPad.Proofs.Digits
import FormulaPad.Proofs.Doubles

/-!
# FormulaPad.Proofs.Amounts

Amounts of US dollars are exact roundings.

`IsAmount` says which text is an amount of a whole number of cents. Main
statements:

* `grouped_groupThousands` — grouping puts a comma before every group of three
  digits counted from the right, and no other;
* `natOfDigits_expansion` — the digits that a finite double is written with
  stand for it exactly;
* `roundCents_digits` — the third digit after the point decides alone, and the
  carry gives the digits of the number of cents;
* `isAmount_format` — a finite double is written as its exact value rounded to
  cents, a half going away from zero.
-/

namespace FormulaPad.Money

open Text

/-! ## Grouping -/

/-- The text is the digits with a comma before every group of three of them counted from the
right: one to three digits first, then groups of three. -/
def Grouped (digits text : Text) : Prop :=
  ∃ (first : Text) (groups : List Text),
    first ≠ [] ∧ first.length ≤ 3 ∧ (∀ g ∈ groups, g.length = 3) ∧
    digits = first ++ groups.flatten ∧ text = first ++ groups.flatMap (',' :: ·)

/-- The places count by threes, once the first digit is past. -/
theorem groupFrom_add_three {i : Nat} (h : 0 < i) (t : Text) :
    groupFrom (i + 3) t = groupFrom i t := by
  induction t generalizing i with
  | nil => rfl
  | cons c t ih =>
      have hmod : (i + 3) % 3 = i % 3 := by omega
      have hpos : 0 < i + 3 := by omega
      simp only [groupFrom, hmod, h, hpos, true_and, Nat.add_right_comm i 3 1, ih (Nat.succ_pos i)]

theorem groupFrom_three {t : Text} (h : t ≠ []) : groupFrom 3 t = ',' :: groupFrom 0 t := by
  cases t with
  | nil => exact absurd rfl h
  | cons c t =>
      rw [groupFrom, if_pos (by decide), groupFrom, if_neg (by decide),
        groupFrom_add_three (i := 1) (by decide)]

/-- Three more digits on the right are one more group. -/
theorem groupThousands_append {t : Text} (h : t ≠ []) (a b c : Char) :
    groupThousands (t ++ [a, b, c]) = groupThousands t ++ [',', a, b, c] := by
  have hrev : t.reverse ≠ [] := by simpa using h
  have hgroup : groupFrom 0 (t ++ [a, b, c]).reverse = c :: b :: a :: groupFrom 3 t.reverse := by
    simp [groupFrom]
  rw [groupThousands, hgroup, groupFrom_three hrev, groupThousands]
  simp

theorem groupThousands_of_length_le {t : Text} (h : t.length ≤ 3) : groupThousands t = t := by
  match t with
  | [] => rfl
  | [_] => rfl
  | [_, _] => rfl
  | [_, _, _] => rfl
  | _ :: _ :: _ :: _ :: _ =>
      simp only [List.length_cons] at h
      omega

/-- A comma stands before every group of three digits counted from the right, and nowhere else. -/
theorem grouped_groupThousands (digits : Text) (h : digits ≠ []) :
    Grouped digits (groupThousands digits) := by
  induction hn : digits.length using Nat.strongRecOn generalizing digits with
  | ind n ih =>
      by_cases hlen : digits.length ≤ 3
      · exact ⟨digits, [], h, hlen, by simp, by simp,
          by rw [groupThousands_of_length_le hlen]; simp⟩
      · -- the last three digits are the last group
        obtain ⟨lead, a, b, c, rfl⟩ : ∃ lead a b c, digits = lead ++ [a, b, c] := by
          have hlast : (digits.drop (digits.length - 3)).length = 3 := by
            rw [List.length_drop]; omega
          obtain ⟨a, b, c, habc⟩ := List.length_eq_three.1 hlast
          exact ⟨digits.take (digits.length - 3), a, b, c, by
            rw [← habc, List.take_append_drop]⟩
        have hlead : lead ≠ [] := by
          rintro rfl
          simp at hlen
        obtain ⟨first, groups, hne, hle, hall, hdigits, htext⟩ :=
          ih lead.length (by simp at hn; omega) lead hlead rfl
        refine ⟨first, groups ++ [[a, b, c]], hne, hle, ?_, ?_, ?_⟩
        · intro g hg
          cases List.mem_append.1 hg with
          | inl hg => exact hall g hg
          | inr hg => rw [List.mem_singleton.1 hg]; rfl
        · rw [hdigits]; simp
        · rw [groupThousands_append hlead, htext]; simp

/-- Grouping keeps the first digit in front. -/
theorem Grouped.head?_eq {digits text : Text} (h : Grouped digits text) :
    text.head? = digits.head? := by
  obtain ⟨first, groups, hne, -, -, rfl, rfl⟩ := h
  cases first with
  | nil => exact absurd rfl hne
  | cons c first => rfl

/-- Commas are all that grouping adds. -/
theorem Grouped.filter_ne_comma {digits text : Text} (h : Grouped digits text)
    (hd : ',' ∉ digits) : text.filter (· != ',') = digits := by
  obtain ⟨first, groups, -, -, -, rfl, rfl⟩ := h
  have hkeep : ∀ t : Text, ',' ∉ t → t.filter (· != ',') = t := fun t ht =>
    List.filter_eq_self.2 fun c hc => bne_iff_ne.2 fun e => ht (e ▸ hc)
  rw [List.filter_append, hkeep first fun hm => hd (List.mem_append_left _ hm)]
  congr 1
  induction groups with
  | nil => rfl
  | cons g groups ih =>
      have hg : ',' ∉ g := fun hm => hd (by simp [hm])
      have hrest : ',' ∉ first ++ groups.flatten := by
        intro hm
        apply hd
        cases List.mem_append.1 hm with
        | inl hm => exact List.mem_append_left _ hm
        | inr hm => simp only [List.flatten_cons, List.mem_append, hm, or_true]
      rw [List.flatMap_cons, List.cons_append, List.filter_cons_of_neg (by simp),
        List.filter_append, hkeep g hg, ih hrest, List.flatten_cons]

/-! ## Rounding digits -/

/-- A number of cents in digits, the last two of them the cents. -/
def written (cents : Nat) : Text :=
  ofNat (cents / 100) ++ [(cents / 10 % 10).digitChar, (cents % 10).digitChar]

/-- One cent more is carried through all the nines. -/
theorem increment_written (cents : Nat) : increment (written cents) = written (cents + 1) := by
  unfold written
  have hsplit (t : Text) (c d : Char) : t ++ [c, d] = t ++ [c] ++ [d] := by simp
  rw [hsplit, hsplit]
  by_cases hlast : cents % 10 = 9
  · have hnext : (cents + 1) % 10 = 0 := by omega
    rw [hlast, show (9 : Nat).digitChar = '9' from rfl, increment_nine, hnext]
    by_cases htens : cents / 10 % 10 = 9
    · have hwhole : (cents + 1) / 100 = cents / 100 + 1 := by omega
      have hten : (cents + 1) / 10 % 10 = 0 := by omega
      rw [htens, show (9 : Nat).digitChar = '9' from rfl, increment_nine, increment_ofNat, hwhole,
        hten]
      rfl
    · have hwhole : (cents + 1) / 100 = cents / 100 := by omega
      have hten : (cents + 1) / 10 % 10 = cents / 10 % 10 + 1 := by omega
      rw [increment_digit _ (by omega), hwhole, hten]
      rfl
  · have hwhole : (cents + 1) / 100 = cents / 100 := by omega
    have hten : (cents + 1) / 10 % 10 = cents / 10 % 10 := by omega
    have hnext : (cents + 1) % 10 = cents % 10 + 1 := by omega
    rw [increment_digit _ (by omega), hwhole, hten, hnext]

theorem splitAt_written (cents : Nat) :
    (written cents).splitAt ((written cents).length - 2) =
      (ofNat (cents / 100), [(cents / 10 % 10).digitChar, (cents % 10).digitChar]) := by
  rw [List.splitAt_eq]
  have hlen : (written cents).length - 2 = (ofNat (cents / 100)).length := by simp [written]
  rw [hlen, written, List.take_left, List.drop_left]

theorem point_not_mem_ofNat (n : Nat) : '.' ∉ ofNat n := fun h =>
  absurd (isDigit_of_mem_ofNat h) (by decide)

/-- The third digit after the point decides alone whether there is one cent more. -/
theorem roundCents_written (cents : Nat) {d : Nat} (h : d < 10) (rest : Text) :
    roundCents (ofNat (cents / 100) ++ '.' ::
        (cents / 10 % 10).digitChar :: (cents % 10).digitChar :: d.digitChar :: rest) =
      (written (if 5 ≤ d then cents + 1 else cents)).splitAt
        ((written (if 5 ≤ d then cents + 1 else cents)).length - 2) := by
  unfold roundCents
  rw [splitAt?_append (point_not_mem_ofNat _)]
  simp only [Option.getD_some, List.getD_cons_zero, List.getD_cons_succ, five_le_digitChar h]
  rw [← written]
  split
  · rw [increment_written]
  · rfl

/-- The hundredths of a decimal fraction, a half rounded up, as a quotient of natural numbers. -/
theorem floor_hundredths (n : Nat) {p : Nat} (hp : 0 < p) :
    ⌊100 * ((n : ℚ) / (1000 * p : Nat)) + 1 / 2⌋₊ = (n + 5 * p) / (10 * p) := by
  have hq : (p : ℚ) ≠ 0 := by exact_mod_cast hp.ne'
  have hsum : 100 * ((n : ℚ) / (1000 * p : Nat)) + 1 / 2 =
      ((n + 5 * p : Nat) : ℚ) / (10 * p : Nat) := by
    push_cast
    field_simp
    ring
  rw [hsum, Nat.floor_div_eq_div]

/-- A rest below one unit of the third digit does not reach the half that the digit decides. -/
theorem quotient_third_digit {cents d r p : Nat} (hd : d < 10) (hr : r < p) :
    (p * (10 * cents + d) + r + 5 * p) / (10 * p) = if 5 ≤ d then cents + 1 else cents := by
  have hp : 0 < 10 * p := by omega
  have hexpand : p * (10 * cents + d) = cents * (10 * p) + d * p := by ring
  have hten : d * p ≤ 9 * p := Nat.mul_le_mul_right p (by omega)
  rw [hexpand]
  split
  case isTrue h =>
      have hfive : 5 * p ≤ d * p := Nat.mul_le_mul_right p h
      rw [show cents * (10 * p) + d * p + r + 5 * p =
        (d * p + r - 5 * p) + (cents + 1) * (10 * p) by rw [Nat.add_mul]; omega,
        Nat.add_mul_div_right _ _ hp, Nat.div_eq_of_lt (by omega), Nat.zero_add]
  case isFalse h =>
      have hfour : d * p ≤ 4 * p := Nat.mul_le_mul_right p (by omega)
      rw [show cents * (10 * p) + d * p + r + 5 * p =
        (d * p + r + 5 * p) + cents * (10 * p) by omega,
        Nat.add_mul_div_right _ _ hp, Nat.div_eq_of_lt (by omega), Nat.zero_add]

/-- Digits with a point are rounded to the hundredths of the number that they stand for. -/
theorem roundCents_digits (whole : Nat) {fraction : Text} (hd : ∀ c ∈ fraction, c.isDigit = true)
    (hlen : 3 ≤ fraction.length) {cents : Nat}
    (hc : ⌊100 * ((natOfDigits (ofNat whole ++ fraction) : ℚ) /
      (Nat.pow 10 fraction.length : Nat)) + 1 / 2⌋₊ = cents) :
    roundCents (ofNat whole ++ '.' :: fraction) =
      (ofNat (cents / 100), [(cents / 10 % 10).digitChar, (cents % 10).digitChar]) := by
  match fraction, hlen with
  | x :: y :: z :: rest, _ =>
      obtain ⟨a, ha, rfl⟩ := exists_digitChar (hd x (by simp))
      obtain ⟨b, hb, rfl⟩ := exists_digitChar (hd y (by simp))
      obtain ⟨d, hdlt, rfl⟩ := exists_digitChar (hd z (by simp))
      have hrest := natOfDigits_lt (t := rest) fun c hm => hd c (by simp [hm])
      have hread : natOfDigits (ofNat whole ++ a.digitChar :: b.digitChar :: d.digitChar :: rest) =
          Nat.pow 10 rest.length * (10 * (100 * whole + 10 * a + b) + d) + natOfDigits rest := by
        rw [show ofNat whole ++ a.digitChar :: b.digitChar :: d.digitChar :: rest =
          ofNat whole ++ [a.digitChar] ++ [b.digitChar] ++ [d.digitChar] ++ rest by simp,
          natOfDigits_append, natOfDigits_append_singleton, natOfDigits_append_singleton,
          natOfDigits_append_singleton, natOfDigits_ofNat, digitValue_digitChar ha,
          digitValue_digitChar hb, digitValue_digitChar hdlt]
        ring
      have hpow : Nat.pow 10 (a.digitChar :: b.digitChar :: d.digitChar :: rest).length =
          1000 * Nat.pow 10 rest.length := by
        simp only [List.length_cons, Nat.pow_eq]; ring
      have hw : (100 * whole + 10 * a + b) / 100 = whole := by omega
      have ht : (100 * whole + 10 * a + b) / 10 % 10 = a := by omega
      have hl : (100 * whole + 10 * a + b) % 10 = b := by omega
      have hround := roundCents_written (100 * whole + 10 * a + b) hdlt rest
      rw [hw, ht, hl, splitAt_written] at hround
      rw [hpow, hread, floor_hundredths _ (Nat.pos_of_ne_zero (by omega)),
        quotient_third_digit hdlt hrest] at hc
      rw [hround, hc]

/-! ## The exact expansion -/

theorem isDigit_of_mem_fractionDigits {den : Nat} (n : Nat) {rest : Nat} (h : rest < den) :
    ∀ c ∈ fractionDigits den n rest, c.isDigit = true := by
  induction n generalizing rest with
  | zero => simp [fractionDigits]
  | succ n ih =>
      intro c hc
      rw [fractionDigits, List.mem_cons] at hc
      cases hc with
      | inl hc => rw [hc, isDigit_digitChar (ten_mul_div_lt h)]
      | inr hc => exact ih (Nat.mod_lt _ (by omega)) c hc

theorem two_pow_dvd_ten_pow (n : Nat) : Nat.pow 2 n ∣ Nat.pow 10 n := by
  rw [Nat.pow_eq, Nat.pow_eq]
  exact pow_dvd_pow_of_dvd (by decide) n

/-- A fraction whose denominator divides `10 ^ n` is exact with `n` digits after the point. -/
theorem natOfDigits_decimal {num den n : Nat} (hden : 0 < den) (hdvd : den ∣ Nat.pow 10 n) :
    (natOfDigits (ofNat (num / den) ++ fractionDigits den n (num % den)) : ℚ) / (Nat.pow 10 n : Nat) =
      (num : ℚ) / den := by
  obtain ⟨k, hk⟩ := hdvd
  have hkpos : 0 < k := Nat.pos_of_ne_zero fun h0 => by
    rw [h0, Nat.mul_zero] at hk
    exact absurd hk (Nat.pow_pos (by decide)).ne'
  have hread : natOfDigits (ofNat (num / den) ++ fractionDigits den n (num % den)) = k * num := by
    rw [natOfDigits_append, length_fractionDigits, natOfDigits_ofNat,
      natOfDigits_fractionDigits n (Nat.mod_lt num hden), hk, Nat.mul_assoc, Nat.mul_assoc,
      Nat.mul_div_cancel_left _ hden]
    calc den * (k * (num / den)) + k * (num % den) = k * (den * (num / den) + num % den) := by ring
      _ = k * num := by rw [Nat.div_add_mod]
  have hk0 : (k : ℚ) ≠ 0 := by exact_mod_cast hkpos.ne'
  have hd0 : (den : ℚ) ≠ 0 := by exact_mod_cast hden.ne'
  rw [hread, hk]
  push_cast
  field_simp

/-- The digits that a finite double is written with stand for it exactly. -/
theorem natOfDigits_expansion {x : Float} (h : x.isFinite = true) :
    ∃ (whole : Nat) (fraction : Text), expansion (.ofFloat x) = ofNat whole ++ '.' :: fraction ∧
      (∀ c ∈ fraction, c.isDigit = true) ∧ fraction.length = exactFractionDigits ∧
      (natOfDigits (ofNat whole ++ fraction) : ℚ) / (Nat.pow 10 fraction.length : Nat) =
        |exactValue x| := by
  obtain ⟨significand, exponent, hle, hbits, hvalue⟩ := Binary64.ofFloat_of_isFinite h
  have hden := Binary64.fraction_den_pos significand exponent
  have hdvd : (Binary64.fraction significand exponent).2 ∣ Nat.pow 10 exactFractionDigits := by
    have hle' : -(exactFractionDigits : Int) ≤ exponent := by
      unfold exactFractionDigits; omega
    exact Nat.dvd_trans (Binary64.fraction_den_dvd hle') (two_pow_dvd_ten_pow exactFractionDigits)
  refine ⟨_, _, by rw [hbits, expansion, decimal],
    isDigit_of_mem_fractionDigits _ (Nat.mod_lt _ hden), length_fractionDigits _ _ _, ?_⟩
  rw [length_fractionDigits, natOfDigits_decimal hden hdvd, Binary64.fraction_eq, hvalue]

/-! ## Amounts -/

/-- The text is the amount of `cents` cents, with `whole` for the dollars and `part` for the cents:
an optional minus sign, a dollar sign, grouped digits without a leading zero, a point and two
digits. -/
structure IsAmount (negative : Bool) (cents : Nat) (whole part text : Text) : Prop where
  text_eq : text = (if negative then ['-'] else []) ++ '$' :: (whole ++ '.' :: part)
  isDigit_whole : ∀ c ∈ whole.filter (· != ','), c.isDigit = true
  grouped : Grouped (whole.filter (· != ',')) whole
  no_leading_zero : whole.head? = some '0' → whole = ['0']
  length_part : part.length = 2
  isDigit_part : ∀ c ∈ part, c.isDigit = true
  cents_eq : 100 * natOfDigits (whole.filter (· != ',')) + natOfDigits part = cents

/-- A finite double is written as its exact value in dollars, rounded to cents with a half going
away from zero; the minus sign is the sign bit. -/
theorem isAmount_format (x : Float) (h : x.isFinite = true) :
    ∃ whole part, IsAmount (x.toBits.toNat.testBit 63) ⌊100 * |exactValue x| + 1 / 2⌋₊ whole part
      (format (.ofFloat x)) := by
  obtain ⟨whole, fraction, hprint, hdigits, hlen, hexact⟩ := natOfDigits_expansion h
  have hlen3 : 3 ≤ fraction.length := by rw [hlen]; decide
  generalize hcents : ⌊100 * |exactValue x| + 1 / 2⌋₊ = cents
  have hround := roundCents_digits whole hdigits hlen3 (by rw [hexact, hcents])
  obtain ⟨significand, exponent, -, hbits, -⟩ := Binary64.ofFloat_of_isFinite h
  have hsign : (Binary64.ofFloat x).isNegative = x.toBits.toNat.testBit 63 := by
    rw [hbits, Binary64.isNegative]
  have hcomma : ',' ∉ ofNat (cents / 100) := fun hm => absurd (isDigit_of_mem_ofNat hm) (by decide)
  have hgroup := grouped_groupThousands (ofNat (cents / 100)) (ofNat_ne_nil _)
  have hfilter := hgroup.filter_ne_comma hcomma
  have htens : cents / 10 % 10 < 10 := Nat.mod_lt _ (by decide)
  have hones : cents % 10 < 10 := Nat.mod_lt _ (by decide)
  refine ⟨groupThousands (ofNat (cents / 100)),
    [(cents / 10 % 10).digitChar, (cents % 10).digitChar], ?_⟩
  constructor
  case text_eq => rw [format, hprint, hround, hsign]
  case isDigit_whole => rw [hfilter]; exact fun c hc => isDigit_of_mem_ofNat hc
  case grouped => rw [hfilter]; exact hgroup
  case no_leading_zero =>
      intro hzero
      have hhead : (ofNat (cents / 100)).head? = some '0' := by
        rw [← hgroup.head?_eq, hzero]
      rw [head?_ofNat _ hhead]
      rfl
  case length_part => rfl
  case isDigit_part =>
      intro c hc
      cases List.mem_pair.1 hc with
      | inl hc => rw [hc, isDigit_digitChar htens]
      | inr hc => rw [hc, isDigit_digitChar hones]
  case cents_eq =>
      rw [hfilter, natOfDigits_ofNat, natOfDigits_cons, natOfDigits_cons,
        digitValue_digitChar htens, digitValue_digitChar hones]
      simp [natOfDigits]
      omega

/-- Twelve and a half cents are thirteen. -/
theorem isAmount_format_eighth :
    (Float.ofBits 0x3FC0000000000000).isFinite = true ∧
      ∃ whole part, IsAmount ((Float.ofBits 0x3FC0000000000000).toBits.toNat.testBit 63)
        ⌊100 * |exactValue (Float.ofBits 0x3FC0000000000000)| + 1 / 2⌋₊ whole part
        (format (.ofFloat (Float.ofBits 0x3FC0000000000000))) :=
  ⟨by decide, isAmount_format _ (by decide)⟩

end FormulaPad.Money
