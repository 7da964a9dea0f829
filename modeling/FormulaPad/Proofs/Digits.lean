import FormulaPad.Money
import Mathlib.Data.List.Induction
import Mathlib.Tactic.IntervalCases
import Mathlib.Tactic.Ring

/-!
# FormulaPad.Proofs.Digits

Decimal digits and the numbers they stand for.

Main statements:

* `natOfDigits_ofNat` — the digits written for a number are read back;
* `increment_ofNat` — adding one to the digits of `n`, with every carry, gives
  the digits of `n + 1`;
* `natOfDigits_fractionDigits` — long division writes the quotient of
  `10 ^ n * rest` by the denominator.
-/

namespace FormulaPad.Text

/-! ## Single digits -/

theorem digitValue_digitChar {d : Nat} (h : d < 10) : digitValue d.digitChar = d :=
  Nat.toNat_digitChar_sub_48_of_lt_ten h

theorem isDigit_digitChar {d : Nat} (h : d < 10) : d.digitChar.isDigit = true := by
  rw [Nat.isDigit_digitChar, decide_eq_true h]

/-- The next character after a digit is the next digit. -/
theorem succ_digitChar {d : Nat} (h : d < 9) :
    Char.ofNat (d.digitChar.toNat + 1) = (d + 1).digitChar := by
  interval_cases d <;> rfl

theorem five_le_digitChar {d : Nat} (h : d < 10) : '5' ≤ d.digitChar ↔ 5 ≤ d := by
  interval_cases d <;> decide

/-- Every digit character is the digit of its value. -/
theorem exists_digitChar {c : Char} (h : c.isDigit = true) : ∃ d < 10, c = d.digitChar := by
  have hc : '0' ≤ c ∧ c ≤ '9' := by simpa [Char.isDigit, Char.le_def] using h
  have hlo : 48 ≤ c.toNat := hc.1
  have hhi : c.toNat ≤ 57 := hc.2
  refine ⟨c.toNat - 48, by omega, ?_⟩
  have hnat : c.toNat = (c.toNat - 48).digitChar.toNat := by
    rw [Nat.toNat_digitChar_of_lt_ten (by omega)]; omega
  exact Char.ext (UInt32.toNat_inj.1 hnat)

theorem digitValue_lt {c : Char} (h : c.isDigit = true) : digitValue c < 10 := by
  obtain ⟨d, hd, rfl⟩ := exists_digitChar h
  rwa [digitValue_digitChar hd]

/-! ## Reading digits -/

theorem natOfDigits_append_singleton (t : Text) (c : Char) :
    natOfDigits (t ++ [c]) = 10 * natOfDigits t + digitValue c := by
  simp [natOfDigits, List.foldl_append]

theorem natOfDigits_append (t u : Text) :
    natOfDigits (t ++ u) = Nat.pow 10 u.length * natOfDigits t + natOfDigits u := by
  induction u using List.reverseRecOn with
  | nil => simp [natOfDigits]
  | append_singleton u c ih =>
      rw [← List.append_assoc, natOfDigits_append_singleton, natOfDigits_append_singleton, ih,
        List.length_append, List.length_singleton, Nat.pow_eq, Nat.pow_eq]
      ring

theorem natOfDigits_cons (c : Char) (t : Text) :
    natOfDigits (c :: t) = Nat.pow 10 t.length * digitValue c + natOfDigits t := by
  have h := natOfDigits_append [c] t
  rw [List.singleton_append] at h
  rw [h]
  simp [natOfDigits]

/-- Digits stand for a number below the power of ten that their count gives. -/
theorem natOfDigits_lt {t : Text} (h : ∀ c ∈ t, c.isDigit = true) :
    natOfDigits t < Nat.pow 10 t.length := by
  induction t using List.reverseRecOn with
  | nil => decide
  | append_singleton t c ih =>
      have ht := ih fun d hd => h d (by simp [hd])
      have hc := digitValue_lt (h c (by simp))
      rw [natOfDigits_append_singleton, List.length_append, List.length_singleton, Nat.pow_eq,
        Nat.pow_succ]
      rw [Nat.pow_eq] at ht
      omega

/-! ## Written numbers -/

/-- All digits of `n` but the last are the digits of `n / 10`. -/
theorem ofNat_of_le {n : Nat} (h : 10 ≤ n) : ofNat n = ofNat (n / 10) ++ [(n % 10).digitChar] :=
  Nat.toDigits_of_base_le (by decide) h

theorem ofNat_of_lt {n : Nat} (h : n < 10) : ofNat n = [n.digitChar] :=
  Nat.toDigits_of_lt_base h

theorem isDigit_of_mem_ofNat {n : Nat} {c : Char} (h : c ∈ ofNat n) : c.isDigit = true :=
  Nat.isDigit_of_mem_toDigits (by decide) (by decide) h

/-- The digits written for a number are read back. -/
theorem natOfDigits_ofNat (n : Nat) : natOfDigits (ofNat n) = n := by
  induction n using Nat.strongRecOn with
  | ind n ih =>
      by_cases h : n < 10
      · rw [ofNat_of_lt h]
        simpa [natOfDigits] using digitValue_digitChar h
      · rw [ofNat_of_le (by omega), natOfDigits_append_singleton, ih (n / 10) (by omega),
          digitValue_digitChar (Nat.mod_lt _ (by decide))]
        omega

/-- A written number starts with a zero only when it is zero. -/
theorem head?_ofNat (n : Nat) (h : (ofNat n).head? = some '0') : ofNat n = ['0'] := by
  induction n using Nat.strongRecOn with
  | ind n ih =>
      by_cases hn : n < 10
      · rw [ofNat_of_lt hn] at h ⊢
        simpa using h
      · have hq : (ofNat (n / 10)).head? = some '0' := by
          rw [ofNat_of_le (by omega), List.head?_append, Option.or_eq_some_iff] at h
          exact h.resolve_right fun h => ofNat_ne_nil _ (List.head?_eq_none_iff.1 h.1)
        have h0 : natOfDigits (ofNat (n / 10)) = 0 := by rw [ih (n / 10) (by omega) hq]; rfl
        rw [natOfDigits_ofNat] at h0
        omega

end FormulaPad.Text

namespace FormulaPad.Money

open Text

/-! ## Adding one -/

theorem increment_nine (t : Text) : increment (t ++ ['9']) = increment t ++ ['0'] := by
  simp [increment, carry]

theorem increment_digit (t : Text) {d : Nat} (h : d < 9) :
    increment (t ++ [d.digitChar]) = t ++ [(d + 1).digitChar] := by
  have hne : d.digitChar ≠ '9' := by
    rw [Ne, Nat.digitChar_eq_nine]; omega
  simp [increment, carry, hne, succ_digitChar h]

/-- Adding one to the digits of `n` gives the digits of `n + 1`. -/
theorem increment_ofNat (n : Nat) : increment (ofNat n) = ofNat (n + 1) := by
  induction n using Nat.strongRecOn with
  | ind n ih =>
      rcases Nat.lt_trichotomy n 9 with h | rfl | h
      · rw [ofNat_of_lt (by omega), ofNat_of_lt (by omega)]
        exact increment_digit [] h
      · decide
      · have hlast := ofNat_of_le (n := n + 1) (by omega)
        rw [ofNat_of_le (by omega)]
        by_cases h9 : n % 10 = 9
        · -- a nine: the carry goes on into the digits of `n / 10`
          have hq : (n + 1) / 10 = n / 10 + 1 := by omega
          have hr : (n + 1) % 10 = 0 := by omega
          rw [h9, show (9 : Nat).digitChar = '9' from rfl, increment_nine, ih (n / 10) (by omega),
            hlast, hq, hr]
          rfl
        · have hq : (n + 1) / 10 = n / 10 := by omega
          have hr : (n + 1) % 10 = n % 10 + 1 := by omega
          rw [increment_digit _ (by omega), hlast, hq, hr]

example : increment "999".toList = "1000".toList := by decide

/-! ## Long division -/

theorem length_fractionDigits (den n rest : Nat) : (fractionDigits den n rest).length = n := by
  induction n generalizing rest with
  | zero => rfl
  | succ n ih => rw [fractionDigits, List.length_cons, ih]

/-- Each step of a long division writes a single digit. -/
theorem ten_mul_div_lt {den rest : Nat} (h : rest < den) : 10 * rest / den < 10 :=
  Nat.div_lt_of_lt_mul (by omega)

/-- Long division writes the quotient of `10 ^ n * rest` by the denominator. -/
theorem natOfDigits_fractionDigits {den : Nat} (n : Nat) {rest : Nat} (h : rest < den) :
    natOfDigits (fractionDigits den n rest) = Nat.pow 10 n * rest / den := by
  induction n generalizing rest with
  | zero => simp [fractionDigits, natOfDigits, Nat.div_eq_of_lt h]
  | succ n ih =>
      have hden : 0 < den := by omega
      have hsplit : Nat.pow 10 (n + 1) * rest =
          den * (Nat.pow 10 n * (10 * rest / den)) + Nat.pow 10 n * (10 * rest % den) := by
        have hdiv := Nat.div_add_mod (10 * rest) den
        calc Nat.pow 10 (n + 1) * rest = Nat.pow 10 n * (10 * rest) := by
              simp only [Nat.pow_eq]; ring
          _ = Nat.pow 10 n * (den * (10 * rest / den) + 10 * rest % den) := by rw [hdiv]
          _ = _ := by ring
      rw [fractionDigits, natOfDigits_cons, length_fractionDigits,
        digitValue_digitChar (ten_mul_div_lt h), ih (Nat.mod_lt _ hden), hsplit,
        Nat.mul_add_div hden]

end FormulaPad.Money
