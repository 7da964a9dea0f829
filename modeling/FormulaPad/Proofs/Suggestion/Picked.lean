import FormulaPad.Proofs.Arithmetic.Signed
import FormulaPad.Proofs.Editor.Placing
import FormulaPad.Proofs.Variables

/-!
# FormulaPad.Proofs.Suggestion.Picked

Whether the number that is picked is the number that is used.

A suggestion that is selected on an empty line makes the formula its name and
binds its value, as text, to this name; evaluating the formula evaluates that text
(`evaluate_selectSuggestion`). Main statement: `usesPicked_iff`, which says for which
numbers the result is equal to the number: for all integers, for zeros, and for
the doubles of a size that is written without a power of ten. The text of any other
number is rejected (`evaluateExpression_valueText`).
-/

namespace FormulaPad.SuggestionValue

open Digits (Writes fractionOf)
open Evaluation (evaluateExpression minusIf)

variable {x : Float} {bits : Nat}

/-! ## The text of a double -/

theorem textOfDouble_eq (h : x.isFinite = true) :
    textOfDouble x =
      if (fractionOf (Digits.magnitudeBits x)).1 = 0 then ['0']
      else if
        (fractionOf (Digits.magnitudeBits x)).1 % (fractionOf (Digits.magnitudeBits x)).2 = 0 ∧
          (fractionOf (Digits.magnitudeBits x)).1 / (fractionOf (Digits.magnitudeBits x)).2 <
            wholeLimit then Digits.decimal x
      else Json.Number.writeDouble x := by
  unfold textOfDouble
  rw [Binary64.ofFloat_eq h]
  rfl

theorem textOfDouble_zero (h : x.isFinite = true) (hzero : exactValue x = 0) :
    textOfDouble x = ['0'] := by
  have hbits : Digits.magnitudeBits x = 0 := by
    simpa [hzero] using Binary64.magnitudeBits_pos_iff h
  rw [textOfDouble_eq h, hbits]
  rfl

/-- The quotient of a whole double is its value. -/
theorem cast_div_eq (hpos : 0 < bits) (h : (fractionOf bits).1 % (fractionOf bits).2 = 0) :
    (((fractionOf bits).1 / (fractionOf bits).2 : Nat) : ℚ) = Binary64.value bits := by
  have hden := (Digits.fractionOf_pos hpos).2
  rw [Nat.cast_div (Nat.dvd_of_mod_eq_zero h) (by exact_mod_cast hden.ne'), Digits.fractionOf_eq]

/-- What is no whole number has digits after the binary point, so it is not large. -/
theorem value_lt_of_mod_ne_zero (hpos : 0 < bits)
    (h : (fractionOf bits).1 % (fractionOf bits).2 ≠ 0) :
    Binary64.value bits < 10 ^ (16 : Int) := by
  refine Digits.value_lt_of_exponent_neg hpos (not_le.1 fun hle => h ?_)
  unfold fractionOf Binary64.fraction
  rw [if_pos hle]
  exact Nat.mod_one _

/-- A whole double is written with all of its digits. -/
theorem exists_writes_decimal (h : x.isFinite = true) (hpos : 0 < Digits.magnitudeBits x) :
    ∃ t, Digits.decimal x = minusIf (Binary64.ofFloat x).isNegative ++ t ∧
      Writes t (Digits.magnitudeBits x) := by
  obtain ⟨-, hbits, -⟩ := Digits.shortest_spec .up hpos (Binary64.lt_infinityBits h)
  have hsignificand := (Binary64.magnitude_spec hpos).1.ne'
  refine ⟨Digits.positional (Digits.ofFloat .up x), ?_, ?_⟩
  · unfold Digits.decimal
    rw [Binary64.ofFloat_eq h]
    exact if_neg hsignificand
  · rw [← hbits]
    exact Digits.writes_positional (Digits.ofFloat .up x)

/-- A double of moderate size is written without a power of ten. -/
theorem exists_writes_textOfDouble (h : x.isFinite = true)
    (hlow : (10 : ℚ) ^ (-5 : Int) ≤ |exactValue x|) (hhigh : |exactValue x| < 10 ^ (21 : Int)) :
    ∃ t, textOfDouble x = minusIf (Binary64.ofFloat x).isNegative ++ t ∧
      Writes t (Digits.magnitudeBits x) := by
  have hten : (0 : ℚ) < 10 ^ (-5 : Int) := by positivity
  have hne : exactValue x ≠ 0 := abs_pos.1 (hten.trans_le hlow)
  have hpos := (Binary64.magnitudeBits_pos_iff h).2 hne
  have hvalue := Binary64.abs_exactValue_eq h
  rw [textOfDouble_eq h, if_neg (Digits.fractionOf_pos hpos).1.ne']
  split
  case isTrue hwhole => exact exists_writes_decimal h hpos
  case isFalse hpart =>
      have hmod : (fractionOf (Digits.magnitudeBits x)).1 %
          (fractionOf (Digits.magnitudeBits x)).2 ≠ 0 := by
        intro hmod
        rw [hvalue, ← cast_div_eq hpos hmod] at hhigh
        exact hpart ⟨hmod, by exact_mod_cast hhigh⟩
      have hsmall := value_lt_of_mod_ne_zero hpos hmod
      exact Json.Number.exists_writes_writeDouble h hlow (hvalue ▸ hsmall)

/-- Any other double but the zeros is written with a power of ten. -/
theorem textOfDouble_eq_scientific (h : x.isFinite = true) (hne : exactValue x ≠ 0)
    (hsize : |exactValue x| < 10 ^ (-5 : Int) ∨ (10 : ℚ) ^ (21 : Int) ≤ |exactValue x|) :
    textOfDouble x =
      minusIf (Binary64.ofFloat x).isNegative ++ Digits.scientific (Digits.ofFloat .toEven x) := by
  have hpos := (Binary64.magnitudeBits_pos_iff h).2 hne
  have hvalue := Binary64.abs_exactValue_eq h
  have hnot : ¬ ((fractionOf (Digits.magnitudeBits x)).1 %
        (fractionOf (Digits.magnitudeBits x)).2 = 0 ∧
      (fractionOf (Digits.magnitudeBits x)).1 / (fractionOf (Digits.magnitudeBits x)).2 <
        wholeLimit) := by
    rintro ⟨hmod, hlt⟩
    have hcast := cast_div_eq hpos hmod
    have hquotient := Binary64.value_pos hpos
    rw [hvalue, ← hcast] at hsize
    rw [← hcast, Nat.cast_pos] at hquotient
    rcases hsize with hsize | hsize
    · have hone : (1 : ℚ) ≤ ((fractionOf (Digits.magnitudeBits x)).1 /
          (fractionOf (Digits.magnitudeBits x)).2 : Nat) := by exact_mod_cast hquotient
      exact absurd (hsize.trans_le' hone) (by norm_num)
    · exact absurd hlt (not_lt.2 (by exact_mod_cast hsize))
  rw [textOfDouble_eq h, if_neg (Digits.fractionOf_pos hpos).1.ne', if_neg hnot]
  refine Json.Number.writeDouble_eq_scientific h hne (hsize.imp_right fun hle => ?_)
  exact (zpow_le_zpow_right₀ (by norm_num) (by decide)).trans hle

end FormulaPad.SuggestionValue

namespace FormulaPad.Json.Number

open Digits (Writes)
open Evaluation (evaluateExpression minusIf exists_evaluateExpression_eq)

variable {n : Number} {i : Int} {x : Float}

/-! ## Numbers and the values of their texts -/

/-- The number as a double; an integer becomes the nearest one. -/
def toFloat : Number → Float
  | integer i => .ofModel (.ofInt i)
  | double x => x

/-- The number is one that JSON text gives: an integer of 64 bits, signed or unsigned, or a finite
double. -/
def IsFinite : Number → Prop
  | integer i => -Nat.pow 2 63 ≤ i ∧ i < Nat.pow 2 64
  | double x => x.isFinite = true

/-- The number is an integer, a zero or a double of moderate size. -/
def IsModerate : Number → Prop
  | integer _ => True
  | double x =>
      exactValue x = 0 ∨ (10 : ℚ) ^ (-5 : Int) ≤ |exactValue x| ∧ |exactValue x| < 10 ^ (21 : Int)

/-- The text of a value is that of the number. -/
def valueText (n : Number) : Text := (SuggestionValue.number n).toText

theorem ofInt_eq (i : Int) : Text.ofInt i = minusIf (i < 0) ++ Text.ofNat i.natAbs := by
  unfold Text.ofInt minusIf
  by_cases h : i < 0 <;> simp [h]

theorem writes_ofNat (n : Nat) : Writes (Text.ofNat n) (Numeral.magnitudeBits n 0) := by
  have hwrites := Digits.writes_digits (fun _ => Text.isDigit_of_mem_ofNat) (Text.ofNat_ne_nil n)
  rwa [Text.natOfDigits_ofNat] at hwrites

/-- A natural number of 64 bits is far from where the powers of ten end. -/
theorem magnitudeBits_eq_nearestBits {n : Nat} (hn : 0 < n) (hlt : n < Nat.pow 2 64) :
    Numeral.magnitudeBits n 0 = Binary64.nearestBits n 1 := by
  obtain ⟨k, hk, hle, -⟩ := Numeral.digitCount_bounds hn
  have hcount : k < 20 :=
    (Nat.pow_lt_pow_iff_right (a := 10) (by decide)).1 (hle.trans_lt (hlt.trans (by decide)))
  unfold Numeral.magnitudeBits Numeral.outOfRange
  rw [hk]
  dsimp only
  rw [if_neg (by omega), if_neg (by omega)]
  simp [Numeral.fraction]

theorem nearestBits_lt {n : Nat} (hn : 0 < n) (hlt : n < Nat.pow 2 64) :
    Binary64.nearestBits n 1 < Binary64.infinityBits := by
  obtain ⟨m, e, hm, -, -, hm', hle, hmax, hbits⟩ := Binary64.exists_round_eq .positive hn hlt
  rw [hbits]
  simp only [Binary64.infinityBits, Nat.pow_eq, Nat.reducePow, Nat.reduceMul] at hm' ⊢
  omega

/-- A zero of either sign is written as zero, and equal to it. -/
theorem exists_evaluateExpression_zero (h : x.toBits.toNat % Nat.pow 2 63 = 0) :
    ∃ v, evaluateExpression ['0'] = .ok v ∧ (v == x) = true := by
  obtain ⟨v, hv, hbits⟩ := exists_evaluateExpression_eq false (writes_ofNat 0) (by decide)
  exact ⟨v, hv, Binary64.beq_zero (by rw [hbits]; rfl) h⟩

/-- An integer is read as the nearest double. -/
theorem exists_evaluateExpression_ofInt (hlow : -Nat.pow 2 63 ≤ i) (hhigh : i < Nat.pow 2 64) :
    ∃ v, evaluateExpression (Text.ofInt i) = .ok v ∧ (v == toFloat (integer i)) = true := by
  rcases eq_or_ne i 0 with rfl | hne
  · exact exists_evaluateExpression_zero rfl
  · have hpos : 0 < i.natAbs := Int.natAbs_pos.2 hne
    have hlt : i.natAbs < Nat.pow 2 64 := by
      simp only [Nat.pow_eq, Nat.reducePow] at hlow hhigh ⊢
      omega
    have hwrites := writes_ofNat i.natAbs
    rw [magnitudeBits_eq_nearestBits hpos hlt] at hwrites
    have hfinite := nearestBits_lt hpos hlt
    obtain ⟨v, hv, hbits⟩ := exists_evaluateExpression_eq (decide (i < 0)) hwrites hfinite
    have hread : v = toFloat (integer i) := by
      refine Binary64.eq_of_toBits (hbits.trans ?_)
      rw [toFloat, Binary64.toBits_ofInt hne hlt]
      simp
    have hmod : v.toBits.toNat % Nat.pow 2 63 < Binary64.infinityBits := by
      rwa [hbits, Binary64.signed_mod_eq _ hfinite]
    rw [ofInt_eq, ← hread]
    exact ⟨v, hv, Binary64.beq_self hmod⟩

/-- A double of moderate size is read back. -/
theorem exists_evaluateExpression_textOfDouble (h : x.isFinite = true)
    (hlow : (10 : ℚ) ^ (-5 : Int) ≤ |exactValue x|) (hhigh : |exactValue x| < 10 ^ (21 : Int)) :
    ∃ v, evaluateExpression (SuggestionValue.textOfDouble x) = .ok v ∧ (v == x) = true := by
  have hfinite := Binary64.lt_infinityBits h
  obtain ⟨t, htext, hwrites⟩ := SuggestionValue.exists_writes_textOfDouble h hlow hhigh
  obtain ⟨v, hv, hbits⟩ :=
    exists_evaluateExpression_eq (Binary64.ofFloat x).isNegative hwrites hfinite
  rw [← Binary64.toBits_eq] at hbits
  obtain rfl : v = x := Binary64.eq_of_toBits hbits
  exact ⟨v, htext ▸ hv, Binary64.beq_self hfinite⟩

theorem exists_evaluateExpression_valueText (h : n.IsFinite) (hmoderate : n.IsModerate) :
    ∃ v, evaluateExpression n.valueText = .ok v ∧ (v == n.toFloat) = true := by
  cases n with
  | integer i => exact exists_evaluateExpression_ofInt h.1 h.2
  | double x =>
      have hx : x.isFinite = true := h
      rcases hmoderate with hzero | ⟨hlow, hhigh⟩
      · have hbits : Digits.magnitudeBits x = 0 := by
          simpa [hzero] using Binary64.magnitudeBits_pos_iff hx
        have hv := exists_evaluateExpression_zero hbits
        rwa [← SuggestionValue.textOfDouble_zero hx hzero] at hv
      · exact exists_evaluateExpression_textOfDouble hx hlow hhigh

theorem evaluateExpression_valueText (h : n.IsFinite) (hmoderate : ¬ n.IsModerate) :
    evaluateExpression n.valueText = .error (.malformed n.valueText 'e') := by
  cases n with
  | integer i => exact absurd trivial hmoderate
  | double x =>
      obtain ⟨hne, hsize⟩ := not_or.1 hmoderate
      rw [not_and_or, not_le, not_lt] at hsize
      have htext : (double x).valueText = _ :=
        SuggestionValue.textOfDouble_eq_scientific h hne hsize
      rw [htext]
      exact Evaluation.evaluateExpression_scientific _ _

theorem valueText_ne_nil (h : n.IsFinite) : n.valueText ≠ [] := by
  intro hnil
  have hempty : evaluateExpression [] = .error (.incomplete []) := rfl
  by_cases hmoderate : n.IsModerate
  · obtain ⟨v, hv, -⟩ := exists_evaluateExpression_valueText h hmoderate
    rw [hnil, hempty] at hv
    cases hv
  · have herror := evaluateExpression_valueText h hmoderate
    rw [hnil, hempty] at herror
    cases herror

end FormulaPad.Json.Number

namespace FormulaPad.Evaluation

open Formula

/-- A formula that is nothing but a variable evaluates as the text bound to it. -/
theorem evaluate_variable {name value : Text} {tags : Bindings} (hname : IsVariable name)
    (htrim : Text.trim name = name) (hget : tags.get? name = some value) (hvalue : value ≠ []) :
    evaluate name tags = evaluateExpression value := by
  have hresolve : tags.resolve? name = some value := by
    simp [Bindings.resolve?, hget, hvalue]
  have hruns : variableRuns name = [name] := by
    simp [variableRuns, pieces_of_isVariable hname, Piece.name?]
  have hnone : unresolvedNames name tags = [] := by
    simp [unresolvedNames, hruns, htrim, hresolve]
  have hreplace : Text.replaceAll name value name = value := by
    have h := Text.replaceAll_pattern_append hname.ne_nil value []
    rwa [Text.replaceAll, List.append_nil, List.append_nil] at h
  have hsubstitute : substitute name tags = .ok value := by
    unfold substitute
    rw [hnone, hruns]
    simp [replaceVariables, valueOf?, htrim, hresolve, hreplace]
  unfold evaluate
  rw [hsubstitute]

end FormulaPad.Evaluation

namespace FormulaPad.Editor

open Formula

variable {e : Editor} {s : Suggestion} {n : Json.Number}

/-! ## A suggestion on an empty line -/

theorem placeName?_of_text_eq_nil {line : Line} (h : line.text = []) (name : Text) :
    placeName? line name = some (.ofSplit name []) := by
  have hsides : line.before = [] ∧ line.after = [] := by
    rw [← List.append_eq_nil_iff, line.before_append_after, h]
  rw [placeName?_eq, hsides.1, hsides.2, if_pos (.inl rfl), List.nil_append]

/-- What is selected on an empty line is what is evaluated. -/
theorem evaluate_selectSuggestion (hline : e.line.text = []) (hname : IsVariable s.name)
    (htrim : Text.trim s.name = s.name) (hvalue : s.valueText ≠ []) :
    Evaluation.evaluate (e.selectSuggestion s).store.formula (e.selectSuggestion s).store.tags =
      Evaluation.evaluateExpression s.valueText := by
  have hplaced := placeName?_of_text_eq_nil hline s.name
  rw [formula_selectSuggestion hplaced, Line.text_ofSplit, List.append_nil]
  exact Evaluation.evaluate_variable hname htrim (get?_selectSuggestion hplaced) hvalue

/-! ## The number that is picked -/

/-- The suggestion of a number, for a variable without blanks around it, is selected on an empty
line. -/
structure PicksNumber (e : Editor) (s : Suggestion) (n : Json.Number) : Prop where
  line_text : e.line.text = []
  isVariable : IsVariable s.name
  trim_name : Text.trim s.name = s.name
  value_eq : s.value = .number n
  isFinite : n.IsFinite

/-- Once the suggestion is selected, the result of the formula is equal to `x`. -/
def UsesPicked (e : Editor) (s : Suggestion) (x : Float) : Prop :=
  ∃ v, Evaluation.evaluate (e.selectSuggestion s).store.formula
      (e.selectSuggestion s).store.tags = .ok v ∧ (v == x) = true

theorem PicksNumber.evaluate_eq (h : PicksNumber e s n) :
    Evaluation.evaluate (e.selectSuggestion s).store.formula (e.selectSuggestion s).store.tags =
      Evaluation.evaluateExpression n.valueText := by
  have htext : s.valueText = n.valueText := by
    rw [Suggestion.valueText, h.value_eq]
    rfl
  have hne := Json.Number.valueText_ne_nil h.isFinite
  rw [← htext] at hne ⊢
  exact evaluate_selectSuggestion h.line_text h.isVariable h.trim_name hne

/-- A number that is written with a power of ten is rejected, and so not used. -/
theorem PicksNumber.not_usesPicked (h : PicksNumber e s n) (hmoderate : ¬ n.IsModerate)
    (x : Float) : ¬ UsesPicked e s x := by
  rintro ⟨v, hv, -⟩
  rw [h.evaluate_eq, Json.Number.evaluateExpression_valueText h.isFinite hmoderate] at hv
  cases hv

/-- **The number that is picked is the number that is used** exactly if it is an integer, a zero, or
a double of a size that is written without a power of ten. -/
theorem usesPicked_iff (h : PicksNumber e s n) : UsesPicked e s n.toFloat ↔ n.IsModerate := by
  constructor
  · intro huses
    by_contra hmoderate
    exact h.not_usesPicked hmoderate n.toFloat huses
  · intro hmoderate
    unfold UsesPicked
    rw [h.evaluate_eq]
    exact Json.Number.exists_evaluateExpression_valueText h.isFinite hmoderate

/-- A suggestion for the variable `tax`, of the double with these bits. -/
def taxOf (bits : Nat) : Suggestion :=
  ⟨"1".toList, "tax".toList, "rates".toList, .number (.double (.ofBits (.ofNat bits)))⟩

theorem picksNumber_taxOf {bits : Nat} (h : bits < Binary64.infinityBits) :
    PicksNumber {} (taxOf bits) (.double (.ofBits (.ofNat bits))) where
  line_text := rfl
  isVariable :=
    ⟨⟨'t', "ax".toList, rfl, rfl⟩, List.all_eq_true.1 rfl, (by decide : 1 < "tax".toList.length)⟩
  trim_name := rfl
  value_eq := rfl
  isFinite := Binary64.isFinite_ofBits h

/-- The double nearest to 0.0825 is used. -/
theorem usesPicked_taxOf_hundredths :
    PicksNumber {} (taxOf 0x3FB51EB851EB851F) (.double (.ofBits (.ofNat 0x3FB51EB851EB851F))) ∧
      UsesPicked {} (taxOf 0x3FB51EB851EB851F) (.ofBits (.ofNat 0x3FB51EB851EB851F)) := by
  have hbound : 0x3FB51EB851EB851F < Binary64.infinityBits := by decide
  have hpicks := picksNumber_taxOf hbound
  have hmoderate : (Json.Number.double (.ofBits (.ofNat 0x3FB51EB851EB851F))).IsModerate := by
    right
    rw [Binary64.abs_exactValue_ofBits hbound]
    norm_num [Binary64.value, Binary64.magnitude]
  exact ⟨hpicks, (usesPicked_iff hpicks).2 hmoderate⟩

/-- The double nearest to 0.0000001 is not used, so not every number that is picked is. -/
theorem not_usesPicked_taxOf_tenMillionth :
    ¬ ∀ (s : Suggestion) (n : Json.Number), PicksNumber {} s n → UsesPicked {} s n.toFloat := by
  intro huses
  have hbound : 0x3E7AD7F29ABCAF48 < Binary64.infinityBits := by decide
  have hpicks := picksNumber_taxOf hbound
  have hmoderate : ¬ (Json.Number.double (.ofBits (.ofNat 0x3E7AD7F29ABCAF48))).IsModerate := by
    have hvalue := Binary64.abs_exactValue_ofBits hbound
    rintro (hzero | ⟨hlow, -⟩)
    · rw [hzero] at hvalue
      norm_num [Binary64.value, Binary64.magnitude] at hvalue
    · rw [hvalue] at hlow
      norm_num [Binary64.value, Binary64.magnitude] at hlow
  exact hpicks.not_usesPicked hmoderate _ (huses _ _ hpicks)

end FormulaPad.Editor
