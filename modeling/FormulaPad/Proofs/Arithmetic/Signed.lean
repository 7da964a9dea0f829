import FormulaPad.Evaluation
import FormulaPad.Proofs.Arithmetic.Complete
import FormulaPad.Proofs.Decimal.Layout

/-!
# FormulaPad.Proofs.Arithmetic.Signed

A number with a sign as a whole expression.

A number of the grammar, perhaps with a minus sign before it, has a value when it is
evaluated as an expression: the double it is read as, with the sign
(`exists_evaluateExpression_eq`). Main statement besides: what is written with a power of
ten is no expression, and it is rejected at the letter before the power
(`evaluateExpression_scientific`).
-/

namespace FormulaPad.Evaluation

open Arithmetic
open Digits (Writes)

variable {t : Text} {bits : Nat}

/-! ## Numbers as expressions -/

/-- A minus sign, or nothing. -/
def minusIf (negative : Bool) : Text := if negative then ['-'] else []

/-- The character may be part of a number with a sign. -/
theorem isArithmeticChar_of_isLiteralChar {c : Char} (h : isLiteralChar c = true) :
    isArithmeticChar c = true := by
  simp only [isLiteralChar, Bool.or_eq_true, beq_iff_eq] at h
  rcases h with h | rfl
  · simp [isArithmeticChar, h]
  · decide

theorem strip_of_not_isBlank (h : ∀ c ∈ t, Text.isBlank c = false) : Text.strip t = t := by
  simpa [Text.strip] using h

/-- A number, perhaps with a minus sign before it, holds no blanks and no strange characters. -/
theorem isArithmeticChar_of_mem_signed (negative : Bool) (h : ∀ c ∈ t, isLiteralChar c = true) :
    ∀ c ∈ minusIf negative ++ t, isArithmeticChar c = true ∧ Text.isBlank c = false := by
  have hliteral : ∀ c ∈ t, isArithmeticChar c = true ∧ Text.isBlank c = false := fun c hc =>
    ⟨isArithmeticChar_of_isLiteralChar (h c hc), isBlank_of_isLiteralChar (h c hc)⟩
  cases negative with
  | false => exact hliteral
  | true => exact List.forall_mem_cons.2 ⟨by decide, hliteral⟩

theorem derives_signed (negative : Bool) (h : IsNumber t) :
    Derives (minusIf negative ++ t) (if negative then -numberValue t else numberValue t) := by
  have hne : t ≠ [] := by
    rintro rfl
    simpa using h.hasDigit
  have hspells : Spells t [.literal t] := by
    have hliteral := Spells.literal hne h.isLiteral (by simp) .nil
    rwa [List.append_nil] at hliteral
  cases negative with
  | false => exact ⟨_, hspells, .term (.factor (.primary (.number h)))⟩
  | true =>
      exact ⟨_, .mark (by decide) (by decide) hspells,
        .term (.factor (.signed .minus [] (.number h)))⟩

/-- An expression has the value that is derived, if it is finite. -/
theorem evaluateExpression_of_derives {v : Float}
    (hchars : ∀ c ∈ t, isArithmeticChar c = true ∧ Text.isBlank c = false)
    (hend : ∃ c ∈ t.getLast?, mayEnd c = true) (hderives : Derives t v)
    (hfinite : v.isFinite = true) :
    evaluateExpression t = .ok v := by
  have hstrip := strip_of_not_isBlank fun c hc => (hchars c hc).2
  have hfind : t.find? (!isArithmeticChar ·) = none := by
    rw [List.find?_eq_none]
    intro c hc
    simp [(hchars c hc).1]
  have hlast : t.getLast?.any mayEnd = true := by
    obtain ⟨c, hc, hmay⟩ := hend
    rw [Option.mem_def.1 hc]
    exact hmay
  unfold evaluateExpression
  dsimp only
  rw [hstrip, hfind]
  dsimp only
  rw [if_pos hlast, evaluate_of_derives hderives]
  exact if_pos hfinite

/-- A character that no arithmetic has is reported, the first one of them. -/
theorem evaluateExpression_of_stray {before after : Text} {c : Char}
    (hbefore : ∀ d ∈ before, isArithmeticChar d = true ∧ Text.isBlank d = false)
    (hc : isArithmeticChar c = false) (hblank : ∀ d ∈ c :: after, Text.isBlank d = false) :
    evaluateExpression (before ++ c :: after) =
      .error (.malformed (before ++ c :: after) c) := by
  have hstrip := strip_of_not_isBlank (t := before ++ c :: after) fun d hd =>
    (List.mem_append.1 hd).elim (fun hd => (hbefore d hd).2) (hblank d)
  have hfind : (before ++ c :: after).find? (!isArithmeticChar ·) = some c := by
    have hnone : before.find? (!isArithmeticChar ·) = none := by
      rw [List.find?_eq_none]
      intro d hd
      simp [(hbefore d hd).1]
    rw [List.find?_append, hnone, List.find?_cons_of_pos (by simp [hc])]
    rfl
  unfold evaluateExpression
  dsimp only
  rw [hstrip, hfind]

/-- A number is read as the double it stands for, and negated if there is a minus sign before it. -/
theorem exists_evaluateExpression_eq (negative : Bool) (h : Writes t bits)
    (hfinite : bits < Binary64.infinityBits) :
    ∃ v, evaluateExpression (minusIf negative ++ t) = .ok v ∧
      v.toBits.toNat = (if negative then Nat.pow 2 63 else 0) + bits := by
  have hread := h.toBits_numberValue hfinite
  have hmod : (numberValue t).toBits.toNat % Nat.pow 2 63 = bits := by
    rw [hread, Binary64.mod_eq_self hfinite]
  have hvalue : (if negative then -numberValue t else numberValue t).toBits.toNat =
      (if negative then Nat.pow 2 63 else 0) + bits := by
    cases negative with
    | false => exact hread.trans (Nat.zero_add bits).symm
    | true =>
        have hneg := Binary64.toBits_neg (x := numberValue t) (by rwa [hmod])
        have hdiv : bits / Nat.pow 2 63 = 0 := Nat.div_eq_of_lt (hfinite.trans (by decide))
        rw [hmod, hread, hdiv] at hneg
        exact hneg
  have hfinite' : (if negative then -numberValue t else numberValue t).isFinite = true := by
    refine Binary64.isFinite_of_lt ?_
    rwa [hvalue, Binary64.signed_mod_eq _ hfinite]
  have hend : ∃ c ∈ (minusIf negative ++ t).getLast?, mayEnd c = true := by
    obtain ⟨c, hc, hdigit⟩ := h.endsWithDigit
    refine ⟨c, ?_, by simp [mayEnd, hdigit]⟩
    rw [List.getLast?_append, Option.mem_def.1 hc]
    rfl
  have hchars := isArithmeticChar_of_mem_signed negative h.isNumber.isLiteral
  have hderives := derives_signed negative h.isNumber
  exact ⟨_, evaluateExpression_of_derives hchars hend hderives hfinite', hvalue⟩

/-- A number with a power of ten is rejected at the letter before the power. -/
theorem evaluateExpression_scientific (negative : Bool) (d : Digits) :
    evaluateExpression (minusIf negative ++ d.scientific) =
      .error (.malformed (minusIf negative ++ d.scientific) 'e') := by
  obtain ⟨body, power, hscientific, hbody, hpower⟩ := Digits.exists_scientific_eq d
  rw [hscientific, ← List.append_assoc]
  exact evaluateExpression_of_stray (isArithmeticChar_of_mem_signed negative hbody) (by decide)
    (List.forall_mem_cons.2 ⟨by decide, hpower⟩)

end FormulaPad.Evaluation
