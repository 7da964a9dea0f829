import FormulaPad.Proofs.Missing

/-!
# FormulaPad.Proofs.Foreign

Characters that no result can be reached with.

A character that belongs to no word stands outside all variables, so no
replacement takes it away, whatever the values are made of. If no expression may
hold it either, it is still there when the characters of the expression are
looked at, and the formula is refused.

Main statements: `evaluateExpression_of_mem` (an expression with such a
character is malformed) and `refusedFor_of_isForeign`.
-/

namespace FormulaPad.Evaluation

open Formula Text

variable {formula : Text} {tags : Bindings} {c : Char}

/-! ## Foreign characters -/

/-- The character belongs to no word and is none of the marks of an expression. -/
structure IsForeign (c : Char) : Prop where
  not_word : isWordChar c = false
  not_mark : c ∉ "+-*/().".toList

instance (c : Char) : Decidable (IsForeign c) :=
  decidable_of_iff (isWordChar c = false ∧ c ∉ "+-*/().".toList)
    ⟨fun h => ⟨h.1, h.2⟩, fun h => ⟨h.not_word, h.not_mark⟩⟩

theorem IsForeign.not_blank (h : IsForeign c) : isBlank c = false := by
  have hword := h.not_word
  simp only [isWordChar, Bool.or_eq_false_iff] at hword
  exact hword.2

theorem IsForeign.not_arithmetic (h : IsForeign c) : isArithmeticChar c = false := by
  have hword := h.not_word
  simp only [isWordChar, Char.isAlphanum, Bool.or_eq_false_iff] at hword
  have hspace : c ≠ ' ' := by
    rintro rfl
    exact absurd h.not_blank (by decide)
  have hmarks : "+-*/(). ".toList = "+-*/().".toList ++ [' '] := by decide
  have hmem : c ∉ "+-*/(). ".toList := by
    rw [hmarks, List.mem_append, List.mem_singleton, not_or]
    exact ⟨h.not_mark, hspace⟩
  rw [isArithmeticChar, hword.1.1.2, Bool.false_or]
  exact Bool.eq_false_iff.2 fun hcontains => hmem (List.contains_iff_mem.1 hcontains)

/-- A foreign character stands outside all variables. -/
theorem IsForeign.other_mem_pieces (h : IsForeign c) (hc : c ∈ formula) :
    .other c ∈ pieces formula := by
  rcases other_mem_pieces_or hc with hother | ⟨run, hrun, hmem⟩
  · exact hother
  · have hword := (isVariable_of_mem_variableRuns hrun).isWord c hmem
    rw [h.not_word] at hword
    cases hword

/-! ## What becomes of them -/

/-- An expression with a character that no expression may hold is malformed, and the first such
character is told. -/
theorem evaluateExpression_of_mem {expression : Text} (hc : c ∈ strip expression)
    (hchar : isArithmeticChar c = false) :
    ∃ found, (strip expression).find? (!isArithmeticChar ·) = some found ∧
      evaluateExpression expression = .error (.malformed (strip expression) found) := by
  have hsome : ((strip expression).find? (!isArithmeticChar ·)).isSome = true :=
    List.find?_isSome.2 ⟨c, hc, by simp [hchar]⟩
  obtain ⟨found, hfound⟩ := Option.isSome_iff_exists.1 hsome
  refine ⟨found, hfound, ?_⟩
  rw [evaluateExpression, hfound]

/-- Where a variable has no value, the names without one are told. -/
theorem evaluate_of_unbound (h : ∃ run ∈ variableRuns formula, valueOf? tags run = none) :
    evaluate formula tags = .error (.unresolved (unresolvedNames formula tags)) := by
  obtain ⟨run, hrun, hnone⟩ := h
  refine evaluate_eq_unresolved_iff.2 ⟨rfl, fun hnil => ?_⟩
  have hsome := unresolvedNames_eq_nil_iff.1 hnil run hrun
  rw [hnone] at hsome
  cases hsome

/-- Where all variables have values, a foreign character comes through substitution. -/
theorem exists_malformed_of_isForeign (hc : c ∈ formula) (hforeign : IsForeign c)
    (hvalues : ∀ run ∈ variableRuns formula, (valueOf? tags run).isSome = true) :
    ∃ expression found, substitute formula tags = .ok expression ∧ c ∈ strip expression ∧
      (strip expression).find? (!isArithmeticChar ·) = some found ∧
      evaluate formula tags = .error (.malformed (strip expression) found) := by
  have hsubstitute := substitute_eq_replaceEach hvalues
  have hmem : c ∈ strip (replaceEach (replaceVariables tags (variableRuns formula)) formula) :=
    List.mem_filter.2
      ⟨mem_replaceEach (hforeign.other_mem_pieces hc), by simp [hforeign.not_blank]⟩
  obtain ⟨found, hfound, herror⟩ := evaluateExpression_of_mem hmem hforeign.not_arithmetic
  exact ⟨_, found, hsubstitute, hmem, hfound, by rw [evaluate, hsubstitute]; exact herror⟩

/-! ## Main statement -/

/-- The formula has no result on account of the character. Variables without a value are told first;
if there are none, the character has come through substitution and the expression is malformed. -/
structure RefusedFor (c : Char) (formula : Text) (tags : Bindings) : Prop where
  unresolved : (∃ run ∈ variableRuns formula, valueOf? tags run = none) →
    evaluate formula tags = .error (.unresolved (unresolvedNames formula tags))
  malformed : ¬ (∃ run ∈ variableRuns formula, valueOf? tags run = none) →
    ∃ expression found, substitute formula tags = .ok expression ∧ c ∈ strip expression ∧
      (strip expression).find? (!isArithmeticChar ·) = some found ∧
      evaluate formula tags = .error (.malformed (strip expression) found)
  display_eq : display formula tags = invalidMessage

/-- **A foreign character is never evaluated away**, whatever the names are bound to. -/
theorem refusedFor_of_isForeign (hc : c ∈ formula) (hforeign : IsForeign c) (tags : Bindings) :
    RefusedFor c formula tags := by
  have hvalues (hbound : ¬ ∃ run ∈ variableRuns formula, valueOf? tags run = none) :
      ∀ run ∈ variableRuns formula, (valueOf? tags run).isSome = true :=
    fun run hrun => Option.isSome_iff_ne_none.2 fun hnone => hbound ⟨run, hrun, hnone⟩
  constructor
  case unresolved => exact evaluate_of_unbound
  case malformed =>
    exact fun hbound => exists_malformed_of_isForeign hc hforeign (hvalues hbound)
  case display_eq =>
    by_cases hbound : ∃ run ∈ variableRuns formula, valueOf? tags run = none
    · exact display_of_error (evaluate_of_unbound hbound)
    · obtain ⟨_, _, -, -, -, herror⟩ :=
        exists_malformed_of_isForeign hc hforeign (hvalues hbound)
      exact display_of_error herror

/-- A power, where one value is the name of the other and that one has foreign characters itself. -/
theorem refusedFor_of_isForeign_power :
    let tags : Bindings := .ofList [("ab".toList, "cd".toList), ("cd".toList, "1€^".toList)]
    '^' ∈ "ab ^2*(cd)".toList ∧ IsForeign '^' ∧ RefusedFor '^' "ab ^2*(cd)".toList tags := by
  intro tags
  have hc : '^' ∈ "ab ^2*(cd)".toList := by decide
  have hforeign : IsForeign '^' := by decide
  exact ⟨hc, hforeign, refusedFor_of_isForeign hc hforeign tags⟩

end FormulaPad.Evaluation
