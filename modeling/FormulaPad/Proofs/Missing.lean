import FormulaPad.Proofs.Arithmetic.Lexemes
import FormulaPad.Proofs.Chips
import FormulaPad.Proofs.Substitution

/-!
# FormulaPad.Proofs.Missing

What a formula is missing for its result, and what its chips show to be missing.

Variables are recognised twice. A chip is a segment between two operators that
is no numeral; the variables that are looked up are found by their shape, also
inside a segment. So a chip may have no value where nothing is looked up, as in
`1 000`, which is a number once its blanks are gone, and in `2ab`, where `ab` is
looked up.

Main statements: `needsNoValue_of_evaluate` (what a segment is like where a
result is reached), `exists_item_of_unresolved` (where the names that are asked
for stand) and `missing_values`, which puts both together.
-/

namespace FormulaPad.Evaluation

open Formula Text

/-! ## Where a result is reached -/

/-- The result can be reached without a value for the segment as a whole: apart from variables that
have values it holds nothing but digits, points and blanks, and if there is no variable, it is a
number, blanks aside. -/
structure NeedsNoValue (tags : Bindings) (segment : Text) : Prop where
  isSome_valueOf : ∀ run ∈ variableRuns segment, (valueOf? tags run).isSome = true
  isLiteral_or_isBlank : ∀ c, .other c ∈ pieces segment →
    Arithmetic.isLiteralChar c = true ∨ isBlank c = true
  isNumber : variableRuns segment = [] → Arithmetic.IsNumber (strip segment)

/-- What an expression that has a value is made of. -/
theorem of_evaluateExpression {expression : Text} {v : Float}
    (h : evaluateExpression expression = .ok v) :
    (∀ c ∈ strip expression, isArithmeticChar c = true) ∧
      ∃ w, Arithmetic.evaluate (strip expression) = .ok w := by
  rw [evaluateExpression] at h
  split at h
  · cases h
  · next hfind =>
      refine ⟨fun c hc => by simpa using List.find?_eq_none.1 hfind c hc, ?_⟩
      split at h
      · split at h
        · cases h
        · next w hw => exact ⟨w, hw⟩
      · cases h

/-- A result is that of the formula with each variable rewritten at its place, and each of them has
a value. -/
theorem of_evaluate {formula : Text} {tags : Bindings} {v : Float}
    (h : evaluate formula tags = .ok v) :
    (∀ run ∈ variableRuns formula, (valueOf? tags run).isSome = true) ∧
      evaluateExpression
        (replaceEach (replaceVariables tags (variableRuns formula)) formula) = .ok v := by
  rw [evaluate] at h
  split at h
  · cases h
  · next expression hsub =>
      have hbound : ∀ run ∈ variableRuns formula, (valueOf? tags run).isSome = true := by
        rw [substitute] at hsub
        split at hsub
        · next hnil => exact unresolvedNames_eq_nil_iff.1 hnil
        · cases hsub
      rw [substitute_eq_replaceEach hbound] at hsub
      cases hsub
      exact ⟨hbound, h⟩

/-- Where a result is reached, an expression may hold what stands outside the variables, blanks
aside. -/
theorem isArithmeticChar_of_evaluate {formula : Text} {tags : Bindings} {v : Float}
    (h : evaluate formula tags = .ok v) {c : Char} (hc : .other c ∈ pieces formula)
    (hblank : isBlank c = false) : isArithmeticChar c = true := by
  obtain ⟨-, hvalue⟩ := of_evaluate h
  obtain ⟨hchars, -⟩ := of_evaluateExpression hvalue
  exact hchars c (List.mem_filter.2 ⟨mem_replaceEach hc, by simp [hblank]⟩)

theorem fill_append (f : Text → Text) (ps qs : List Piece) :
    fill f (ps ++ qs) = fill f ps ++ fill f qs := List.flatMap_append

/-- Where there is no variable, there is nothing to rewrite. -/
theorem fill_of_variableRuns_eq_nil {t : Text} (h : variableRuns t = []) (f : Text → Text) :
    fill f (pieces t) = t := by
  conv_rhs => rw [← flatMap_text_pieces t]
  refine List.flatMap_congr fun p hp => ?_
  cases p with
  | other c => rfl
  | name run =>
      rw [variableRuns, List.filterMap_eq_nil_iff] at h
      cases h _ hp

/-- Where there is no variable, every character stands by itself. -/
theorem other_mem_pieces {t : Text} (h : variableRuns t = []) {c : Char} (hc : c ∈ t) :
    .other c ∈ pieces t := by
  rcases other_mem_pieces_or hc with hother | ⟨run, hrun, -⟩
  · exact hother
  · rw [h] at hrun
    exact absurd hrun List.not_mem_nil

/-- What an expression may hold and is no operator is a digit, a point or a blank. -/
theorem isLiteralChar_of_isArithmeticChar {c : Char} (h : isArithmeticChar c = true)
    (hop : isOperator c = false) : Arithmetic.isLiteralChar c = true ∨ isBlank c = true := by
  rw [isArithmeticChar, Bool.or_eq_true] at h
  rcases h with h | h
  · exact .inl (by simp [Arithmetic.isLiteralChar, h])
  · have hall : ∀ d ∈ ['+', '-', '*', '/', '(', ')', '.', ' '],
        isOperator d = true ∨ Arithmetic.isLiteralChar d = true ∨ isBlank d = true := by
      simp [isOperator, operators, Arithmetic.isLiteralChar, isBlank]
    exact (hall c (List.contains_iff_mem.1 h)).resolve_left (by simp [hop])

/-- The expression around a segment without variables: what comes before it ends with an operator
and what comes after it starts with one, also when the variables there have been rewritten. -/
theorem fill_around {lead segment rest : Text} (f : Text → Text) (hlead : EndsAtOperator lead)
    (hrest : StartsAtOperator rest) (hruns : variableRuns segment = []) :
    ∃ before after, fill f (pieces (lead ++ (segment ++ rest))) = before ++ (segment ++ after) ∧
      EndsAtOperator before ∧ StartsAtOperator after := by
  refine ⟨fill f (pieces lead), fill f (pieces rest), ?_, ?_, ?_⟩
  · rw [pieces_around hlead hrest, fill_append, fill_append, fill_of_variableRuns_eq_nil hruns]
  · rcases hlead with rfl | ⟨u, c, rfl, hc⟩
    · exact .inl (fill_of_variableRuns_eq_nil (by rw [variableRuns, pieces]; rfl) f)
    · rw [pieces_append_operator u hc, fill_append, fill_other, pieces]
      exact .inr ⟨_, c, rfl, hc⟩
  · rcases hrest with rfl | ⟨c, u, rfl, hc⟩
    · exact .inl (fill_of_variableRuns_eq_nil (by rw [variableRuns, pieces]; rfl) f)
    · have := pieces_append_operator [] hc u
      rw [List.nil_append] at this
      rw [this, fill_append, fill_other]
      exact .inr ⟨c, _, by rw [pieces]; rfl, hc⟩

theorem isLiteralChar_of_isOperator {c : Char} (h : isOperator c = true) :
    Arithmetic.isLiteralChar c = false := by
  simp only [isOperator, operators, decide_eq_true_eq, List.mem_cons, List.not_mem_nil,
    or_false] at h
  rcases h with rfl | rfl | rfl | rfl | rfl | rfl | rfl <;> decide

/-- A run of digits and points between operators is a lexeme of an expression, blanks aside. -/
theorem literal_mem_lexemes {before run after : Text} (hbefore : EndsAtOperator before)
    (hafter : StartsAtOperator after) (hne : strip run ≠ [])
    (hrun : ∀ c ∈ strip run, Arithmetic.isLiteralChar c = true) :
    .literal (strip run) ∈
      (Arithmetic.lexemes 0 (strip (before ++ (run ++ after)))).map Arithmetic.Lexeme.kind := by
  have hrest : ∀ c ∈ (strip after).head?, Arithmetic.isLiteralChar c = false := by
    intro c hc
    rcases hafter with rfl | ⟨d, u, rfl, hd⟩
    · cases hc
    · rw [strip, List.filter_cons_of_pos (by simp [isBlank_of_isOperator hd])] at hc
      obtain rfl : d = c := by simpa using hc
      exact isLiteralChar_of_isOperator hd
  have hspells : Arithmetic.Spells (strip run ++ strip after) (.literal (strip run) ::
      (Arithmetic.lexemes 0 (strip after)).map Arithmetic.Lexeme.kind) :=
    .literal hne hrun hrest (Arithmetic.spells_lexemes 0 (strip after))
  rw [strip_append, strip_append]
  rcases hbefore with rfl | ⟨u, d, rfl, hd⟩
  · rw [show strip [] = [] from rfl, List.nil_append, (Arithmetic.spells_iff 0).1 hspells]
    exact List.mem_cons_self
  · have hstrip : strip (u ++ [d]) = strip u ++ [d] := by
      rw [strip_append]
      simp [strip, isBlank_of_isOperator hd]
    have hall := (Arithmetic.spells_lexemes 0 (strip u)).append_mark (isBlank_of_isOperator hd)
      (isLiteralChar_of_isOperator hd) hspells
    rw [hstrip, List.append_assoc, List.singleton_append, (Arithmetic.spells_iff 0).1 hall]
    simp

/-- Where a result is reached, no segment needs a value as a whole. -/
theorem needsNoValue_of_evaluate {formula : Text} {tags : Bindings} {v : Float}
    (h : evaluate formula tags = .ok v) {segment : Text} (hmem : segment ∈ segments formula)
    (hplain : IsPlain segment) (hne : strip segment ≠ []) : NeedsNoValue tags segment := by
  obtain ⟨hbound, hvalue⟩ := of_evaluate h
  obtain ⟨-, w, hw⟩ := of_evaluateExpression hvalue
  obtain ⟨lead, rest, hsplit, hlead, hrest⟩ := exists_around_segment hmem hplain
  have hpieces : ∀ p ∈ pieces segment, p ∈ pieces formula := fun p hp => by
    rw [hsplit, pieces_around hlead hrest]
    simp [hp]
  have hother : ∀ c, .other c ∈ pieces segment →
      Arithmetic.isLiteralChar c = true ∨ isBlank c = true := by
    intro c hc
    cases hblank : isBlank c with
    | true => exact .inr rfl
    | false =>
        have hsegment : c ∈ segment := by
          rw [← flatMap_text_pieces segment]
          exact List.mem_flatMap.2 ⟨.other c, hc, List.mem_cons_self⟩
        have := isLiteralChar_of_isArithmeticChar
          (isArithmeticChar_of_evaluate h (hpieces _ hc) hblank) (hplain c hsegment)
        rwa [hblank] at this
  refine ⟨fun run hrun => ?_, hother, fun hruns => ?_⟩
  · obtain ⟨p, hp, hname⟩ := List.mem_filterMap.1 hrun
    exact hbound run (List.mem_filterMap.2 ⟨p, hpieces p hp, hname⟩)
  · -- without variables the segment stands in the expression as it is
    obtain ⟨before, after, hfill, hbefore, hafter⟩ := fill_around
      (replaceVariables tags (variableRuns formula)) hlead hrest hruns
    have hexpression : replaceEach (replaceVariables tags (variableRuns formula)) formula =
        before ++ (segment ++ after) := by
      rw [← hfill, replaceEach]
      exact congrArg (fun t => fill _ (pieces t)) hsplit
    have hliteral : ∀ c ∈ strip segment, Arithmetic.isLiteralChar c = true := by
      intro c hc
      obtain ⟨hsegment, hblank⟩ := List.mem_filter.1 hc
      exact (hother c (other_mem_pieces hruns hsegment)).resolve_right (by simpa using hblank)
    rw [hexpression] at hw
    exact Arithmetic.isNumber_of_evaluate hw (literal_mem_lexemes hbefore hafter hne hliteral)

/-! ## Where names are asked for -/

variable {formula : Text} {tags : Bindings} {suggestions : Option (List Suggestion)}
  {openId : Option Text}

theorem evaluateExpression_ne_unresolved (expression : Text) (names : List Text) :
    evaluateExpression expression ≠ .error (.unresolved names) := by
  unfold evaluateExpression
  dsimp only
  split
  · simp
  · split
    · split
      · simp
      · split <;> simp
    · simp

/-- Names are asked for exactly if there are names without a value, and then it is these. -/
theorem evaluate_eq_unresolved_iff {names : List Text} :
    evaluate formula tags = .error (.unresolved names) ↔
      names = unresolvedNames formula tags ∧ names ≠ [] := by
  rw [evaluate, substitute]
  cases hnames : unresolvedNames formula tags with
  | nil =>
      refine iff_of_false (evaluateExpression_ne_unresolved _ _) ?_
      rintro ⟨hnil, hne⟩
      exact hne hnil
  | cons name rest =>
      constructor
      · intro h
        cases h
        exact ⟨rfl, List.cons_ne_nil name rest⟩
      · rintro ⟨rfl, -⟩
        rfl

theorem unresolved_of_evaluate {names : List Text}
    (h : evaluate formula tags = .error (.unresolved names)) :
    names = unresolvedNames formula tags := (evaluate_eq_unresolved_iff.1 h).1

/-- A variable without a value is the name of a chip without a value, unless it is only a part of
what stands between two operators. -/
theorem exists_item_of_unresolved {name : Text} (h : name ∈ unresolvedNames formula tags) :
    tags.resolve? name = none ∧
      ((∃ chip ∈ (View.build formula tags suggestions openId).chips,
          chip.name = name ∧ chip.value = none) ∨
        ∃ item ∈ (View.build formula tags suggestions openId).items,
          name <:+: item.caption ∧ name ≠ item.caption) := by
  obtain ⟨hmem, hnone⟩ := List.mem_filter.1 h
  obtain ⟨run, hrun, rfl⟩ := List.mem_map.1 hmem
  have hvalue : tags.resolve? (trim run) = none := by simpa using hnone
  obtain ⟨segment, hsegment, -, hin⟩ := exists_segment_of_mem_variableRuns hrun
  obtain ⟨c, t, rfl, hc⟩ := (isVariable_of_mem_variableRuns hin).startsWithLetter
  have hinfix : trim (c :: t) <:+: trim segment :=
    trim_infix_trim (isBlank_of_isAlpha hc) (infix_of_mem_variableRuns hin)
  rw [trim_cons (isBlank_of_isAlpha hc)] at hvalue hinfix ⊢
  refine ⟨hvalue, ?_⟩
  by_cases hall : c :: trimEnd t = trim segment
  · refine .inl ?_
    obtain ⟨chip, hchip, hname, hnovalue⟩ :=
      View.exists_chip_of_mem_segments hsegment (classify?_of_isAlpha hall.symm hc)
    exact ⟨chip, hchip, hname, hnovalue.trans hvalue⟩
  · have hne : trim segment ≠ [] := fun hnil => by
      rw [hnil, List.infix_nil] at hinfix
      cases hinfix
    refine .inr ?_
    obtain ⟨item, hitem, hcaption⟩ := View.exists_item_of_mem_segments hsegment hne
    exact ⟨item, hitem, hcaption ▸ hinfix, hcaption ▸ hall⟩

/-! ## How far both agree -/

theorem display_of_error {error : EvaluationError} (h : evaluate formula tags = .error error) :
    display formula tags = invalidMessage := by
  rw [display, h]

/-- Where a chip has no value there is no result, unless the segment needs none as a whole. And a
name that is asked for has no value, and is the name of a chip without a value unless it is only a
part of what an item of the view says. -/
theorem missing_values (formula : Text) (tags : Bindings)
    (suggestions : Option (List Suggestion)) (openId : Option Text) :
    ((∃ chip ∈ (View.build formula tags suggestions openId).chips, chip.value = none ∧
        ¬ NeedsNoValue tags ((segments formula).getD chip.index [])) →
      display formula tags = invalidMessage) ∧
    ∀ names, evaluate formula tags = .error (.unresolved names) → ∀ name ∈ names,
      tags.resolve? name = none ∧
        ((∃ chip ∈ (View.build formula tags suggestions openId).chips,
            chip.name = name ∧ chip.value = none) ∨
          ∃ item ∈ (View.build formula tags suggestions openId).items,
            name <:+: item.caption ∧ name ≠ item.caption) := by
  constructor
  · rintro ⟨chip, hchip, -, hneeds⟩
    cases hvalue : evaluate formula tags with
    | error error => exact display_of_error hvalue
    | ok v =>
        obtain ⟨segment, hget, hkind, -⟩ := View.mem_chips_build_iff.1 hchip
        have hmem : segment ∈ segments formula := List.mem_of_getElem? hget
        have hplain : IsPlain segment := isPlain_of_classify? hmem hkind (by simp)
        have hne : strip segment ≠ [] := strip_ne_nil_of_classify? hkind
        rw [List.getD_eq_getElem?_getD, hget] at hneeds
        exact absurd (needsNoValue_of_evaluate hvalue hmem hplain hne) hneeds
  · intro names h name hname
    rw [unresolved_of_evaluate h] at hname
    exact exists_item_of_unresolved hname

/-- A chip without a value means that there is no result, and all names that are asked for are the
names of such chips. -/
structure AgreeOnMissing (formula : Text) (tags : Bindings)
    (suggestions : Option (List Suggestion)) (openId : Option Text) : Prop where
  display_eq : (∃ chip ∈ (View.build formula tags suggestions openId).chips, chip.value = none) →
    display formula tags = invalidMessage
  exists_chip : ∀ names, evaluate formula tags = .error (.unresolved names) → ∀ name ∈ names,
    ∃ chip ∈ (View.build formula tags suggestions openId).chips,
      chip.name = name ∧ chip.value = none

/-- Blanks make a chip of a number that is evaluated all the same, and of `2ab` the chip shows more
than is asked for. -/
theorem not_agreeOnMissing :
    (display "1 000 + 1".toList {} = "$1,001.00".toList ∧
      ¬ AgreeOnMissing "1 000 + 1".toList {} none none) ∧
    evaluate "2ab".toList {} = .error (.unresolved ["ab".toList]) ∧
      ¬ AgreeOnMissing "2ab".toList {} none none := by
  have hdisplay : display "1 000 + 1".toList {} = "$1,001.00".toList := by decide +kernel
  have hunresolved : evaluate "2ab".toList {} = .error (.unresolved ["ab".toList]) := by
    have hnames : unresolvedNames "2ab".toList {} = ["ab".toList] := by decide +kernel
    rw [evaluate, substitute, hnames]
  refine ⟨⟨hdisplay, fun h => ?_⟩, hunresolved, fun h => ?_⟩
  · have hchip : ∃ chip ∈ (View.build "1 000 + 1".toList {} none none).chips,
        chip.value = none := by decide +kernel
    have := h.display_eq hchip
    rw [hdisplay] at this
    exact absurd this (by decide)
  · have hnone : ¬ ∃ chip ∈ (View.build "2ab".toList {} none none).chips,
        chip.name = "ab".toList ∧ chip.value = none := by decide +kernel
    exact hnone (h.exists_chip _ hunresolved _ List.mem_cons_self)

end FormulaPad.Evaluation
