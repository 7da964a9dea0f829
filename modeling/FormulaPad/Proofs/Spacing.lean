import FormulaPad.Proofs.Missing

/-!
# FormulaPad.Proofs.Spacing

What a blank beside an operator does to the result of a formula.

A blank behind an operator stands by itself and is removed before anything is
computed. A blank in front of an operator may belong to a variable: it becomes
the end of the variable that stands there, and makes one of a lone letter
(`blankAtEnd_pieces`). The first leaves the name of the variable as it is, but
not the text that is searched for when variables are replaced, so that it
matters where that text occurs in other variables (`ActsAlone`).

Main statement: `evaluate_blank_beside_operator`.
-/

namespace FormulaPad

open Formula Text

namespace Formula

/-! ## A blank at the end of a text -/

theorem pieces_blank_cons (t : Text) : pieces (' ' :: t) = .other ' ' :: pieces t :=
  pieces_append_of_not_isAlpha (t := [' ']) (by simp) t

/-- The pieces of a text, and what becomes of them with a blank at its end: it joins the variable
that stands there, makes a variable of a lone letter, or stands by itself. -/
inductive BlankAtEnd : List Piece → List Piece → Prop
  | name (ps : List Piece) (run : Text) :
      BlankAtEnd (ps ++ [.name run]) (ps ++ [.name (run ++ [' '])])
  | letter (ps : List Piece) {c : Char} (h : c.isAlpha = true) :
      BlankAtEnd (ps ++ [.other c]) (ps ++ [.name [c, ' ']])
  | apart (ps : List Piece) : BlankAtEnd ps (ps ++ [.other ' '])

theorem BlankAtEnd.cons {ps qs : List Piece} (h : BlankAtEnd ps qs) (p : Piece) :
    BlankAtEnd (p :: ps) (p :: qs) := by
  cases h with
  | name ps run => exact .name (p :: ps) run
  | letter ps hc => exact .letter (p :: ps) hc
  | apart ps => exact .apart (p :: ps)

theorem isVariable_letter_blank {c : Char} (h : c.isAlpha = true) : IsVariable [c, ' '] where
  startsWithLetter := ⟨c, [' '], rfl, h⟩
  isWord := by
    simp only [List.forall_mem_cons, isWordChar_of_isAlpha h, true_and]
    exact ⟨by decide, by simp⟩
  one_lt_length := Nat.one_lt_two

theorem blankAtEnd_pieces (t : Text) : BlankAtEnd (pieces t) (pieces (t ++ [' '])) := by
  have hend : pieces [' '] = [.other ' '] := by rw [pieces_blank_cons, pieces]
  fun_induction pieces t with
  | case1 => exact hend ▸ .apart []
  | case2 c t h ih =>
      by_cases hrest : t.dropWhile isWordChar = []
      · -- the variable reaches to the end
        have hword := List.takeWhile_eq_self_iff.2 (List.dropWhile_eq_nil_iff.1 hrest)
        have hrun : IsVariable (c :: t) := by
          have hseparated := separated_pieces (c :: t)
          rw [pieces, if_pos h, hword] at hseparated
          exact hseparated.1
        rw [hrest, hword, pieces_of_isVariable (hrun.append (u := [' ']) rfl), pieces]
        exact .name [] (c :: t)
      · have hlength : (t.takeWhile isWordChar).length ≠ t.length := fun hlen => by
          have hword := (List.takeWhile_prefix isWordChar).eq_of_length hlen
          exact hrest (List.dropWhile_eq_nil_iff.2 (List.takeWhile_eq_self_iff.1 hword))
        have hstart : startsVariable c (t ++ [' ']) = true := by
          cases t with
          | nil => exact absurd rfl hrest
          | cons d t => exact h
        rw [List.cons_append, pieces, if_pos hstart, List.takeWhile_append, if_neg hlength,
          List.dropWhile_append, if_neg (by simpa using hrest)]
        exact ih.cons _
  | case3 c t h ih =>
      cases t with
      | nil =>
          by_cases hc : c.isAlpha = true
          · rw [List.singleton_append, pieces_of_isVariable (isVariable_letter_blank hc), pieces]
            exact .letter [] hc
          · have hother : pieces ([c] ++ [' ']) = [.other c, .other ' '] := by
              rw [pieces_append_of_not_isAlpha (by simpa using hc), hend]
              rfl
            rw [hother, pieces]
            exact .apart [.other c]
      | cons d t =>
          have hkept : pieces (c :: d :: t ++ [' ']) = .other c :: pieces (d :: t ++ [' ']) := by
            rw [List.cons_append]
            conv_lhs => rw [pieces]
            exact if_neg h
          rw [hkept]
          exact ih.cons _

end Formula

namespace Evaluation

/-! ## Formulas with the same result -/

/-- Blanks in an expression do not count. -/
theorem evaluateExpression_congr {e e' : Text} (h : strip e = strip e') :
    evaluateExpression e = evaluateExpression e' := by
  rw [evaluateExpression, evaluateExpression, h]

/-- The names of the variables of a formula, and what replacing them makes of it up to blanks,
determine its result. -/
theorem evaluate_congr {f g : Text} {tags : Bindings}
    (hnames : (variableRuns f).map trim = (variableRuns g).map trim)
    (hstrip : (∀ run ∈ variableRuns f, (valueOf? tags run).isSome = true) →
      strip (replaceEach (replaceVariables tags (variableRuns f)) f) =
        strip (replaceEach (replaceVariables tags (variableRuns g)) g)) :
    evaluate f tags = evaluate g tags := by
  have hunresolved : unresolvedNames f tags = unresolvedNames g tags := by
    rw [unresolvedNames, unresolvedNames, hnames]
  by_cases hnil : unresolvedNames f tags = []
  · have hf := unresolvedNames_eq_nil_iff.1 hnil
    have hg := unresolvedNames_eq_nil_iff.1 (hunresolved ▸ hnil)
    rw [evaluate, evaluate, substitute_eq_replaceEach hf, substitute_eq_replaceEach hg]
    exact evaluateExpression_congr (hstrip hf)
  · rw [evaluate_eq_unresolved_iff.2 ⟨rfl, hnil⟩, eq_comm, evaluate_eq_unresolved_iff]
    exact ⟨hunresolved, hnil⟩

/-- A blank that stands by itself changes nothing. -/
theorem evaluate_of_blank {f g : Text} {ps qs : List Piece} (hf : pieces f = ps ++ .other ' ' :: qs)
    (hg : pieces g = ps ++ qs) (tags : Bindings) : evaluate f tags = evaluate g tags := by
  have hruns : variableRuns f = variableRuns g := by
    rw [variableRuns, variableRuns, hf, hg, List.filterMap_append, List.filterMap_append]
    rfl
  refine evaluate_congr (by rw [hruns]) fun _ => ?_
  rw [hruns, replaceEach, replaceEach, hf, hg, fill_append, fill_append, strip_append, strip_append,
    strip_fill_other]
  rfl

/-! ## Variables that are replaced alone -/

/-- The variable `run`, replaced between those before it and those after it, acts alone: in a
variable of its own name no text of another name is found first, in one of another name its text
does not occur by then, and its value holds no name of a variable. -/
structure ActsAlone (tags : Bindings) (before : List Text) (run : Text) (after : List Text) :
    Prop where
  own : ∀ q ∈ before ++ run :: after, trim q = trim run →
    ∀ first ∈ (before ++ run :: after).find? (fun r => decide (r <:+: q)), trim first = trim run
  others : ∀ q ∈ before ++ run :: after, trim q ≠ trim run →
    ¬ run <:+: replaceVariables tags before q
  value : ∀ q ∈ before ++ run :: after, ¬ trim q <:+: replacement tags run

instance (tags : Bindings) (before : List Text) (run : Text) (after : List Text) :
    Decidable (ActsAlone tags before run after) :=
  decidable_of_iff
    ((∀ q ∈ before ++ run :: after, trim q = trim run → ∀ first ∈
        (before ++ run :: after).find? (fun r => decide (r <:+: q)), trim first = trim run) ∧
      (∀ q ∈ before ++ run :: after, trim q ≠ trim run →
        ¬ run <:+: replaceVariables tags before q) ∧
      ∀ q ∈ before ++ run :: after, ¬ trim q <:+: replacement tags run)
    ⟨fun ⟨hown, hothers, hvalue⟩ => ⟨hown, hothers, hvalue⟩,
      fun h => ⟨h.own, h.others, h.value⟩⟩

theorem replacement_congr {run run' : Text} (h : trim run = trim run') (tags : Bindings) :
    replacement tags run = replacement tags run' := by
  rw [replacement, replacement, valueOf?, valueOf?, h]

namespace ActsAlone

variable {tags : Bindings} {before after : List Text} {run : Text}

/-- A variable of the same name becomes the value. -/
theorem strip_own (h : ActsAlone tags before run after)
    (hruns : ∀ r ∈ before ++ run :: after, IsVariable r) {q : Text}
    (hq : q ∈ before ++ run :: after) (hname : trim q = trim run) :
    strip (replaceVariables tags (before ++ run :: after) q) = strip (replacement tags run) := by
  obtain ⟨first, hfind⟩ := exists_find?_occurring hq
  have hvalue := replacement_congr hname tags
  rw [← hvalue]
  refine strip_replaceVariables hruns (hruns q hq) hfind ?_ ?_
  · rw [h.own q hq hname first hfind, hname]
  · rw [hvalue]
    exact h.value

/-- A variable of another name becomes what it would become without this one. -/
theorem replaceVariables_other (h : ActsAlone tags before run after) {q : Text}
    (hq : q ∈ before ++ run :: after) (hname : trim q ≠ trim run) :
    replaceVariables tags (before ++ run :: after) q = replaceVariables tags (before ++ after) q := by
  rw [replaceVariables_append, replaceVariables_append, replaceVariables_cons,
    replaceAll_of_absent (h.others q hq hname)]

/-- If each of two variables of one name acts alone at the same place, they do the same to all the
others. -/
theorem strip_replaceVariables_congr {run' : Text} (h : ActsAlone tags before run after)
    (h' : ActsAlone tags before run' after) (hname : trim run = trim run')
    (hruns : ∀ r ∈ before ++ run :: after, IsVariable r)
    (hruns' : ∀ r ∈ before ++ run' :: after, IsVariable r) {q : Text} (hq : q ∈ before ++ after) :
    strip (replaceVariables tags (before ++ run :: after) q) =
      strip (replaceVariables tags (before ++ run' :: after) q) := by
  have hmem (r : Text) : q ∈ before ++ r :: after :=
    (List.sublist_cons_self r after).append_left before |>.subset hq
  by_cases hown : trim q = trim run
  · rw [h.strip_own hruns (hmem run) hown, h'.strip_own hruns' (hmem run') (hown.trans hname),
      replacement_congr hname]
  · rw [h.replaceVariables_other (hmem run) hown,
      h'.replaceVariables_other (hmem run') (hname ▸ hown)]

end ActsAlone

/-- A variable may be written with more or fewer blanks at its end where it acts alone either way. -/
theorem evaluate_of_actsAlone {f g : Text} {tags : Bindings} {ps qs : List Piece} {run run' : Text}
    (hf : pieces f = ps ++ .name run :: qs) (hg : pieces g = ps ++ .name run' :: qs)
    (hname : trim run = trim run')
    (h : (∀ r ∈ variableRuns f, (valueOf? tags r).isSome = true) →
      ActsAlone tags (namesOf ps) run (namesOf qs) ∧ ActsAlone tags (namesOf ps) run' (namesOf qs)) :
    evaluate f tags = evaluate g tags := by
  have hruns : variableRuns f = namesOf ps ++ run :: namesOf qs :=
    (congrArg namesOf hf).trans (namesOf_append_name ps run qs)
  have hruns' : variableRuns g = namesOf ps ++ run' :: namesOf qs :=
    (congrArg namesOf hg).trans (namesOf_append_name ps run' qs)
  refine evaluate_congr (by simp [hruns, hruns', hname]) fun hbound => ?_
  obtain ⟨halone, halone'⟩ := h hbound
  have hvar : ∀ r ∈ namesOf ps ++ run :: namesOf qs, IsVariable r := fun r hr =>
    isVariable_of_mem_variableRuns (hruns ▸ hr)
  have hvar' : ∀ r ∈ namesOf ps ++ run' :: namesOf qs, IsVariable r := fun r hr =>
    isVariable_of_mem_variableRuns (hruns' ▸ hr)
  have hother : ∀ q ∈ namesOf ps ++ namesOf qs,
      strip (replaceVariables tags (variableRuns f) q) =
        strip (replaceVariables tags (variableRuns g) q) := fun q hq => by
    rw [hruns, hruns']
    exact halone.strip_replaceVariables_congr halone' hname hvar hvar' hq
  have hown : strip (replaceVariables tags (variableRuns f) run) =
      strip (replaceVariables tags (variableRuns g) run') := by
    rw [hruns, hruns', halone.strip_own hvar (by simp) rfl, halone'.strip_own hvar' (by simp) rfl,
      replacement_congr hname]
  rw [replaceEach, replaceEach, hf, hg, fill_append, fill_append, strip_append, strip_append,
    strip_fill_name, strip_fill_name, hown,
    strip_fill_congr fun r hr => hother r (List.mem_append_left _ hr),
    strip_fill_congr fun r hr => hother r (List.mem_append_right _ hr)]

/-! ## Blanks around an operator -/

/-- Both have the same value, or neither has one. -/
def SameOutcome (r s : Except EvaluationError Float) : Prop := r.toOption = s.toOption

instance (r s : Except EvaluationError Float) : Decidable (SameOutcome r s) :=
  inferInstanceAs (Decidable (r.toOption = s.toOption))

/-- What stands at the end of `before` tolerates a blank between it and an operator: a lone letter
is no name with a value, and a variable acts alone with the blank and without it, unless some
variable has no value and nothing is replaced at all. -/
def ToleratesBlank (tags : Bindings) (before after : Text) : Prop :=
  match (pieces before).getLast? with
  | none => True
  | some (.other c) => c.isAlpha = true → tags.resolve? [c] = none
  | some (.name run) =>
      (∀ r ∈ variableRuns before ++ variableRuns after, (valueOf? tags r).isSome = true) →
        ActsAlone tags (namesOf (pieces before).dropLast) run (variableRuns after) ∧
          ActsAlone tags (namesOf (pieces before).dropLast) (run ++ [' ']) (variableRuns after)

instance (tags : Bindings) (before after : Text) : Decidable (ToleratesBlank tags before after) :=
  match h : (pieces before).getLast? with
  | none => isTrue (by rw [ToleratesBlank, h]; trivial)
  | some (.other c) =>
      decidable_of_iff (c.isAlpha = true → tags.resolve? [c] = none) (by rw [ToleratesBlank, h])
  | some (.name run) =>
      decidable_of_iff
        ((∀ r ∈ variableRuns before ++ variableRuns after, (valueOf? tags r).isSome = true) →
          ActsAlone tags (namesOf (pieces before).dropLast) run (variableRuns after) ∧
            ActsAlone tags (namesOf (pieces before).dropLast) (run ++ [' ']) (variableRuns after))
        (by rw [ToleratesBlank, h])

theorem not_isAlpha_of_isArithmeticChar {c : Char} (h : isArithmeticChar c = true) :
    c.isAlpha = false := by
  rw [isArithmeticChar, Bool.or_eq_true] at h
  rcases h with h | h
  · exact not_isAlpha_of_isDigit h
  · have hall : ∀ d ∈ ['+', '-', '*', '/', '(', ')', '.', ' '], d.isAlpha = false := by simp
    exact hall c (List.contains_iff_mem.1 h)

theorem toOption_eq_none {r : Except EvaluationError Float} (h : ∀ v, r ≠ .ok v) :
    r.toOption = none := by
  cases r with
  | error e => rfl
  | ok v => exact absurd rfl (h v)

/-- With a lone letter there is no result. -/
theorem toOption_evaluate_of_letter {formula : Text} {tags : Bindings} {c : Char}
    (hmem : .other c ∈ pieces formula) (hc : c.isAlpha = true) :
    (evaluate formula tags).toOption = none := by
  refine toOption_eq_none fun v h => ?_
  have hchar := isArithmeticChar_of_evaluate h hmem (isBlank_of_isAlpha hc)
  rw [not_isAlpha_of_isArithmeticChar hchar] at hc
  cases hc

/-- Where a variable has no value there is no result. -/
theorem toOption_evaluate_of_name {formula run : Text} {tags : Bindings}
    (hmem : run ∈ variableRuns formula) (hnone : valueOf? tags run = none) :
    (evaluate formula tags).toOption = none := by
  refine toOption_eq_none fun v h => ?_
  have hsome := (of_evaluate h).1 run hmem
  rw [hnone] at hsome
  cases hsome

/-- A blank behind an operator changes nothing. -/
theorem evaluate_blank_after {op : Char} (hop : isOperator op = true) (before after : Text)
    (tags : Bindings) :
    evaluate (before ++ op :: ' ' :: after) tags = evaluate (before ++ op :: after) tags := by
  have hblank : pieces (before ++ op :: ' ' :: after) =
      (pieces before ++ [.other op]) ++ .other ' ' :: pieces after := by
    rw [pieces_append_operator before hop, pieces_blank_cons, List.append_assoc]
    rfl
  have hplain : pieces (before ++ op :: after) =
      (pieces before ++ [.other op]) ++ pieces after := by
    rw [pieces_append_operator before hop, List.append_assoc]
    rfl
  exact evaluate_of_blank hblank hplain tags

/-- A blank in front of an operator leaves the outcome as it is, if it is tolerated there. -/
theorem sameOutcome_blank_before {op : Char} (hop : isOperator op = true) {before after : Text}
    {tags : Bindings} (h : ToleratesBlank tags before after) :
    SameOutcome (evaluate (before ++ ' ' :: op :: after) tags)
      (evaluate (before ++ op :: after) tags) := by
  have hblank : pieces (before ++ ' ' :: op :: after) =
      pieces (before ++ [' ']) ++ .other op :: pieces after := by
    rw [← pieces_append_operator _ hop, List.append_assoc]
    rfl
  have hplain := pieces_append_operator before hop after
  have hruns := variableRuns_append_operator before hop after
  have hend := blankAtEnd_pieces before
  rw [ToleratesBlank] at h
  generalize pieces before = ps at hplain hend h
  generalize pieces (before ++ [' ']) = qs at hblank hend
  cases hend with
  | name ps run =>
      simp only [List.getLast?_concat, List.dropLast_concat] at h
      rw [List.append_assoc] at hplain hblank
      have heq := evaluate_of_actsAlone hplain hblank (trim_append (u := [' ']) rfl run).symm
        fun hbound => h (hruns ▸ hbound)
      rw [SameOutcome, heq]
  | @letter ps c hc =>
      simp only [List.getLast?_concat] at h
      have htrim : trim [c, ' '] = [c] := trim_cons (isBlank_of_isAlpha hc) [' ']
      have hname : [c, ' '] ∈ variableRuns (before ++ ' ' :: op :: after) := by
        rw [variableRuns, hblank]
        exact List.mem_filterMap.2 ⟨.name [c, ' '], by simp, rfl⟩
      have hvalue : valueOf? tags [c, ' '] = none := by rw [valueOf?, htrim, h hc]
      have hletter : .other c ∈ pieces (before ++ op :: after) := by simp [hplain]
      rw [SameOutcome, toOption_evaluate_of_name hname hvalue,
        toOption_evaluate_of_letter hletter hc]
  | apart ps =>
      rw [List.append_assoc] at hblank
      rw [SameOutcome, evaluate_of_blank hblank hplain tags]

/-- A blank behind an operator changes neither the value of a formula nor its error. One in front of
an operator leaves the outcome as it is where it is tolerated. -/
theorem evaluate_blank_beside_operator {op : Char} (hop : isOperator op = true)
    (before after : Text) (tags : Bindings) :
    evaluate (before ++ op :: ' ' :: after) tags = evaluate (before ++ op :: after) tags ∧
      (ToleratesBlank tags before after →
        SameOutcome (evaluate (before ++ ' ' :: op :: after) tags)
          (evaluate (before ++ op :: after) tags)) :=
  ⟨evaluate_blank_after hop before after tags, sameOutcome_blank_before hop⟩

/-- A blank after a name with a blank in it, which stands in the formula twice. -/
theorem evaluate_blank_beside_operator_twice :
    isOperator '/' = true ∧ ToleratesBlank signedValues "2*cd 1".toList "(ab-cd 1)".toList ∧
      evaluate "2*cd 1/ (ab-cd 1)".toList signedValues =
        evaluate "2*cd 1/(ab-cd 1)".toList signedValues ∧
      SameOutcome (evaluate "2*cd 1 /(ab-cd 1)".toList signedValues)
        (evaluate "2*cd 1/(ab-cd 1)".toList signedValues) := by
  have hop : isOperator '/' = true := by decide
  have htolerates : ToleratesBlank signedValues "2*cd 1".toList "(ab-cd 1)".toList := by
    decide +kernel
  have h := evaluate_blank_beside_operator hop "2*cd 1".toList "(ab-cd 1)".toList signedValues
  exact ⟨hop, htolerates, h.1, h.2 htolerates⟩

/-- A lone letter, two names of which one is the end of the other, and a name for which another one
stands. -/
def entangledNames : Bindings :=
  .ofList [("x".toList, "5".toList), ("abc".toList, "5".toList), ("bc".toList, "2".toList),
    ("de".toList, "bc".toList)]

/-- A blank in front of an operator makes a name of a lone letter, keeps a name from being replaced
within a longer one, lets another name come first, and lets a name be replaced within a value. -/
theorem not_sameOutcome_blank_before :
    (¬ SameOutcome (evaluate "x *2".toList entangledNames)
        (evaluate "x*2".toList entangledNames) ∧
      evaluate "x *2".toList entangledNames = .ok 10) ∧
    (¬ SameOutcome (evaluate "ab +ab2".toList nestedNames)
        (evaluate "ab+ab2".toList nestedNames) ∧
      evaluate "ab +ab2".toList nestedNames = .ok 8 ∧
      evaluate "ab+ab2".toList nestedNames = .ok 13) ∧
    (¬ SameOutcome (evaluate "abc +bc+abc".toList entangledNames)
        (evaluate "abc+bc+abc".toList entangledNames) ∧
      evaluate "abc+bc+abc".toList entangledNames = .ok 12) ∧
    ¬ SameOutcome (evaluate "de *bc+de +0".toList entangledNames)
        (evaluate "de *bc+de+0".toList entangledNames) ∧
      evaluate "de *bc+de +0".toList entangledNames = .ok 6 := by
  decide +kernel

end Evaluation
end FormulaPad
