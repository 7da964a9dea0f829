import FormulaPad.Proofs.Arithmetic.Sound

/-!
# FormulaPad.Proofs.Arithmetic.Beside

A number right after an expression that ends with a group.

The state in which an expression ends holds the value of its last term, what
comes before that term, and whether a number may stand beside it
(`reach_lastTerm`). So the number multiplies the last term, or it is rejected at
its first character (`evaluate_append_number`). Main statement:
`multipliesLastTerm_iff`, which of the two it is: the number multiplies exactly
if the last group has no sign and is the first factor of its term or stands
beside what comes before it. After a sign, `*` or `/` it does not.
-/

namespace FormulaPad.Arithmetic

/-! ## The last term of an expression -/

/-- The text is an expression whose last term is spelled by `bs` and has the value `term`, after the
terms of `sum`. -/
structure EndsWithTerm (t : Text) (sum : Option (Float × SumOperator)) (bs : List LexemeKind)
    (term : Float) (group : Bool) : Prop where
  isTerm : IsTerm maxNesting bs term group
  exists_spells : ∃ as, SumRead maxNesting sum as ∧ Spells t (as ++ bs)

variable {t n : Text} {sum : Option (Float × SumOperator)} {as bs : List LexemeKind}
  {term v : Float} {group : Bool}

/-- Where a term ends, the state holds its value and what comes before it. -/
theorem reach_lastTerm (hsum : SumRead maxNesting sum as) (hterm : IsTerm maxNesting bs term group) :
    reach (.operand [] .start) (as ++ bs) = .ok (.operator [] sum term group) := by
  have hroom : ([] : List Pending).length + maxNesting ≤ maxNesting := by simp
  cases hsum with
  | start => exact readsTerm_of_isTerm hterm [] none hroom
  | @more ks total op hexpr =>
      obtain ⟨before, last, flag, hreach, htotal⟩ :=
        readsExpression_of_isExpression hexpr [] hroom
      rw [List.append_assoc, reach_append hreach, List.singleton_append, reach, step_operator_sum,
        htotal]
      exact readsTerm_of_isTerm hterm [] (some (total, op)) hroom

/-- Whatever is accepted has a last term. -/
theorem exists_endsWithTerm (h : evaluate t = .ok v) :
    ∃ sum bs term group, EndsWithTerm t sum bs term group := by
  obtain ⟨ks, hspells, hexpr⟩ := derives_of_evaluate h
  cases hexpr with
  | term hterm => exact ⟨none, ks, _, _, hterm, [], .start, hspells⟩
  | @plus _ ls _ ms _ _ hexpr hterm =>
      have hsum : SumRead maxNesting _ (ls ++ [.mark '+']) := .more .plus hexpr
      refine ⟨_, ms, _, _, hterm, _, hsum, ?_⟩
      rwa [List.append_assoc, List.singleton_append]
  | @minus _ ls _ ms _ _ hexpr hterm =>
      have hsum : SumRead maxNesting _ (ls ++ [.mark '-']) := .more .minus hexpr
      refine ⟨_, ms, _, _, hterm, _, hsum, ?_⟩
      rwa [List.append_assoc, List.singleton_append]

/-! ## One more number -/

/-- After a closing mark a number is a lexeme of its own. -/
theorem spells_append_number {ks : List LexemeKind} (hks : Spells t ks)
    (hend : t.getLast? = some ')') (hn : IsNumber n) : Spells (t ++ n) (ks ++ [.literal n]) := by
  have hne : n ≠ [] := by
    rintro rfl
    simpa using hn.hasDigit
  have hnumber := Spells.literal hne hn.isLiteral (t := []) (by simp) .nil
  rw [List.append_nil] at hnumber
  exact hks.append hnumber (.inl (by simp [hend, isLiteralChar]))

/-- The number multiplies the last term if it may stand beside it, and otherwise no expression goes
on with it. -/
theorem evaluate_append_number (h : EndsWithTerm t sum bs term group)
    (hend : t.getLast? = some ')') (hn : IsNumber n) :
    (group = true → evaluate (t ++ n) = .ok (addTerm sum (term * numberValue n))) ∧
      (group = false → ∀ w, evaluate (t ++ n) ≠ .ok w) := by
  obtain ⟨hterm, as, hsum, hspells⟩ := h
  have hreach := reach_lastTerm hsum hterm
  have hall := spells_append_number hspells hend hn
  constructor
  · rintro rfl
    refine (evaluate_eq_ok_iff hall).mpr ⟨.operator [] sum (term * numberValue n) false, ?_, rfl⟩
    rw [reach_append hreach, reach_singleton, step_operator_literal,
      step_operand_literal (literalValue?_of_isNumber hn)]
    rfl
  · rintro rfl w hw
    obtain ⟨s, hs, -⟩ := (evaluate_eq_ok_iff hall).mp hw
    rw [reach_append hreach, reach_singleton] at hs
    cases hs

/-! ## Which groups a number multiplies -/

/-- The number right after the text multiplies its last term. -/
def MultipliesLastTerm (t n : Text) : Prop :=
  ∃ sum bs term group, EndsWithTerm t sum bs term group ∧
    evaluate (t ++ n) = .ok (addTerm sum (term * numberValue n))

/-- The last term of the text ends with a group that has no sign and is the first factor of the
term, or stands beside the factors before it. -/
def EndsWithFreeGroup (t : Text) : Prop :=
  ∃ sum bs term group, EndsWithTerm t sum bs term group ∧ ∃ factors ls w,
    IsPrimary maxNesting ls w true ∧ bs = factors ++ ls ∧
      (factors = [] ∨ ∃ u flag, IsTerm maxNesting factors u flag)

/-- A number may stand beside a term exactly if the term ends with such a group. -/
theorem endsWithFreeGroup_iff :
    EndsWithFreeGroup t ↔ ∃ sum bs term, EndsWithTerm t sum bs term true := by
  constructor
  · rintro ⟨sum, bs, -, -, ⟨-, as, hsum, hspells⟩, factors, ls, w, hgroup, rfl, rfl | ⟨u, flag, hu⟩⟩
    · exact ⟨sum, ls, w, .factor (.primary hgroup), as, hsum, hspells⟩
    · exact ⟨sum, factors ++ ls, u * w, .besideGroup hu hgroup, as, hsum, hspells⟩
  · rintro ⟨sum, bs, term, h⟩
    refine ⟨sum, bs, term, true, h, ?_⟩
    cases h.isTerm with
    | factor hfactor =>
        cases hfactor with
        | primary hgroup => exact ⟨[], bs, _, hgroup, rfl, .inl rfl⟩
    | besideGroup hu hgroup => exact ⟨_, _, _, hgroup, rfl, .inr ⟨_, _, hu⟩⟩

/-- A number right after an expression that ends with a group multiplies the last term exactly if
the group has no sign and is the first factor of that term or stands beside what comes before it.
In all other cases the whole is rejected. -/
theorem multipliesLastTerm_iff (h : evaluate t = .ok v) (hend : t.getLast? = some ')')
    (hn : IsNumber n) :
    (MultipliesLastTerm t n ↔ EndsWithFreeGroup t) ∧
      (¬ EndsWithFreeGroup t → ∃ e, evaluate (t ++ n) = .error e) := by
  obtain ⟨sum, bs, term, group, hterm⟩ := exists_endsWithTerm h
  obtain ⟨hfree, hbound⟩ := evaluate_append_number hterm hend hn
  rw [endsWithFreeGroup_iff]
  cases group with
  | true =>
      refine ⟨iff_of_true ⟨sum, bs, term, true, hterm, hfree rfl⟩ ⟨sum, bs, term, hterm⟩, ?_⟩
      exact fun hno => absurd ⟨sum, bs, term, hterm⟩ hno
  | false =>
      have hrejected : ∃ e, evaluate (t ++ n) = .error e := by
        cases hvalue : evaluate (t ++ n) with
        | error e => exact ⟨e, rfl⟩
        | ok w => exact absurd hvalue (hbound rfl w)
      refine ⟨iff_of_false ?_ ?_, fun _ => hrejected⟩
      · rintro ⟨_, _, _, _, -, hvalue⟩
        exact hbound rfl _ hvalue
      · rintro ⟨_, _, _, hother⟩
        exact hbound rfl _ ((evaluate_append_number hother hend hn).1 rfl)

/-- A group beside a group. -/
theorem multipliesLastTerm_iff_besideGroup :
    evaluate "2+(3)(4)".toList = .ok 14 ∧ "2+(3)(4)".toList.getLast? = some ')' ∧ IsNumber ['5'] ∧
      (MultipliesLastTerm "2+(3)(4)".toList ['5'] ↔ EndsWithFreeGroup "2+(3)(4)".toList) ∧
      (¬ EndsWithFreeGroup "2+(3)(4)".toList →
        ∃ e, evaluate ("2+(3)(4)".toList ++ ['5']) = .error e) := by
  have hvalue : evaluate "2+(3)(4)".toList = .ok 14 := by decide +kernel
  have hnumber : IsNumber ['5'] := (literalValue?_digits (List.cons_ne_nil _ _) (by simp)).1
  exact ⟨hvalue, rfl, hnumber, multipliesLastTerm_iff hvalue rfl hnumber⟩

/-- After a factor or a sign a group is followed by no number. -/
theorem not_multipliesLastTerm_afterOperator :
    (evaluate "2*(3)".toList = .ok 6 ∧ evaluate "-(3)".toList = .ok (-3) ∧ IsNumber ['4']) ∧
      evaluate "2*(3)4".toList = .error ⟨5, .unexpected '4'⟩ ∧
      evaluate "-(3)4".toList = .error ⟨4, .unexpected '4'⟩ ∧
      ¬ MultipliesLastTerm "2*(3)".toList ['4'] ∧ ¬ MultipliesLastTerm "-(3)".toList ['4'] := by
  have hfactor : evaluate "2*(3)4".toList = .error ⟨5, .unexpected '4'⟩ := by decide +kernel
  have hsign : evaluate "-(3)4".toList = .error ⟨4, .unexpected '4'⟩ := by decide +kernel
  have hnumber : IsNumber ['4'] := (literalValue?_digits (List.cons_ne_nil _ _) (by simp)).1
  refine ⟨⟨by decide +kernel, by decide +kernel, hnumber⟩, hfactor, hsign, ?_, ?_⟩
  · rintro ⟨_, _, _, _, -, hvalue⟩
    exact absurd (hvalue.symm.trans hfactor) (by simp)
  · rintro ⟨_, _, _, _, -, hvalue⟩
    exact absurd (hvalue.symm.trans hsign) (by simp)

end FormulaPad.Arithmetic
