import FormulaPad.Proofs.Arithmetic.Lexemes

/-!
# FormulaPad.Proofs.Arithmetic.Complete

Every derivation is read to its end: the evaluator takes the lexemes of an
expression without a fault and arrives at the value that is derived
(`evaluate_of_derives`).

The lemmas follow the grammar. For a primary, a factor, a term and an expression
each one says from which state the evaluator reads it and where that leads. The
state they start from is arbitrary but for the room that is left for groups:
`outer.length + n ≤ maxNesting` for lexemes with groups nested `n` deep at most.
-/

namespace FormulaPad.Arithmetic

/-! ## Reading kinds of lexemes -/

/-- The state after lexemes of these kinds. -/
def reach (s : State) : List LexemeKind → Except Fault State
  | [] => .ok s
  | k :: ks =>
      match step s k with
      | .ok t => reach t ks
      | .error fault => .error fault

/-- What is reached depends on the kinds of the lexemes only. -/
theorem run_eq_ok_iff {s t : State} {ls : List Lexeme} :
    run s ls = .ok t ↔ reach s (ls.map Lexeme.kind) = .ok t := by
  induction ls generalizing s with
  | nil => simp [run, reach]
  | cons l ls ih =>
      simp only [run, List.map_cons, reach]
      cases step s l.kind with
      | ok u => exact ih
      | error fault => simp

theorem reach_append {s t : State} {ks : List LexemeKind} (h : reach s ks = .ok t)
    (ls : List LexemeKind) : reach s (ks ++ ls) = reach t ls := by
  induction ks generalizing s with
  | nil => cases h; rfl
  | cons k ks ih =>
      simp only [reach, List.cons_append] at h ⊢
      cases hstep : step s k with
      | ok u => rw [hstep] at h; exact ih h
      | error fault => rw [hstep] at h; contradiction

theorem reach_singleton (s : State) (k : LexemeKind) : reach s [k] = step s k := by
  simp only [reach]
  cases step s k <;> rfl

/-- The value of a text is that of the state which its lexemes lead to. -/
theorem evaluate_eq_ok_iff {t : Text} {ks : List LexemeKind} (h : Spells t ks) {v : Float} :
    evaluate t = .ok v ↔ ∃ s, reach (.operand [] .start) ks = .ok s ∧ finish s = .ok v := by
  rw [← map_kind_lexemes_of_spells h 0, evaluate]
  cases hrun : run (.operand [] .start) (lexemes 0 t) with
  | ok s =>
      rw [run_eq_ok_iff.mp hrun]
      cases hfinish : finish s <;> simp [atOffset, hfinish]
  | error e =>
      have hnone : ∀ s, reach (.operand [] .start) ((lexemes 0 t).map Lexeme.kind) ≠ .ok s :=
        fun s hs => by rw [run_eq_ok_iff.mpr hs] at hrun; cases hrun
      simp [hnone]

/-! ## Single steps -/

theorem step_operand_sign (outer : List Pending) (p : Pending) (sign : SumOperator) :
    step (.operand outer p) sign.mark = .ok (.operand outer (p.addSign (sign == .minus))) := by
  cases sign <;> rfl

theorem step_operand_open {outer : List Pending} (h : outer.length < maxNesting) (p : Pending) :
    step (.operand outer p) (.mark '(') = .ok (.operand (p :: outer) .start) := by
  show openGroup outer p = _
  rw [openGroup, if_neg (Nat.ne_of_lt h)]

theorem step_operand_literal {run : Text} {v : Float} (h : literalValue? run = some v)
    (outer : List Pending) (p : Pending) :
    step (.operand outer p) (.literal run) = .ok (p.close outer v false) := by
  show readLiteral outer p run = _
  rw [readLiteral, h]

theorem step_operator_sum (outer : List Pending) (sum : Option (Float × SumOperator)) (v : Float)
    (group : Bool) (op : SumOperator) :
    step (.operator outer sum v group) op.mark =
      .ok (.operand outer ⟨some (addTerm sum v, op), none, none⟩) := by
  cases op <;> rfl

theorem step_operator_close (here : Pending) (outer : List Pending)
    (sum : Option (Float × SumOperator)) (v : Float) (group : Bool) :
    step (.operator (here :: outer) sum v group) (.mark ')') =
      .ok (here.close outer (addTerm sum v) true) := rfl

/-- A group beside a term is read as after an operator that multiplies. -/
theorem step_operator_open (outer : List Pending) (sum : Option (Float × SumOperator)) (v : Float)
    (group : Bool) :
    step (.operator outer sum v group) (.mark '(') =
      step (.operand outer ⟨sum, some (v, .beside), none⟩) (.mark '(') := rfl

theorem step_operator_literal (outer : List Pending) (sum : Option (Float × SumOperator)) (v : Float)
    (run : Text) :
    step (.operator outer sum v true) (.literal run) =
      step (.operand outer ⟨sum, some (v, .beside), none⟩) (.literal run) := rfl

/-! ## Signs -/

/-- Whether a chain of signs negates. -/
def negates (signs : List SumOperator) : Bool := signs.count .minus % 2 = 1

theorem negates_concat (signs : List SumOperator) (sign : SumOperator) :
    negates (signs ++ [sign]) = (negates signs != (sign == .minus)) := by
  cases sign with
  | plus =>
      have hplus : (SumOperator.plus == SumOperator.minus) = false := rfl
      simp [negates, List.count_append, hplus]
  | minus =>
      have hminus : (SumOperator.minus == SumOperator.minus) = true := rfl
      rw [Bool.eq_iff_iff]
      simp only [negates, List.count_append, List.count_singleton_self, hminus, Bool.bne_true,
        Bool.not_eq_true', decide_eq_true_eq, decide_eq_false_iff_not]
      omega

/-- Signs gather before the factor. -/
theorem reach_signs (outer : List Pending) (p : Pending) (signs more : List SumOperator)
    (h : p.sign = some (negates signs)) :
    reach (.operand outer p) (more.map SumOperator.mark) =
      .ok (.operand outer { p with sign := some (negates (signs ++ more)) }) := by
  induction more generalizing p signs with
  | nil => rw [List.append_nil, ← h]; rfl
  | cons sign more ih =>
      rw [List.map_cons, reach, step_operand_sign]
      have hsign : (p.addSign (sign == .minus)).sign = some (negates (signs ++ [sign])) := by
        simp [Pending.addSign, h, negates_concat]
      show reach _ _ = _
      rw [ih _ (signs ++ [sign]) hsign, List.append_assoc]
      rfl

/-! ## The productions -/

/-- The lexemes of a primary, read where one is due. -/
def ReadsPrimary (n : Nat) (ks : List LexemeKind) (v : Float) (group : Bool) : Prop :=
  ∀ outer p, outer.length + n ≤ maxNesting →
    reach (.operand outer p) ks = .ok (p.close outer v group)

/-- The lexemes of a factor, read where one is due. -/
def ReadsFactor (n : Nat) (ks : List LexemeKind) (v : Float) (group : Bool) : Prop :=
  ∀ outer sum product, outer.length + n ≤ maxNesting →
    reach (.operand outer ⟨sum, product, none⟩) ks =
      .ok (Pending.close ⟨sum, product, none⟩ outer v group)

/-- The lexemes of a term, read where one is due. -/
def ReadsTerm (n : Nat) (ks : List LexemeKind) (v : Float) (group : Bool) : Prop :=
  ∀ outer sum, outer.length + n ≤ maxNesting →
    reach (.operand outer ⟨sum, none, none⟩) ks = .ok (.operator outer sum v group)

/-- The lexemes of an expression, read from its start. -/
def ReadsExpression (n : Nat) (ks : List LexemeKind) (v : Float) : Prop :=
  ∀ outer, outer.length + n ≤ maxNesting → ∃ sum term group,
    reach (.operand outer .start) ks = .ok (.operator outer sum term group) ∧ addTerm sum term = v

theorem ReadsTerm.expression {n : Nat} {ks : List LexemeKind} {v : Float} {group : Bool}
    (h : ReadsTerm n ks v group) : ReadsExpression n ks v :=
  fun outer hroom => ⟨none, v, group, h outer none hroom, rfl⟩

theorem ReadsExpression.sum {n : Nat} {ks ls : List LexemeKind} {v w : Float} {group : Bool}
    (op : SumOperator) (hv : ReadsExpression n ks v) (hw : ReadsTerm n ls w group) :
    ReadsExpression n (ks ++ op.mark :: ls) (op.apply v w) := by
  intro outer hroom
  obtain ⟨sum, term, flag, hreach, hsum⟩ := hv outer hroom
  refine ⟨some (v, op), w, group, ?_, rfl⟩
  rw [reach_append hreach, reach, step_operator_sum, hsum]
  exact hw outer (some (v, op)) hroom

theorem ReadsFactor.term {n : Nat} {ks : List LexemeKind} {v : Float} {group : Bool}
    (h : ReadsFactor n ks v group) : ReadsTerm n ks v group := by
  intro outer sum hroom
  rw [h outer sum none hroom]
  cases group <;> rfl

theorem ReadsTerm.times {n : Nat} {ks ls : List LexemeKind} {v w : Float} {group group' : Bool}
    (hv : ReadsTerm n ks v group) (hw : ReadsFactor n ls w group') :
    ReadsTerm n (ks ++ .mark '*' :: ls) (v * w) false := by
  intro outer sum hroom
  rw [reach_append (hv outer sum hroom)]
  show reach (.operand outer ⟨sum, some (v, .times), none⟩) ls = _
  rw [hw outer sum (some (v, .times)) hroom]
  cases group' <;> rfl

theorem ReadsTerm.dividedBy {n : Nat} {ks ls : List LexemeKind} {v w : Float}
    {group group' : Bool} (hv : ReadsTerm n ks v group) (hw : ReadsFactor n ls w group') :
    ReadsTerm n (ks ++ .mark '/' :: ls) (v / w) false := by
  intro outer sum hroom
  rw [reach_append (hv outer sum hroom)]
  show reach (.operand outer ⟨sum, some (v, .dividedBy), none⟩) ls = _
  rw [hw outer sum (some (v, .dividedBy)) hroom]
  cases group' <;> rfl

theorem exists_run_of_isPrimary {n : Nat} {ks : List LexemeKind} {v : Float}
    (h : IsPrimary n ks v false) : ∃ run, ks = [.literal run] := by
  cases h with
  | number _ => exact ⟨_, rfl⟩

theorem exists_cons_of_isPrimary {n : Nat} {ks : List LexemeKind} {v : Float}
    (h : IsPrimary n ks v true) : ∃ ls, ks = .mark '(' :: ls := by
  cases h with
  | group _ => exact ⟨_, List.cons_append⟩

/-- A group is read beside whatever term comes before it. -/
theorem ReadsTerm.besideGroup {n : Nat} {ks ls : List LexemeKind} {v w : Float} {group : Bool}
    (hv : ReadsTerm n ks v group) (hw : IsPrimary n ls w true) (hls : ReadsPrimary n ls w true) :
    ReadsTerm n (ks ++ ls) (v * w) true := by
  intro outer sum hroom
  obtain ⟨ls, rfl⟩ := exists_cons_of_isPrimary hw
  rw [reach_append (hv outer sum hroom), reach, step_operator_open]
  exact hls outer ⟨sum, some (v, .beside), none⟩ hroom

/-- A number is read beside a group. -/
theorem ReadsTerm.besideNumber {n : Nat} {ks ls : List LexemeKind} {v w : Float}
    (hv : ReadsTerm n ks v true) (hw : IsPrimary n ls w false) (hls : ReadsPrimary n ls w false) :
    ReadsTerm n (ks ++ ls) (v * w) false := by
  intro outer sum hroom
  obtain ⟨run, rfl⟩ := exists_run_of_isPrimary hw
  rw [reach_append (hv outer sum hroom), reach, step_operator_literal]
  exact hls outer ⟨sum, some (v, .beside), none⟩ hroom

theorem ReadsPrimary.factor {n : Nat} {ks : List LexemeKind} {v : Float} {group : Bool}
    (h : ReadsPrimary n ks v group) : ReadsFactor n ks v group :=
  fun outer sum product hroom => h outer ⟨sum, product, none⟩ hroom

theorem ite_negates (signs : List SumOperator) (v : Float) :
    (if some (negates signs) = some true then -v else v) = applySigns signs v := by
  simp [negates, applySigns]

/-- A factor with signs is one without, of the value under the signs. -/
theorem close_signed (sum : Option (Float × SumOperator))
    (product : Option (Float × ProductOperator)) (outer : List Pending) (signs : List SumOperator)
    (v : Float) (group : Bool) :
    Pending.close ⟨sum, product, some (negates signs)⟩ outer v group =
      Pending.close ⟨sum, product, none⟩ outer (applySigns signs v) false := by
  simp only [Pending.close, ite_negates, Option.isNone_some, Bool.and_false, Bool.false_and,
    reduceCtorEq, if_false]

theorem ReadsPrimary.signed {n : Nat} {ks : List LexemeKind} {v : Float} {group : Bool}
    (sign : SumOperator) (signs : List SumOperator) (h : ReadsPrimary n ks v group) :
    ReadsFactor n ((sign :: signs).map SumOperator.mark ++ ks) (applySigns (sign :: signs) v)
      false := by
  intro outer sum product hroom
  have hfirst : step (.operand outer ⟨sum, product, none⟩) sign.mark =
      .ok (.operand outer ⟨sum, product, some (negates [sign])⟩) := by
    cases sign <;> rfl
  have hsigns := reach_signs outer ⟨sum, product, some (negates [sign])⟩ [sign] signs rfl
  rw [List.map_cons, List.cons_append, reach, hfirst]
  show reach _ (signs.map SumOperator.mark ++ ks) = _
  rw [reach_append hsigns, h outer _ hroom]
  exact congrArg Except.ok (close_signed sum product outer (sign :: signs) v group)

theorem readsPrimary_literal {n : Nat} {run : Text} {v : Float} (h : literalValue? run = some v) :
    ReadsPrimary n [.literal run] v false := by
  intro outer p _
  rw [reach_singleton, step_operand_literal h]

theorem ReadsExpression.group {n : Nat} {ks : List LexemeKind} {v : Float}
    (h : ReadsExpression n ks v) : ReadsPrimary (n + 1) (.mark '(' :: ks ++ [.mark ')']) v true := by
  intro outer p hroom
  obtain ⟨sum, term, group, hreach, hsum⟩ := h (p :: outer) (by simp only [List.length_cons]; omega)
  rw [List.cons_append, reach, step_operand_open (by omega)]
  show reach (.operand (p :: outer) .start) (ks ++ [.mark ')']) = _
  rw [reach_append hreach, reach_singleton, step_operator_close, hsum]

/-! ## Whole derivations -/

mutual

theorem readsExpression_of_isExpression : ∀ {n ks v}, IsExpression n ks v → ReadsExpression n ks v
  | _, _, _, .term h => (readsTerm_of_isTerm h).expression
  | _, _, _, .plus hv hw =>
      (readsExpression_of_isExpression hv).sum .plus (readsTerm_of_isTerm hw)
  | _, _, _, .minus hv hw =>
      (readsExpression_of_isExpression hv).sum .minus (readsTerm_of_isTerm hw)

theorem readsTerm_of_isTerm : ∀ {n ks v group}, IsTerm n ks v group → ReadsTerm n ks v group
  | _, _, _, _, .factor h => (readsFactor_of_isFactor h).term
  | _, _, _, _, .times hv hw => (readsTerm_of_isTerm hv).times (readsFactor_of_isFactor hw)
  | _, _, _, _, .dividedBy hv hw => (readsTerm_of_isTerm hv).dividedBy (readsFactor_of_isFactor hw)
  | _, _, _, _, .besideGroup hv hw =>
      (readsTerm_of_isTerm hv).besideGroup hw (readsPrimary_of_isPrimary hw)
  | _, _, _, _, .besideNumber hv hw =>
      (readsTerm_of_isTerm hv).besideNumber hw (readsPrimary_of_isPrimary hw)

theorem readsFactor_of_isFactor : ∀ {n ks v group}, IsFactor n ks v group → ReadsFactor n ks v group
  | _, _, _, _, .primary h => (readsPrimary_of_isPrimary h).factor
  | _, _, _, _, .signed sign signs h => (readsPrimary_of_isPrimary h).signed sign signs

theorem readsPrimary_of_isPrimary :
    ∀ {n ks v group}, IsPrimary n ks v group → ReadsPrimary n ks v group
  | _, _, _, _, .number h => readsPrimary_literal (literalValue?_of_isNumber h)
  | _, _, _, _, .group h => (readsExpression_of_isExpression h).group

end

/-- **Completeness**: what a text derives is what it evaluates to. -/
theorem evaluate_of_derives {t : Text} {v : Float} (h : Derives t v) : evaluate t = .ok v := by
  obtain ⟨ks, hspells, hks⟩ := h
  obtain ⟨sum, term, group, hreach, hsum⟩ :=
    readsExpression_of_isExpression hks [] (by simp [maxNesting])
  exact (evaluate_eq_ok_iff hspells).mpr ⟨_, hreach, congrArg Except.ok hsum⟩

end FormulaPad.Arithmetic
