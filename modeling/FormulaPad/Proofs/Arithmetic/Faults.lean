import FormulaPad.Proofs.Arithmetic.Complete

/-!
# FormulaPad.Proofs.Arithmetic.Faults

Where the evaluator reports a fault: at the first character with which no
expression goes on.

Up to there an expression does go on. From every state some lexemes lead to the
end of an expression (`exists_reach_finish`): a number if an operand is due, and
then a closing mark for every group that is open. What comes after the first
character of a faulty lexeme cannot mend it, because a state either reads all
literals as numbers or rejects them all (`step_literal_cases`); a run that is no
number is the one fault that a different end of the same lexeme would have
avoided. Main statement: `pinpoints_of_evaluate`.
-/

namespace FormulaPad.Arithmetic

open Text

/-! ## Lexemes in a text -/

def LexemeKind.text : LexemeKind → Text
  | literal run => run
  | mark c => [c]

/-- Between the two texts stand digits and points, and no more of them on either side. -/
structure IsMaximalRun (before run after : Text) : Prop where
  ne_nil : run ≠ []
  isLiteral : ∀ c ∈ run, isLiteralChar c = true
  starts : ∀ c ∈ before.getLast?, isLiteralChar c = false
  ends : ∀ c ∈ after.head?, isLiteralChar c = false

/-- Between the two texts this is a lexeme. -/
def LexemeKind.Stands (before after : Text) : LexemeKind → Prop
  | literal run => IsMaximalRun before run after
  | mark c => isBlank c = false ∧ isLiteralChar c = false

/-- The lexeme stands in the text after lexemes of these kinds. The text starts at `offset`. -/
def StandsAfter (offset : Nat) (t : Text) (ks : List LexemeKind) (l : Lexeme) : Prop :=
  ∃ before after, t = before ++ (l.kind.text ++ after) ∧ l.offset = offset + byteLength before ∧
    Spells before ks ∧ l.kind.Stands before after

theorem LexemeKind.Stands.prepend {k : LexemeKind} {t before after : Text}
    (h : k.Stands before after) (hapart : Apart t (before ++ (k.text ++ after))) :
    k.Stands (t ++ before) after := by
  cases k with
  | mark c => exact h
  | literal run =>
      refine { h with starts := fun c hc => ?_ }
      by_cases hnil : before = []
      · obtain ⟨d, run, rfl⟩ := List.exists_cons_of_ne_nil h.ne_nil
        rw [hnil] at hapart hc
        rcases hapart with hlast | hhead
        · exact hlast c (by rwa [List.append_nil] at hc)
        · have hd := hhead d rfl
          rw [h.isLiteral d List.mem_cons_self] at hd
          cases hd
      · rw [List.getLast?_append_of_ne_nil t hnil] at hc
        exact h.starts c hc

/-- What stands in a text stands in it also when another text comes first. -/
theorem StandsAfter.prepend {offset : Nat} {t u : Text} {ks ls : List LexemeKind} {l : Lexeme}
    (ht : Spells t ks) (hapart : Apart t u) (h : StandsAfter (offset + byteLength t) u ls l) :
    StandsAfter offset (t ++ u) (ks ++ ls) l := by
  obtain ⟨before, after, rfl, hoffset, hbefore, hstands⟩ := h
  have hleft : Apart t before :=
    hapart.imp_right fun h c hc => h c (List.mem_head?_append_of_mem_head? hc)
  refine ⟨t ++ before, after, (List.append_assoc _ _ _).symm, ?_, ht.append hbefore hleft,
    hstands.prepend hapart⟩
  rw [hoffset, byteLength_append, Nat.add_assoc]

/-- Every lexeme that is read stands in the text, after those that are read before it. -/
theorem standsAfter_of_lexemes {offset : Nat} {t : Text} {xs ys : List Lexeme} {l : Lexeme}
    (h : lexemes offset t = xs ++ l :: ys) : StandsAfter offset t (xs.map Lexeme.kind) l := by
  fun_induction lexemes offset t generalizing xs with
  | case1 => simp at h
  | case2 offset c t hblank ih =>
      have hc : isLiteralChar c = false := by
        cases hlit : isLiteralChar c with
        | false => rfl
        | true => rw [isBlank_of_isLiteralChar hlit] at hblank; cases hblank
      exact (ih h).prepend (t := [c]) (.blank hblank .nil) (.inl (by simpa using hc))
  | case3 offset c t hblank hlit run =>
      rename_i ih
      have hsplit : c :: t = run ++ t.dropWhile isLiteralChar := by
        rw [List.cons_append, List.takeWhile_append_dropWhile]
      have hrun : ∀ d ∈ run, isLiteralChar d = true :=
        List.forall_mem_cons.mpr ⟨hlit, fun _ => List.mem_takeWhile_imp⟩
      rw [hsplit]
      cases xs with
      | nil =>
          obtain ⟨rfl, -⟩ := List.cons.inj h
          exact ⟨[], t.dropWhile isLiteralChar, rfl, rfl, .nil,
            ⟨List.cons_ne_nil _ _, hrun, by simp, head?_dropWhile t⟩⟩
      | cons x xs =>
          obtain ⟨rfl, hrest⟩ := List.cons.inj h
          have hspells := Spells.literal (List.cons_ne_nil _ _) hrun (t := []) (by simp) .nil
          rw [List.append_nil] at hspells
          exact (ih hrest).prepend hspells (.inr (head?_dropWhile t))
  | case4 offset c t hblank hlit ih =>
      have hc : isBlank c = false ∧ isLiteralChar c = false := by simpa using And.intro hblank hlit
      cases xs with
      | nil =>
          obtain ⟨rfl, -⟩ := List.cons.inj h
          exact ⟨[], t, rfl, rfl, .nil, hc⟩
      | cons x xs =>
          obtain ⟨rfl, hrest⟩ := List.cons.inj h
          exact (ih hrest).prepend (t := [c]) (.mark hc.1 hc.2 .nil) (.inl (by simpa using hc.2))

/-- What is not blank begins a lexeme. -/
theorem exists_cons_spells {c : Char} (hblank : isBlank c = false) (t : Text) :
    ∃ k ks, Spells (c :: t) (k :: ks) ∧
      (isLiteralChar c = false ∧ k = .mark c ∨ isLiteralChar c = true ∧ ∃ run, k = .literal run) := by
  have hspells := spells_lexemes 0 (c :: t)
  rw [lexemes_cons, if_neg (by simp [hblank])] at hspells
  cases hlit : isLiteralChar c with
  | false =>
      rw [if_neg (by simp [hlit])] at hspells
      exact ⟨_, _, hspells, .inl ⟨rfl, rfl⟩⟩
  | true =>
      rw [if_pos hlit] at hspells
      exact ⟨_, _, hspells, .inr ⟨rfl, _, rfl⟩⟩

/-! ## Reaching the end -/

theorem exists_close_eq (p : Pending) (outer : List Pending) (v : Float) (group : Bool) :
    ∃ sum term flag, p.close outer v group = .operator outer sum term flag := by
  unfold Pending.close
  dsimp only
  split
  · exact ⟨_, _, _, rfl⟩
  · exact ⟨_, _, _, rfl⟩

/-- The groups that are open can be closed. -/
theorem reach_closing (outer : List Pending) (sum : Option (Float × SumOperator)) (term : Float)
    (group : Bool) : ∃ s v,
      reach (.operator outer sum term group) (List.replicate outer.length (.mark ')')) = .ok s ∧
        finish s = .ok v := by
  induction outer generalizing sum term group with
  | nil => exact ⟨_, _, rfl, rfl⟩
  | cons here outer ih =>
      obtain ⟨sum', term', flag, hclose⟩ := exists_close_eq here outer (addTerm sum term) true
      obtain ⟨s, v, hreach, hfinish⟩ := ih sum' term' flag
      refine ⟨s, v, ?_, hfinish⟩
      rw [List.length_cons, List.replicate_succ, reach, step_operator_close, hclose]
      exact hreach

theorem spells_closing (n : Nat) :
    Spells (List.replicate n ')') (List.replicate n (.mark ')')) := by
  induction n with
  | zero => exact .nil
  | succ n ih => exact .mark (by decide) (by decide) ih

theorem isNumber_one : IsNumber ['1'] :=
  (literalValue?_digits (List.cons_ne_nil _ _) (by simp)).1

/-- From every state an expression can be brought to its end. -/
theorem exists_reach_finish (s : State) :
    ∃ t ks, Spells t ks ∧ ∃ u v, reach s ks = .ok u ∧ finish u = .ok v := by
  cases s with
  | operator outer sum term group =>
      exact ⟨_, _, spells_closing outer.length, reach_closing outer sum term group⟩
  | operand outer here =>
      obtain ⟨sum, term, flag, hclose⟩ := exists_close_eq here outer (numberValue ['1']) false
      refine ⟨['1'] ++ List.replicate outer.length ')', _,
        .literal (List.cons_ne_nil _ _) isNumber_one.isLiteral ?_ (spells_closing outer.length), ?_⟩
      · cases outer with
        | nil => simp
        | cons here outer => simp [List.replicate_succ, isFigure]
      · obtain ⟨u, v, hreach, hfinish⟩ := reach_closing outer sum term flag
        refine ⟨u, v, ?_, hfinish⟩
        rw [reach, step_operand_literal (literalValue?_of_isNumber isNumber_one), hclose]
        exact hreach

variable {t before after : Text} {ks : List LexemeKind} {s : State} {k : LexemeKind} {fault : Fault}

/-- What has been read without a fault begins an expression. -/
theorem exists_evaluate_append (hks : Spells before ks)
    (hs : reach (.operand [] .start) ks = .ok s) : ∃ more v, evaluate (before ++ more) = .ok v := by
  obtain ⟨more, ls, hmore, u, v, hreach, hfinish⟩ := exists_reach_finish s
  -- a blank keeps a literal at the end of `before` from going on
  have hspells : Spells (before ++ ' ' :: more) (ks ++ ls) :=
    hks.append (.blank (by decide) hmore) (.inr (by simp [isLiteralChar]))
  refine ⟨' ' :: more, v, (evaluate_eq_ok_iff hspells).mpr ⟨u, ?_, hfinish⟩⟩
  rw [reach_append hs, hreach]

/-! ## Faulty lexemes -/

/-- A state reads every literal as a number, or rejects every literal. -/
theorem step_literal_cases (s : State) :
    (∃ outer here, ∀ run, step s (.literal run) = readLiteral outer here run) ∨
      ∃ outer, ∀ run, step s (.literal run) = .error (stray outer (run.headD '.')) := by
  cases s with
  | operand outer here => exact .inl ⟨outer, here, fun _ => rfl⟩
  | operator outer sum term group =>
      cases group with
      | true => exact .inl ⟨outer, ⟨sum, some (term, .beside), none⟩, fun _ => rfl⟩
      | false => exact .inr ⟨outer, fun _ => rfl⟩

theorem stray_ne_invalidNumber (outer : List Pending) (c : Char) (run : Text) :
    stray outer c ≠ .invalidNumber run := by
  cases outer <;> simp [stray]

theorem readLiteral_eq_error {outer : List Pending} {here : Pending} {run : Text}
    (h : readLiteral outer here run = .error fault) :
    fault = .invalidNumber run ∧ literalValue? run = none := by
  rw [readLiteral] at h
  split at h
  · next hnone => exact ⟨(Except.error.inj h).symm, hnone⟩
  · cases h

/-- A literal that is rejected, other than for being no number, would be rejected however it went
on. -/
theorem step_literal_eq_error {run : Text} (h : step s (.literal run) = .error fault) :
    fault = .invalidNumber run ∧ literalValue? run = none ∨
      (∀ run', fault ≠ .invalidNumber run') ∧ ∀ run' u, step s (.literal run') ≠ .ok u := by
  rcases step_literal_cases s with ⟨outer, here, hread⟩ | ⟨outer, hstray⟩
  · exact .inl (readLiteral_eq_error ((hread run).symm.trans h))
  · rw [hstray] at h
    obtain rfl := Except.error.inj h
    exact .inr ⟨stray_ne_invalidNumber outer _, fun run' u => by rw [hstray]; simp⟩

theorem openGroup_ne_invalidNumber (outer : List Pending) (here : Pending) (run : Text) :
    openGroup outer here ≠ .error (.invalidNumber run) := by
  rw [openGroup]
  split <;> simp

theorem step_mark_ne_invalidNumber (s : State) (c : Char) (run : Text) :
    step s (.mark c) ≠ .error (.invalidNumber run) := by
  cases s with
  | operand outer here =>
      simp only [step, stepOperand]
      split_ifs
      · simp
      · exact openGroup_ne_invalidNumber _ _ _
      · simp
  | operator outer sum term group =>
      simp only [step, stepOperator]
      split_ifs
      · simp
      · simp
      · simp
      · simp
      · exact openGroup_ne_invalidNumber _ _ _
      · cases outer <;> simp
      · cases outer <;> simp

/-- Only a literal is rejected for being no number. -/
theorem eq_literal_of_step {run : Text} (h : step s k = .error (.invalidNumber run)) :
    k = .literal run ∧ literalValue? run = none := by
  cases k with
  | mark c => exact absurd h (step_mark_ne_invalidNumber s c run)
  | literal run' =>
      rcases step_literal_eq_error h with ⟨hfault, hnone⟩ | ⟨hne, -⟩
      · obtain rfl := Fault.invalidNumber.inj hfault
        exact ⟨rfl, hnone⟩
      · exact absurd rfl (hne run)

/-- No expression goes on with the first character of a faulty lexeme, unless the lexeme is only no
number. -/
theorem evaluate_ne_ok_of_step (hks : Spells before ks)
    (hs : reach (.operand [] .start) ks = .ok s) (hk : k.Stands before after)
    (hstep : step s k = .error fault) (hfault : ∀ run, fault ≠ .invalidNumber run) {c : Char}
    (hc : c ∈ k.text.head?) (more : Text) (v : Float) : evaluate (before ++ c :: more) ≠ .ok v := by
  have hrejected {k' : LexemeKind} {ls : List LexemeKind} (hspells : Spells (c :: more) (k' :: ls))
      (hapart : Apart before (c :: more)) (hno : ∀ u, step s k' ≠ .ok u) :
      evaluate (before ++ c :: more) ≠ .ok v := by
    rw [ne_eq, evaluate_eq_ok_iff (hks.append hspells hapart)]
    rintro ⟨u, hreach, -⟩
    rw [reach_append hs, reach] at hreach
    split at hreach
    · next hok => exact hno _ hok
    · cases hreach
  cases k with
  | mark d =>
      obtain rfl : d = c := by simpa [LexemeKind.text] using hc
      obtain ⟨hblank, hlit⟩ := hk
      exact hrejected (.mark hblank hlit (spells_lexemes 0 more)) (.inr (by simp [hlit]))
        (by simp [hstep])
  | literal run =>
      have hlit : isLiteralChar c = true := hk.isLiteral c (List.mem_of_mem_head? hc)
      obtain ⟨k', ls, hspells, ⟨hno, -⟩ | ⟨-, run', rfl⟩⟩ :=
        exists_cons_spells (isBlank_of_isLiteralChar hlit) more
      · rw [hlit] at hno; cases hno
      · rcases step_literal_eq_error hstep with ⟨hinvalid, -⟩ | ⟨-, hno⟩
        · exact absurd hinvalid (hfault run)
        · exact hrejected hspells (.inl hk.starts) (hno run')

/-! ## Errors of a whole text -/

theorem run_eq_error {ls : List Lexeme} {e : SyntaxError} (h : run s ls = .error e) :
    ∃ xs l ys u, ls = xs ++ l :: ys ∧ reach s (xs.map Lexeme.kind) = .ok u ∧
      step u l.kind = .error e.fault ∧ e.offset = l.offset := by
  induction ls generalizing s with
  | nil => cases h
  | cons l ls ih =>
      rw [run] at h
      split at h
      · next u hstep =>
          obtain ⟨xs, l', ys, u', rfl, hreach, hfault, hoffset⟩ := ih h
          refine ⟨l :: xs, l', ys, u', rfl, ?_, hfault, hoffset⟩
          rw [List.map_cons, reach, hstep]
          exact hreach
      · next fault hstep =>
          obtain rfl := Except.error.inj h
          exact ⟨[], l, ls, s, rfl, rfl, hstep, rfl⟩

/-- Before the place of an error all has been read without a fault. There the text is at its end, or
goes on with a lexeme that is faulty. -/
theorem exists_of_evaluate_eq_error {e : SyntaxError} (h : evaluate t = .error e) :
    ∃ before after ks s, t = before ++ after ∧ e.offset = byteLength before ∧ Spells before ks ∧
      reach (.operand [] .start) ks = .ok s ∧
      (after = [] ∧ finish s = .error e.fault ∨
        ∃ k rest, after = k.text ++ rest ∧ k.Stands before rest ∧ step s k = .error e.fault) := by
  rw [evaluate] at h
  split at h
  · next s hrun =>
      cases hfinish : finish s with
      | ok v => rw [hfinish] at h; cases h
      | error fault =>
          rw [hfinish] at h
          obtain rfl := Except.error.inj h
          exact ⟨t, [], _, s, (List.append_nil t).symm, rfl, spells_lexemes 0 t,
            run_eq_ok_iff.mp hrun, .inl ⟨rfl, hfinish⟩⟩
  · next e' hrun =>
      obtain rfl := Except.error.inj h
      obtain ⟨xs, l, ys, s, hsplit, hreach, hstep, hoffset⟩ := run_eq_error hrun
      obtain ⟨before, rest, rfl, hbytes, hbefore, hstands⟩ := standsAfter_of_lexemes hsplit
      rw [Nat.zero_add] at hbytes
      exact ⟨before, l.kind.text ++ rest, _, s, rfl, hoffset.trans hbytes, hbefore, hreach,
        .inr ⟨l.kind, rest, rfl, hstands, hstep⟩⟩

theorem finish_ne_invalidNumber (s : State) (run : Text) :
    finish s ≠ .error (.invalidNumber run) := by
  match s with
  | .operand _ _ => simp [finish]
  | .operator [] _ _ _ => simp [finish]
  | .operator (_ :: _) _ _ _ => simp [finish]

/-- The error points at the first character with which no expression goes on, or at the run of
digits and points that is no number. -/
structure Pinpoints (t : Text) (e : SyntaxError) : Prop where
  isBoundary : isBoundary t e.offset = true
  offset_le : e.offset ≤ byteLength t
  /-- The text before the offset begins an expression. -/
  goesOn : ∃ more v, evaluate (takeBytes e.offset t ++ more) = .ok v
  /-- With the character at the offset it does not. -/
  breaksOff : (∀ run, e.fault ≠ .invalidNumber run) → ∀ c ∈ (dropBytes e.offset t).head?,
    ∀ more v, evaluate (takeBytes e.offset t ++ c :: more) ≠ .ok v
  /-- What is no number starts at the offset and goes on as long as it can. -/
  invalidRun : ∀ run, e.fault = .invalidNumber run → ¬ IsNumber run ∧
    ∃ rest, dropBytes e.offset t = run ++ rest ∧ IsMaximalRun (takeBytes e.offset t) run rest

/-- Every error pinpoints its fault. -/
theorem pinpoints_of_evaluate {t : Text} {e : SyntaxError} (h : evaluate t = .error e) :
    Pinpoints t e := by
  obtain ⟨before, after, ks, s, rfl, hoffset, hks, hs, hfault⟩ := exists_of_evaluate_eq_error h
  have htake : takeBytes e.offset (before ++ after) = before := by
    rw [hoffset, takeBytes_byteLength_append]
  have hdrop : dropBytes e.offset (before ++ after) = after := by
    rw [hoffset, dropBytes_byteLength_append]
  refine ⟨?_, ?_, ?_, ?_, ?_⟩
  · rw [hoffset, isBoundary_byteLength_append]
  · rw [hoffset, byteLength_append]
    exact Nat.le_add_right _ _
  · rw [htake]
    exact exists_evaluate_append hks hs
  · rw [htake, hdrop]
    intro hvalid c hc
    rcases hfault with ⟨rfl, -⟩ | ⟨k, rest, rfl, hk, hstep⟩
    · cases hc
    · refine evaluate_ne_ok_of_step hks hs hk hstep hvalid ?_
      cases k with
      | mark d => exact hc
      | literal run =>
          obtain ⟨d, run, rfl⟩ := List.exists_cons_of_ne_nil hk.ne_nil
          exact hc
  · rw [htake, hdrop]
    intro run hinvalid
    rw [hinvalid] at hfault
    rcases hfault with ⟨-, hfinish⟩ | ⟨k, rest, rfl, hk, hstep⟩
    · exact absurd hfinish (finish_ne_invalidNumber s run)
    · obtain ⟨rfl, hnone⟩ := eq_literal_of_step hstep
      refine ⟨fun hnumber => ?_, rest, rfl, hk⟩
      rw [literalValue?_of_isNumber hnumber] at hnone
      cases hnone

/-- A foreign character in a group that is still open, after a blank of two bytes. -/
theorem pinpoints_of_evaluate_foreign :
    evaluate "(1 +\u00a0é)".toList = .error ⟨6, .unexpected 'é'⟩ ∧
      Pinpoints "(1 +\u00a0é)".toList ⟨6, .unexpected 'é'⟩ := by
  have h : evaluate "(1 +\u00a0é)".toList = .error ⟨6, .unexpected 'é'⟩ := by decide +kernel
  exact ⟨h, pinpoints_of_evaluate h⟩

end FormulaPad.Arithmetic
