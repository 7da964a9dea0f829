import FormulaPad.Proofs.Arithmetic.Complete

/-!
# FormulaPad.Proofs.Arithmetic.Sound

What the evaluator accepts is derived, with the value that it gives.

`Reads s ks` says what the lexemes read so far have to do with the state: the
terms added up so far are an expression, the factors multiplied so far a term,
and so on for every group that is open. A step keeps this (`Reads.step`), hence
a run does (`Reads.reach`), and in a state in which the expression may end it is
a derivation of the whole. With the converse of `Arithmetic.Complete` the texts
that are accepted are exactly the derivable ones (`evaluate_eq_ok_iff_derives`).
-/

namespace FormulaPad.Arithmetic

/-! ## What has been read -/

/-- The terms before the current one, with the operator after them. -/
inductive SumRead (n : Nat) : Option (Float × SumOperator) → List LexemeKind → Prop
  | start : SumRead n none []
  | more {ks v} (op : SumOperator) : IsExpression n ks v → SumRead n (some (v, op)) (ks ++ [op.mark])

/-- The factors before the current one, with the operator after them. -/
inductive ProductRead (n : Nat) : Option (Float × ProductOperator) → List LexemeKind → Prop
  | start : ProductRead n none []
  | times {ks v group} : IsTerm n ks v group → ProductRead n (some (v, .times)) (ks ++ [.mark '*'])
  | dividedBy {ks v group} : IsTerm n ks v group →
      ProductRead n (some (v, .dividedBy)) (ks ++ [.mark '/'])

/-- The signs of the current factor. -/
inductive SignRead : Option Bool → List LexemeKind → Prop
  | unsigned : SignRead none []
  | signed (sign : SumOperator) (signs : List SumOperator) :
      SignRead (some (negates (sign :: signs))) ((sign :: signs).map SumOperator.mark)

/-- An expression that breaks off where a factor or the rest of its signs are due. -/
inductive DueRead (n : Nat) : Pending → List LexemeKind → Prop
  | mk {sum product sign as bs cs} : SumRead n sum as → ProductRead n product bs →
      SignRead sign cs → DueRead n ⟨sum, product, sign⟩ (as ++ (bs ++ cs))

/-- An expression that breaks off where a group has been opened, possibly beside a term. -/
inductive OpenRead (n : Nat) : Pending → List LexemeKind → Prop
  | due {p ks} : DueRead n p ks → OpenRead n p ks
  | beside {sum v group as bs} : SumRead n sum as → IsTerm n bs v group →
      OpenRead n ⟨sum, some (v, .beside), none⟩ (as ++ bs)

/-- The groups that are open. Each leaves room for one level less. -/
inductive OuterRead : List Pending → List LexemeKind → Prop
  | nil : OuterRead [] []
  | cons {outer here ks ls} : outer.length < maxNesting → OuterRead outer ks →
      OpenRead (maxNesting - outer.length) here ls →
      OuterRead (here :: outer) (ks ++ ls ++ [.mark '('])

/-- `Reads s ks`: the lexemes `ks` have led to the state `s`. -/
inductive Reads : State → List LexemeKind → Prop
  | operand {outer here ks ls} : OuterRead outer ks → DueRead (maxNesting - outer.length) here ls →
      Reads (.operand outer here) (ks ++ ls)
  | operator {outer sum term group ks as bs} : OuterRead outer ks →
      SumRead (maxNesting - outer.length) sum as → IsTerm (maxNesting - outer.length) bs term group →
      Reads (.operator outer sum term group) (ks ++ (as ++ bs))

theorem OuterRead.length_le {outer : List Pending} {ks : List LexemeKind} (h : OuterRead outer ks) :
    outer.length ≤ maxNesting := by
  cases h with
  | nil => exact Nat.zero_le _
  | cons hlt _ _ => exact hlt

theorem dueRead_start (n : Nat) : DueRead n .start [] := .mk .start .start .unsigned

/-! ## Ends of factors, terms and expressions -/

theorem times_ne_beside : (ProductOperator.times == ProductOperator.beside) = false := rfl

theorem dividedBy_ne_beside : (ProductOperator.dividedBy == ProductOperator.beside) = false := rfl

theorem SignRead.isFactor {n : Nat} {sign : Option Bool} {cs ks : List LexemeKind} {v : Float}
    {group : Bool} (h : SignRead sign cs) (hv : IsPrimary n ks v group) :
    IsFactor n (cs ++ ks) (if sign = some true then -v else v) (group && sign.isNone) := by
  cases h with
  | unsigned => simpa using IsFactor.primary hv
  | signed sign signs =>
      rw [ite_negates, Option.isNone_some, Bool.and_false]
      exact .signed sign signs hv

theorem SumRead.isExpression {n : Nat} {sum : Option (Float × SumOperator)}
    {as bs : List LexemeKind} {term : Float} {group : Bool} (h : SumRead n sum as)
    (hterm : IsTerm n bs term group) : IsExpression n (as ++ bs) (addTerm sum term) := by
  cases h with
  | start => exact .term hterm
  | more op hsum =>
      rw [List.append_assoc, List.singleton_append]
      cases op with
      | plus => exact .plus hsum hterm
      | minus => exact .minus hsum hterm

/-- Where a primary is due and one follows, the term goes on. -/
theorem DueRead.close {outer : List Pending} {p : Pending} {ks ls ps : List LexemeKind} {v : Float}
    {group : Bool} (houter : OuterRead outer ks) (h : DueRead (maxNesting - outer.length) p ls)
    (hv : IsPrimary (maxNesting - outer.length) ps v group) :
    Reads (p.close outer v group) (ks ++ ls ++ ps) := by
  obtain ⟨hsum, hproduct, hsign⟩ := h
  have hfactor := hsign.isFactor hv
  simp only [List.append_assoc]
  cases hproduct with
  | start => exact .operator houter hsum (.factor hfactor)
  | times hterm =>
      have hclose := Reads.operator houter hsum (.times hterm hfactor)
      simpa [Pending.close, ProductOperator.apply, times_ne_beside] using hclose
  | dividedBy hterm =>
      have hclose := Reads.operator houter hsum (.dividedBy hterm hfactor)
      simpa [Pending.close, ProductOperator.apply, dividedBy_ne_beside] using hclose

/-- A group that has been opened and is now closed ends a primary. -/
theorem OpenRead.close {outer : List Pending} {p : Pending} {ks ls ps : List LexemeKind} {v : Float}
    (houter : OuterRead outer ks) (h : OpenRead (maxNesting - outer.length) p ls)
    (hv : IsPrimary (maxNesting - outer.length) ps v true) :
    Reads (p.close outer v true) (ks ++ ls ++ ps) := by
  cases h with
  | due h => exact h.close houter hv
  | beside hsum hterm =>
      have hclose := Reads.operator houter hsum (.besideGroup hterm hv)
      simp only [List.append_assoc] at hclose ⊢
      exact hclose

/-! ## Steps -/

theorem readLiteral_eq_ok {outer : List Pending} {p : Pending} {run : Text} {t : State}
    (hrun : ∀ c ∈ run, isLiteralChar c = true) (h : readLiteral outer p run = .ok t) :
    IsNumber run ∧ t = p.close outer (numberValue run) false := by
  rw [readLiteral] at h
  cases hv : literalValue? run with
  | none => rw [hv] at h; contradiction
  | some v =>
      rw [hv] at h
      obtain ⟨hnumber, rfl⟩ := (literalValue?_eq_some_iff hrun).mp hv
      exact ⟨hnumber, (Except.ok.inj h).symm⟩

theorem reads_openGroup {outer : List Pending} {p : Pending} {ks ls : List LexemeKind} {t : State}
    (houter : OuterRead outer ks) (hp : OpenRead (maxNesting - outer.length) p ls)
    (h : openGroup outer p = .ok t) : Reads t (ks ++ ls ++ [.mark '(']) := by
  rw [openGroup] at h
  by_cases hfull : outer.length = maxNesting
  · rw [if_pos hfull] at h; contradiction
  · rw [if_neg hfull] at h
    obtain rfl := Except.ok.inj h
    have hlt : outer.length < maxNesting := Nat.lt_of_le_of_ne houter.length_le hfull
    simpa using Reads.operand (.cons hlt houter hp) (dueRead_start _)

theorem SignRead.concat {n : Option Bool} {cs : List LexemeKind} (h : SignRead n cs)
    (sign : SumOperator) :
    SignRead (some (n.getD false != (sign == .minus))) (cs ++ [sign.mark]) := by
  cases h with
  | unsigned =>
      have hone : (false != (sign == SumOperator.minus)) = negates [sign] := by cases sign <;> rfl
      rw [Option.getD_none, hone]
      exact .signed sign []
  | signed first signs =>
      rw [Option.getD_some, ← negates_concat, ← List.map_singleton, ← List.map_append]
      exact .signed first (signs ++ [sign])

theorem DueRead.addSign {n : Nat} {p : Pending} {ks : List LexemeKind} (h : DueRead n p ks)
    (sign : SumOperator) : DueRead n (p.addSign (sign == .minus)) (ks ++ [sign.mark]) := by
  obtain ⟨hsum, hproduct, hsign⟩ := h
  rw [List.append_assoc, List.append_assoc]
  exact .mk hsum hproduct (hsign.concat sign)

theorem reads_stepOperand {outer : List Pending} {here : Pending} {ks ls : List LexemeKind}
    {k : LexemeKind} {t : State} (houter : OuterRead outer ks)
    (hdue : DueRead (maxNesting - outer.length) here ls)
    (hk : ∀ run, k = .literal run → ∀ c ∈ run, isLiteralChar c = true)
    (h : stepOperand outer here k = .ok t) : Reads t (ks ++ ls ++ [k]) := by
  cases k with
  | literal run =>
      obtain ⟨hnumber, rfl⟩ := readLiteral_eq_ok (hk run rfl) h
      exact hdue.close houter (.number hnumber)
  | mark c =>
      simp only [stepOperand] at h
      by_cases hplus : c = '+'
      · subst hplus
        obtain rfl := Except.ok.inj h
        rw [List.append_assoc]
        exact .operand houter (hdue.addSign .plus)
      by_cases hminus : c = '-'
      · subst hminus
        obtain rfl := Except.ok.inj h
        rw [List.append_assoc]
        exact .operand houter (hdue.addSign .minus)
      by_cases hopen : c = '('
      · subst hopen
        exact reads_openGroup houter (.due hdue) h
      · simp [hplus, hminus, hopen] at h

/-- An operator after a term asks for the next factor, or for the next term. -/
theorem reads_operand_of_operator {outer : List Pending} {sum : Option (Float × SumOperator)}
    {product : Option (Float × ProductOperator)} {ks as bs : List LexemeKind} {c : Char}
    (houter : OuterRead outer ks) (hsum : SumRead (maxNesting - outer.length) sum as)
    (hproduct : ProductRead (maxNesting - outer.length) product (bs ++ [.mark c])) :
    Reads (.operand outer ⟨sum, product, none⟩) (ks ++ (as ++ bs) ++ [.mark c]) := by
  simpa using Reads.operand houter (.mk hsum hproduct .unsigned)

theorem reads_operand_of_sum {outer : List Pending} {ks as bs : List LexemeKind} {v : Float}
    (op : SumOperator) (houter : OuterRead outer ks)
    (hexpr : IsExpression (maxNesting - outer.length) (as ++ bs) v) :
    Reads (.operand outer ⟨some (v, op), none, none⟩) (ks ++ (as ++ bs) ++ [op.mark]) := by
  simpa using Reads.operand houter (.mk (.more op hexpr) .start .unsigned)

/-- A closing mark makes a primary of the innermost group. -/
theorem reads_close {outer : List Pending} {here : Pending} {ks ls : List LexemeKind} {v : Float}
    (houter : OuterRead (here :: outer) ks)
    (hexpr : IsExpression (maxNesting - (here :: outer).length) ls v) :
    Reads (here.close outer v true) (ks ++ ls ++ [.mark ')']) := by
  cases houter with
  | @cons _ _ ks bs hlt houter hopen =>
      have hroom : maxNesting - outer.length = maxNesting - (here :: outer).length + 1 := by
        simp only [List.length_cons]; omega
      have hgroup : IsPrimary (maxNesting - outer.length) (.mark '(' :: ls ++ [.mark ')']) v true := by
        rw [hroom]; exact .group hexpr
      simpa using hopen.close houter hgroup

theorem reads_stepOperator {outer : List Pending} {sum : Option (Float × SumOperator)} {term : Float}
    {group : Bool} {ks as bs : List LexemeKind} {k : LexemeKind} {t : State}
    (houter : OuterRead outer ks) (hsum : SumRead (maxNesting - outer.length) sum as)
    (hterm : IsTerm (maxNesting - outer.length) bs term group)
    (hk : ∀ run, k = .literal run → ∀ c ∈ run, isLiteralChar c = true)
    (h : stepOperator outer sum term group k = .ok t) : Reads t (ks ++ (as ++ bs) ++ [k]) := by
  cases k with
  | literal run =>
      cases group with
      | false => simp [stepOperator] at h
      | true =>
          obtain ⟨hnumber, rfl⟩ := readLiteral_eq_ok (hk run rfl) h
          have hclose := Reads.operator houter hsum (.besideNumber hterm (.number hnumber))
          simp only [List.append_assoc] at hclose ⊢
          exact hclose
  | mark c =>
      simp only [stepOperator] at h
      by_cases hplus : c = '+'
      · subst hplus
        obtain rfl := Except.ok.inj h
        exact reads_operand_of_sum .plus houter (hsum.isExpression hterm)
      by_cases hminus : c = '-'
      · subst hminus
        obtain rfl := Except.ok.inj h
        exact reads_operand_of_sum .minus houter (hsum.isExpression hterm)
      by_cases htimes : c = '*'
      · subst htimes
        obtain rfl := Except.ok.inj h
        exact reads_operand_of_operator houter hsum (.times hterm)
      by_cases hdiv : c = '/'
      · subst hdiv
        obtain rfl := Except.ok.inj h
        exact reads_operand_of_operator houter hsum (.dividedBy hterm)
      by_cases hopen : c = '('
      · subst hopen
        exact reads_openGroup houter (.beside hsum hterm) h
      cases outer with
      | nil => simp [hplus, hminus, htimes, hdiv, hopen] at h
      | cons here outer =>
          by_cases hclose : c = ')'
          · subst hclose
            obtain rfl := Except.ok.inj h
            exact reads_close houter (hsum.isExpression hterm)
          · simp [hplus, hminus, htimes, hdiv, hopen, hclose] at h

/-- One more lexeme. -/
theorem Reads.step {s t : State} {ks : List LexemeKind} {k : LexemeKind} (hs : Reads s ks)
    (hk : ∀ run, k = .literal run → ∀ c ∈ run, isLiteralChar c = true)
    (h : Arithmetic.step s k = .ok t) : Reads t (ks ++ [k]) := by
  cases hs with
  | operand houter hdue => exact reads_stepOperand houter hdue hk h
  | operator houter hsum hterm => exact reads_stepOperator houter hsum hterm hk h

/-! ## Runs -/

theorem Reads.reach {s t : State} {ks ls : List LexemeKind} (hs : Reads s ks)
    (hls : ∀ run, .literal run ∈ ls → ∀ c ∈ run, isLiteralChar c = true)
    (h : Arithmetic.reach s ls = .ok t) : Reads t (ks ++ ls) := by
  induction ls generalizing s ks with
  | nil =>
      obtain rfl := Except.ok.inj h
      rwa [List.append_nil]
  | cons k ls ih =>
      simp only [Arithmetic.reach] at h
      cases hstep : Arithmetic.step s k with
      | error fault => rw [hstep] at h; contradiction
      | ok u =>
          rw [hstep] at h
          have hu := hs.step (fun run hr => hls run (hr ▸ List.mem_cons_self)) hstep
          have := ih hu (fun run hr => hls run (List.mem_cons_of_mem k hr)) h
          rwa [List.append_assoc, List.singleton_append] at this

theorem reads_start : Reads (.operand [] .start) [] := .operand .nil (dueRead_start _)

/-- A state in which the expression may end has read an expression. -/
theorem Reads.finish {s : State} {ks : List LexemeKind} {v : Float} (hs : Reads s ks)
    (h : Arithmetic.finish s = .ok v) : IsExpression maxNesting ks v := by
  cases hs with
  | operand _ _ => simp [Arithmetic.finish] at h
  | @operator outer sum term group ks as bs houter hsum hterm =>
      cases outer with
      | cons here outer => simp [Arithmetic.finish] at h
      | nil =>
          obtain rfl := Except.ok.inj h
          cases houter
          exact hsum.isExpression hterm

/-- **Soundness**: the value of a text is derived. -/
theorem derives_of_evaluate {t : Text} {v : Float} (h : evaluate t = .ok v) : Derives t v := by
  obtain ⟨s, hreach, hfinish⟩ := (evaluate_eq_ok_iff (spells_lexemes 0 t)).mp h
  have hreads := reads_start.reach (isLiteralChar_of_spells (spells_lexemes 0 t)) hreach
  exact ⟨_, spells_lexemes 0 t, hreads.finish hfinish⟩

/-- The texts with a value are those that are derived from the grammar, with the value of the
derivation. All others have a syntax error. -/
theorem evaluate_eq_ok_iff_derives (t : Text) :
    (∀ v, evaluate t = .ok v ↔ Derives t v) ∧
      ((¬ ∃ v, Derives t v) ↔ ∃ e : SyntaxError, evaluate t = .error e) := by
  have hiff : ∀ v, evaluate t = .ok v ↔ Derives t v := fun v =>
    ⟨derives_of_evaluate, evaluate_of_derives⟩
  refine ⟨hiff, ?_⟩
  cases hv : evaluate t with
  | ok v => exact iff_of_false (fun hnone => hnone ⟨v, (hiff v).mp hv⟩) fun ⟨_, he⟩ => nomatch he
  | error e =>
      refine iff_of_true (fun ⟨v, hd⟩ => ?_) ⟨e, rfl⟩
      have := (hiff v).mpr hd
      rw [hv] at this
      contradiction

end FormulaPad.Arithmetic
