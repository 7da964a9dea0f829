import FormulaPad.Proofs.Missing

/-!
# FormulaPad.Proofs.Agreement

Formulas whose chips are the variables that are looked up.

A chip is a segment that is no numeral, a variable is found by its shape. The
two agree in a formula of plain names: every name on a chip has the shape of a
variable, and no numeral has a letter in it (`IsPlainlyNamed`). Its variables are
the names of its chips, in order and with repetitions, up to the blanks around
them (`map_trim_variableRuns`). So what the evaluator asks for are the names of
the chips without a value. Main statement: `variables_are_names`.
-/

namespace FormulaPad

open Formula Text

namespace Formula

/-! ## Names of segments -/

/-- The name that a segment is, if it is one. -/
def segmentName? (segment : Text) : Option Text := (classify? segment).bind TokenKind.name?

theorem filterMap_name?_tokensFrom (start : Nat) (segments : List Text) :
    (tokensFrom start segments).filterMap Token.name? = segments.filterMap segmentName? := by
  induction segments generalizing start with
  | nil => rfl
  | cons s rest ih =>
      rw [tokensFrom]
      cases hkind : classify? s with
      | none => simp [segmentName?, hkind, ih]
      | some kind =>
          simp only [List.filterMap_cons, segmentName?, hkind, ih]
          rfl

/-- The names in a formula, in order and with repetitions. -/
theorem filterMap_name?_tokenize (formula : Text) :
    (tokenize formula).filterMap Token.name? = (segments formula).filterMap segmentName? :=
  filterMap_name?_tokensFrom 0 (segments formula)

/-! ## Plain names -/

theorem isVariable_iff {run : Text} : IsVariable run ↔
    run.head?.any Char.isAlpha = true ∧ run.all isWordChar = true ∧ 1 < run.length := by
  rw [List.all_eq_true]
  constructor
  · rintro ⟨⟨c, t, rfl, hc⟩, hword, hlong⟩
    exact ⟨hc, hword, hlong⟩
  · rintro ⟨hhead, hword, hlong⟩
    obtain ⟨c, t, rfl⟩ := List.exists_cons_of_length_pos (Nat.zero_lt_of_lt hlong)
    exact ⟨⟨c, t, rfl, hhead⟩, hword, hlong⟩

instance (run : Text) : Decidable (IsVariable run) := decidable_of_iff _ isVariable_iff.symm

/-- A name has the shape of a variable, and a numeral has no letter in it. -/
def TokenKind.IsPlain : TokenKind → Prop
  | operator _ => True
  | number text => ∀ c ∈ text, c.isAlpha = false
  | name text => IsVariable text

instance : (kind : TokenKind) → Decidable kind.IsPlain
  | .operator _ => inferInstanceAs (Decidable True)
  | .number text =>
      decidable_of_iff (text.all (!·.isAlpha) = true) (by simp [TokenKind.IsPlain])
  | .name text => inferInstanceAs (Decidable (IsVariable text))

/-- All names of the formula have the shape of variables, and no numeral has a letter in it. -/
def IsPlainlyNamed (formula : Text) : Prop := ∀ token ∈ tokenize formula, token.kind.IsPlain

instance (formula : Text) : Decidable (IsPlainlyNamed formula) :=
  inferInstanceAs (Decidable (∀ token ∈ tokenize formula, token.kind.IsPlain))

theorem isPlain_of_mem_segments {formula segment : Text} {kind : TokenKind}
    (h : IsPlainlyNamed formula) (hmem : segment ∈ segments formula)
    (hkind : classify? segment = some kind) : kind.IsPlain := by
  obtain ⟨n, hn⟩ := List.mem_iff_getElem?.1 hmem
  exact h ⟨n, kind⟩ (mem_tokenize_iff.2 ⟨segment, hn, hkind⟩)

/-! ## Variables of a segment -/

/-- A segment without letters, apart from the blanks around it, has no variable. -/
theorem variableRuns_of_trim {segment : Text} (h : ∀ c ∈ trim segment, c.isAlpha = false) :
    variableRuns segment = [] := by
  refine variableRuns_of_not_isAlpha fun c hc => ?_
  cases hblank : isBlank c with
  | true => exact not_isAlpha_of_isBlank hblank
  | false => exact h c (mem_trim hc hblank)

/-- A segment that is a variable, apart from the blanks around it, has no other one. -/
theorem map_trim_variableRuns_of_isVariable {segment : Text} (h : IsVariable (trim segment)) :
    (variableRuns segment).map trim = [trim segment] := by
  obtain ⟨blanks, hend, hblanks⟩ := exists_trimEnd_append (trimStart segment)
  have hrun : IsVariable (trimStart segment) := by
    rw [hend]
    exact h.append hblanks
  have hlead : ∀ c ∈ segment.takeWhile isBlank, c.isAlpha = false := fun c hc =>
    not_isAlpha_of_isBlank (List.mem_takeWhile_imp hc)
  have hruns : variableRuns segment = [trimStart segment] := by
    have hsplit : segment = segment.takeWhile isBlank ++ trimStart segment :=
      List.takeWhile_append_dropWhile.symm
    rw [hsplit, variableRuns_append_of_not_isAlpha hlead, ← hsplit, variableRuns]
    exact congrArg (List.filterMap Piece.name?) (pieces_of_isVariable hrun)
  obtain ⟨c, t, hstart, hc⟩ := hrun.startsWithLetter
  rw [hruns, List.map_singleton, trim, trim, hstart, trimStart_cons (isBlank_of_isAlpha hc)]

/-- The variables of a segment without operators are the name that it is, or none. -/
theorem map_trim_variableRuns_segment {segment : Text} (hplain : IsPlain segment)
    (h : ∀ kind, classify? segment = some kind → kind.IsPlain) :
    (variableRuns segment).map trim = (segmentName? segment).toList := by
  rw [segmentName?]
  cases hkind : classify? segment with
  | none =>
      rw [variableRuns_of_trim (by simp [trim_eq_nil_of_classify? hkind])]
      rfl
  | some kind =>
      have htext := text_of_classify? hkind
      have hshape := h kind hkind
      cases kind with
      | operator c => exact absurd hkind (classify?_ne_operator hplain c)
      | number text =>
          rw [variableRuns_of_trim (htext ▸ hshape)]
          rfl
      | name text =>
          obtain rfl : text = trim segment := htext
          rw [map_trim_variableRuns_of_isVariable hshape]
          rfl

/-- The variables of a plainly named formula are its names, in order and with repetitions. -/
theorem map_trim_variableRuns {formula : Text} (h : IsPlainlyNamed formula) :
    (variableRuns formula).map trim = (tokenize formula).filterMap Token.name? := by
  have hsegments : ∀ segment ∈ segments formula, ∀ kind, classify? segment = some kind →
      kind.IsPlain := fun _ hmem _ => isPlain_of_mem_segments h hmem
  rw [filterMap_name?_tokenize]
  clear h
  induction formula using operatorInduction with
  | plain t ht =>
      rw [segments_of_isPlain ht] at hsegments ⊢
      rw [map_trim_variableRuns_segment ht (hsegments t List.mem_cons_self)]
      cases hname : segmentName? t <;> simp [hname]
  | cut t c u ht hc ih =>
      rw [segments_append_operator t hc, segments_of_isPlain ht] at hsegments ⊢
      have hoperator : segmentName? [c] = none := by
        rw [segmentName?, classify?_operator hc]
        rfl
      rw [variableRuns_append_operator t hc, List.map_append,
        map_trim_variableRuns_segment ht (hsegments t (by simp)),
        ih fun segment hmem => hsegments segment (by simp [hmem])]
      cases hname : segmentName? t <;> simp [hname, hoperator]

end Formula

/-! ## Chips and names -/

namespace View

variable {formula : Text} {tags : Bindings} {suggestions : Option (List Suggestion)}
  {openId : Option Text}

/-- The names of the chips without a value are the names without a value. -/
theorem map_name_unbound_build :
    ((build formula tags suggestions openId).chips.filter (·.value.isNone)).map Chip.name =
      ((tokenize formula).filterMap Token.name?).filter fun name => (tags.resolve? name).isNone := by
  have hnames : (build formula tags suggestions openId).chips.map Chip.name =
      (tokenize formula).filterMap Token.name? := map_name_chips_build
  rw [← hnames, List.filter_map]
  refine congrArg (List.map Chip.name) (List.filter_congr fun chip hchip => ?_)
  rw [value_of_mem_chips_build hchip]
  rfl

end View

/-! ## What the evaluator asks for -/

namespace Evaluation

/-- In a plainly named formula the variables are the names of the chips, in order and with
repetitions. Whatever values are bound, the evaluator asks for names exactly if some chip has no
value, and then it asks for the names of these chips, in order. -/
theorem variables_are_names {formula : Text} (h : IsPlainlyNamed formula) :
    (variableRuns formula).map trim = (tokenize formula).filterMap Token.name? ∧
      ∀ tags suggestions openId,
        ((∃ names, evaluate formula tags = .error (.unresolved names)) ↔
          ∃ chip ∈ (View.build formula tags suggestions openId).chips, chip.value = none) ∧
        ∀ names, evaluate formula tags = .error (.unresolved names) →
          names = ((View.build formula tags suggestions openId).chips.filter
            (·.value.isNone)).map Chip.name := by
  have hnames := map_trim_variableRuns h
  refine ⟨hnames, fun tags suggestions openId => ?_⟩
  have hunbound : unresolvedNames formula tags =
      ((View.build formula tags suggestions openId).chips.filter
        (·.value.isNone)).map Chip.name := by
    rw [unresolvedNames, hnames, View.map_name_unbound_build]
  refine ⟨?_, fun names hevaluate => ?_⟩
  · simp only [evaluate_eq_unresolved_iff, exists_eq_left, hunbound, ne_eq, List.map_eq_nil_iff,
      List.filter_eq_nil_iff, not_forall, Option.isNone_iff_eq_none, not_not, exists_prop]
  · rw [← hunbound, (evaluate_eq_unresolved_iff.1 hevaluate).1]

/-- Names with blanks in them and around them, one of them twice, among numerals. -/
theorem variables_are_names_spaced :
    IsPlainlyNamed "( name 1 *500)+ 2* name 1-.5/ net_price ".toList ∧
      (variableRuns "( name 1 *500)+ 2* name 1-.5/ net_price ".toList).map trim =
        (tokenize "( name 1 *500)+ 2* name 1-.5/ net_price ".toList).filterMap Token.name? ∧
      ∀ tags suggestions openId,
        ((∃ names, evaluate "( name 1 *500)+ 2* name 1-.5/ net_price ".toList tags =
            .error (.unresolved names)) ↔
          ∃ chip ∈ (View.build "( name 1 *500)+ 2* name 1-.5/ net_price ".toList tags suggestions
            openId).chips, chip.value = none) ∧
        ∀ names, evaluate "( name 1 *500)+ 2* name 1-.5/ net_price ".toList tags =
            .error (.unresolved names) →
          names = ((View.build "( name 1 *500)+ 2* name 1-.5/ net_price ".toList tags suggestions
            openId).chips.filter (·.value.isNone)).map Chip.name := by
  have hnamed : IsPlainlyNamed "( name 1 *500)+ 2* name 1-.5/ net_price ".toList := by
    decide +kernel
  exact ⟨hnamed, variables_are_names hnamed⟩

end Evaluation
end FormulaPad
