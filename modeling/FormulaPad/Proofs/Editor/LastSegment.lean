import FormulaPad.Editor.Basic
import FormulaPad.Proofs.Segments
import Mathlib.Logic.Function.Iterate

/-!
# FormulaPad.Proofs.Editor.LastSegment

Taking a formula apart from its end, segment by segment.

A segment that is empty takes no part in it: of a formula that ends with an
operator the operator goes, and the text before it is left. So a formula is gone
after as many steps as it has segments that are not empty; one of nothing but
blanks counts like any other.

Main statements: `filledSegments_removeLastSegment` (one step),
`filledSegments_iterate` (any number of steps) and `removesSegment_of_ne_nil`.
-/

namespace FormulaPad.Formula

/-! ## Segments that are not empty -/

/-- The segments of the formula that are not empty; blank ones are among them. -/
def filledSegments (formula : Text) : List Text := (segments formula).filter (· ≠ [])

theorem flatten_filledSegments (t : Text) : (filledSegments t).flatten = t := by
  rw [filledSegments, List.flatten_filter_ne_nil, flatten_segments]

theorem filledSegments_eq_nil_iff {t : Text} : filledSegments t = [] ↔ t = [] := by
  constructor
  · intro h
    rw [← flatten_filledSegments t, h]
    rfl
  · rintro rfl
    rfl

theorem filledSegments_append_operator (t : Text) {c : Char} (hc : isOperator c = true)
    (u : Text) : filledSegments (t ++ c :: u) = filledSegments t ++ [c] :: filledSegments u := by
  rw [filledSegments, segments_append_operator t hc, List.filter_append,
    List.filter_cons_of_pos (by simp)]
  rfl

theorem filledSegments_of_isPlain {t : Text} (h : IsPlain t) (hne : t ≠ []) :
    filledSegments t = [t] := by
  rw [filledSegments, segments_of_isPlain h, List.filter_cons_of_pos (by simpa using hne)]
  rfl

/-! ## One step -/

/-- Without operators a formula is one segment, and nothing is left. -/
theorem removeLastSegment_of_isPlain {t : Text} (h : IsPlain t) : removeLastSegment t = [] := by
  rw [removeLastSegment, segments_of_isPlain h]
  rfl

/-- What follows the last operator goes, or the operator if nothing follows. -/
theorem removeLastSegment_append (t : Text) {c : Char} (hc : isOperator c = true) {u : Text}
    (hu : IsPlain u) : removeLastSegment (t ++ c :: u) = if u = [] then t else t ++ [c] := by
  have hsegments : segments (t ++ c :: u) = segments t ++ [[c]] ++ [u] := by
    rw [segments_append_operator t hc, segments_of_isPlain hu]
    simp
  have hlength : 1 < (segments t ++ [[c]] ++ [u]).length := by simp
  rw [removeLastSegment, hsegments, dropEmptyLast, List.getLast?_concat]
  split
  case isTrue h =>
    rw [if_pos (Option.some.inj h.2), List.dropLast_concat, List.dropLast_concat,
      flatten_segments]
  case isFalse h =>
    have hne : u ≠ [] := fun hnil => h ⟨hlength, congrArg some hnil⟩
    rw [if_neg hne, List.dropLast_concat, List.flatten_append, flatten_segments]
    rfl

/-- A formula has no operator, or something follows its last one. -/
theorem isPlain_or_exists_append (t : Text) :
    IsPlain t ∨ ∃ lead c u, t = lead ++ c :: u ∧ isOperator c = true ∧ IsPlain u := by
  have hlast := List.getLast?_eq_some_getLast (segments_ne_nil t)
  obtain ⟨lead, ht, hlead, hplain⟩ := exists_before_last_segment hlast
  rcases hlead with rfl | ⟨v, c, rfl, hc⟩
  · exact .inl (by rw [ht]; exact hplain)
  · exact .inr ⟨v, c, _, by rw [List.append_cons]; exact ht, hc, hplain⟩

/-- One step takes the last segment that is not empty, and leaves the others as they are. -/
theorem filledSegments_removeLastSegment (t : Text) :
    filledSegments (removeLastSegment t) = (filledSegments t).dropLast := by
  rcases isPlain_or_exists_append t with ht | ⟨lead, c, u, rfl, hc, hu⟩
  · rw [removeLastSegment_of_isPlain ht]
    by_cases hne : t = []
    · rw [hne]
      rfl
    · rw [filledSegments_of_isPlain ht hne]
      rfl
  · rw [removeLastSegment_append lead hc hu, filledSegments_append_operator lead hc]
    by_cases hne : u = []
    · rw [if_pos hne, filledSegments_eq_nil_iff.2 hne, List.dropLast_concat]
    · have hlead : filledSegments (lead ++ [c]) = filledSegments lead ++ [[c]] :=
        filledSegments_append_operator lead hc []
      rw [if_neg hne, hlead, filledSegments_of_isPlain hu hne, List.append_cons _ [c] [u],
        List.dropLast_concat]

/-- What is left are the segments that are not empty but for the last one. -/
theorem removeLastSegment_eq (t : Text) :
    removeLastSegment t = (filledSegments t).dropLast.flatten := by
  rw [← filledSegments_removeLastSegment, flatten_filledSegments]

/-- The formula is what is left, followed by something. -/
theorem exists_removeLastSegment_append {t : Text} (h : t ≠ []) :
    ∃ u, u ≠ [] ∧ removeLastSegment t ++ u = t := by
  have hne : filledSegments t ≠ [] := fun hnil => h (filledSegments_eq_nil_iff.1 hnil)
  refine ⟨(filledSegments t).getLast hne, ?_, ?_⟩
  · have hmem := List.getLast_mem hne
    simpa using (List.mem_filter.1 hmem).2
  · conv_rhs => rw [← flatten_filledSegments t, ← List.dropLast_append_getLast hne]
    rw [removeLastSegment_eq, List.flatten_append, List.flatten_singleton]

/-! ## Any number of steps -/

theorem filledSegments_iterate (t : Text) (k : Nat) :
    filledSegments (removeLastSegment^[k] t) =
      (filledSegments t).take ((filledSegments t).length - k) := by
  induction k with
  | zero => simp
  | succ k ih =>
      rw [Function.iterate_succ_apply', filledSegments_removeLastSegment, ih,
        List.dropLast_eq_take, List.take_take, List.length_take]
      congr 1
      omega

/-- After as many steps as there are segments that are not empty the formula is gone, and not
before. -/
theorem iterate_removeLastSegment_eq_nil_iff {t : Text} {k : Nat} :
    removeLastSegment^[k] t = [] ↔ (filledSegments t).length ≤ k := by
  rw [← filledSegments_eq_nil_iff, filledSegments_iterate, List.take_eq_nil_iff,
    ← List.length_eq_zero_iff]
  omega

end FormulaPad.Formula

namespace FormulaPad.Editor

open Formula

variable {e : Editor} {formula : Text}

/-! ## Deleting backwards on an empty line -/

/-- Deleting backwards shows in the line, with the caret at its end, what is left of the formula,
and leaves the values of tags alone. -/
structure ShowsRest (e e' : Editor) (rest : Text) : Prop where
  line_eq : e'.line = .ofText rest
  formula_eq : e'.store.formula = rest
  tags_eq : e'.store.tags = e.store.tags

theorem showsRest_backspace (hline : e.line.text = []) (hformula : e.store.formula ≠ []) :
    ShowsRest e e.backspace (removeLastSegment e.store.formula) := by
  rw [backspace, if_pos hline, if_neg hformula]
  exact ⟨rfl, Store.formula_setFormula .., Store.tags_setFormula ..⟩

/-- The last segment of the formula that is not empty goes, and nothing else. -/
structure RemovesSegment (formula : Text) : Prop where
  removed_eq : removeLastSegment formula = (filledSegments formula).dropLast.flatten
  isInitial : removeLastSegment formula <+: formula
  ne_formula : removeLastSegment formula ≠ formula
  iterate_eq_nil_iff : ∀ k, removeLastSegment^[k] formula = [] ↔
    (filledSegments formula).length ≤ k
  showsRest : ∀ e : Editor, e.line.text = [] → e.store.formula = formula →
    ShowsRest e e.backspace (removeLastSegment formula)

/-- **Deleting backwards on an empty line takes one segment off the formula** behind it, so that
this is gone after as many steps as it has segments that are not empty. -/
theorem removesSegment_of_ne_nil (h : formula ≠ []) : RemovesSegment formula := by
  obtain ⟨u, hu, hsplit⟩ := exists_removeLastSegment_append h
  constructor
  case removed_eq => exact removeLastSegment_eq formula
  case isInitial => exact ⟨u, hsplit⟩
  case ne_formula =>
    intro hsame
    rw [hsame] at hsplit
    exact hu (List.append_right_eq_self.1 hsplit)
  case iterate_eq_nil_iff => exact fun k => iterate_removeLastSegment_eq_nil_iff
  case showsRest =>
    rintro e hline rfl
    exact showsRest_backspace hline h

/-- Operators that follow each other, a blank segment, and an operator at the end. -/
theorem removesSegment_of_ne_nil_blank :
    "2*( )-(".toList ≠ [] ∧ RemovesSegment "2*( )-(".toList :=
  ⟨by decide, removesSegment_of_ne_nil (by decide)⟩

end FormulaPad.Editor
