import FormulaPad.Proofs.Editor.Clearing

/-!
# FormulaPad.Proofs.Editor.Typing

A text that is put into the line piece by piece.

Every piece is put in behind the one before it, becomes part of the formula at
once and opens the table at its first row. So the last piece leaves what the
whole text leaves when it is put in at once; a text of no pieces at all leaves
the editor as it was, while the empty text still counts as a change of the line.
Only those who follow the store can tell the pieces, as they are told of each.

Main statements: `Line.insert_insert`, `sameState_foldl_insertText` (any number
of pieces) and `sameState_typeText_iff` (one piece for each character).
-/

namespace FormulaPad

/-! ## Two pieces in the line -/

namespace Line

/-- What is put in second goes behind what was put in first. -/
theorem insert_insert (l : Line) (s t : Text) : (l.insert s).insert t = l.insert (s ++ t) := by
  obtain ⟨before, after, rfl⟩ := l.exists_ofSplit
  rw [insert_ofSplit, insert_ofSplit, insert_ofSplit, List.append_assoc]

theorem insert_nil (l : Line) : l.insert [] = l := by
  obtain ⟨before, after, rfl⟩ := l.exists_ofSplit
  rw [insert_ofSplit, List.append_nil]

end Line

namespace Editor

variable {e e' e'' : Editor} {t : Text}

/-! ## Editors in the same state -/

/-- All that an editor is agrees, but for those who follow its store. -/
structure SameState (e e' : Editor) : Prop where
  /-- The text and the caret. -/
  line_eq : e.line = e'.line
  /-- The formula and the values of tags. -/
  content_eq : e.store.content = e'.store.content
  tableOpen_eq : e.tableOpen = e'.tableOpen
  tableRow_eq : e.tableRow = e'.tableRow
  openDropdown_eq : e.openDropdown = e'.openDropdown
  optionRow_eq : e.optionRow = e'.optionRow

theorem SameState.refl (e : Editor) : SameState e e := ⟨rfl, rfl, rfl, rfl, rfl, rfl⟩

theorem SameState.trans (h : SameState e e') (h' : SameState e' e'') : SameState e e'' where
  line_eq := h.line_eq.trans h'.line_eq
  content_eq := h.content_eq.trans h'.content_eq
  tableOpen_eq := h.tableOpen_eq.trans h'.tableOpen_eq
  tableRow_eq := h.tableRow_eq.trans h'.tableRow_eq
  openDropdown_eq := h.openDropdown_eq.trans h'.openDropdown_eq
  optionRow_eq := h.optionRow_eq.trans h'.optionRow_eq

/-! ## Pieces -/

/-- Of two changes of the line the second one is left. -/
theorem sameState_changeLine_changeLine (e : Editor) (l m : Line) :
    SameState ((e.changeLine l).changeLine m) (e.changeLine m) where
  line_eq := rfl
  content_eq := by
    have hfirst : (e.changeLine l).store.content = { e.store.content with formula := l.text } :=
      Store.content_setFormula e.store l.text
    show ((e.changeLine l).store.setFormula m.text).content = (e.store.setFormula m.text).content
    rw [Store.content_setFormula, Store.content_setFormula, hfirst]
  tableOpen_eq := rfl
  tableRow_eq := rfl
  openDropdown_eq := rfl
  optionRow_eq := rfl

theorem sameState_insertText_insertText (e : Editor) (s t : Text) :
    SameState ((e.insertText s).insertText t) (e.insertText (s ++ t)) := by
  show SameState ((e.changeLine (e.line.insert s)).changeLine ((e.line.insert s).insert t))
    (e.changeLine (e.line.insert (s ++ t)))
  rw [Line.insert_insert]
  exact sameState_changeLine_changeLine e _ _

/-- Pieces that are put in one after another, at least one, leave what the whole text leaves. -/
theorem sameState_foldl_insertText (e : Editor) (first : Text) (rest : List Text) :
    SameState (rest.foldl insertText (e.insertText first))
      (e.insertText (first ++ rest.flatten)) := by
  induction rest generalizing e first with
  | nil =>
      rw [List.flatten_nil, List.append_nil]
      exact .refl _
  | cons second rest ih =>
      have hrest : SameState (rest.foldl insertText ((e.insertText first).insertText second))
          ((e.insertText first).insertText (second ++ rest.flatten)) := ih (e.insertText first) second
      exact hrest.trans (sameState_insertText_insertText e first _)

/-! ## Characters -/

/-- A character is a piece. -/
theorem typeText_cons (e : Editor) (c : Char) (t : Text) :
    e.typeText (c :: t) = (t.map ([·])).foldl insertText (e.insertText [c]) := by
  rw [List.foldl_map]
  rfl

theorem sameState_typeText_cons (e : Editor) (c : Char) (t : Text) :
    SameState (e.typeText (c :: t)) (e.insertText (c :: t)) := by
  have hflatten : [c] ++ (t.map ([·])).flatten = c :: t := by
    rw [← List.flatMap_def, List.flatMap_singleton']
    rfl
  rw [typeText_cons, ← hflatten]
  exact sameState_foldl_insertText e [c] _

/-- The editor is as a change of its line leaves it. -/
structure LineChanged (e : Editor) : Prop where
  formula_eq : e.store.formula = e.line.text
  tableOpen_eq : e.tableOpen = true
  tableRow_eq : e.tableRow = 0

/-- The empty text changes nothing where the line has just been changed. -/
theorem sameState_insertText_nil_iff : SameState e (e.insertText []) ↔ LineChanged e := by
  have hline : (e.insertText []).line = e.line := e.line.insert_nil
  have hcontent : (e.insertText []).store.content =
      { e.store.content with formula := e.line.text } := by
    rw [← hline]
    exact Store.content_setFormula e.store _
  constructor
  · intro h
    exact ⟨congrArg Content.formula (h.content_eq.trans hcontent), h.tableOpen_eq, h.tableRow_eq⟩
  · intro h
    refine ⟨hline.symm, ?_, h.tableOpen_eq, h.tableRow_eq, rfl, rfl⟩
    rw [hcontent, ← h.formula_eq]
    rfl

/-- **Typing a text and pasting it lead to the same state**, at every caret and over every stored
formula. Only the empty text is an exception: pasting it makes the line the formula and opens the
table. -/
theorem sameState_typeText_iff :
    SameState (e.typeText t) (e.insertText t) ↔ t ≠ [] ∨ LineChanged e := by
  cases t with
  | nil =>
      rw [or_iff_right (not_not_intro rfl)]
      exact sameState_insertText_nil_iff
  | cons c t => exact iff_of_true (sameState_typeText_cons e c t) (.inl (List.cons_ne_nil c t))

/-- Between characters of several bytes, over a formula that was loaded: the one follower is told of
each character, or of the pasted text. -/
example :
    let e : Editor :=
      { store := (Store.ofContent "tax+1".toList {}).subscribe.2, line := .ofSplit ['é'] ['漢'] }
    (e.typeText "né".toList).store.received 0 =
        [.formula "én漢".toList, .formula "éné漢".toList] ∧
      (e.insertText "né".toList).store.received 0 = [.formula "éné漢".toList] := by decide +kernel

end Editor
end FormulaPad
