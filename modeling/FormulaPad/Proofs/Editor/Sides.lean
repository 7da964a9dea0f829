import FormulaPad.Proofs.Editor.Operation
import Mathlib.Data.List.Basic

/-!
# FormulaPad.Proofs.Editor.Sides

The line of the editor as a pair of texts.

The editor keeps a text and a position in bytes, and each operation computes
the new position in its own way. `Sides` is the same line without positions:
what stands before the caret and what stands after it. `Sides.perform` is what
each operation does to this pair.

Main statements: `sides_perform` (one operation on the editor is the same
operation on the pair) and `corresponds_run` (after every sequence of operations
the text is the pair one after the other, and the caret the byte length of the
first part).
-/

namespace FormulaPad.Editor

/-- What stands before the caret and what stands after it. -/
structure Sides where
  before : Text
  after : Text

namespace Sides

/-! ## Operations on pairs -/

/-- The text split behind its longest initial part of at most `n` bytes. -/
def ofBytes (t : Text) (n : Nat) : Sides := ⟨Text.takeBytes n t, Text.dropBytes n t⟩

/-- The text split behind this many characters, or at its end. -/
def ofColumn (t : Text) (column : Nat) : Sides := ⟨t.take column, t.drop column⟩

def insert (s : Sides) (t : Text) : Sides := ⟨s.before ++ t, s.after⟩

/-- Move the last character before the caret to the other side. -/
def left (s : Sides) : Sides :=
  match s.before.getLast? with
  | none => s
  | some c => ⟨s.before.dropLast, c :: s.after⟩

theorem left_append (b a : Text) (c : Char) : left ⟨b ++ [c], a⟩ = ⟨b, c :: a⟩ := by
  simp [left]

/-- Move the first character after the caret to the other side. -/
def right (s : Sides) : Sides :=
  match s.after with
  | [] => s
  | c :: rest => ⟨s.before ++ [c], rest⟩

/-- Put a name in: at the start or after an operator it is inserted, in the place of the word that
ends before the caret otherwise, and nowhere when there is no such word. -/
def placeName (s : Sides) (name : Text) : Sides :=
  if s.before = [] ∨ Formula.endsWithOperator s.before then s.insert name
  else if Formula.trailingWord s.before = [] then s
  else ⟨Formula.beforeWord s.before ++ name, s.after⟩

/-- Delete backwards: on an empty line the formula without its last segment is taken for the line,
else the word that ends before the caret goes, else one character. -/
def backspace (s : Sides) (formula : Text) : Sides :=
  if s.before ++ s.after = [] then
    if formula = [] then s else ⟨Formula.removeLastSegment formula, []⟩
  else if Formula.trailingWord s.before = [] then ⟨s.before.dropLast, s.after⟩
  else ⟨Formula.beforeWord s.before, s.after⟩

/-- What an operation does to the pair. Of the rest of the editor it depends on the stored formula,
and on the suggestion that would be taken from a table. -/
def perform (formula : Text) (picked? : List Suggestion → Option Suggestion) (s : Sides) :
    Operation → Sides
  | .changeInput text caret => ofBytes text caret
  | .insertChar c => s.insert [c]
  | .insertText t => s.insert t
  | .backspace => s.backspace formula
  | .deleteForward => ⟨s.before, s.after.tail⟩
  | .setCaret caret => ofBytes (s.before ++ s.after) caret
  | .setColumn column => ofColumn (s.before ++ s.after) column
  | .left => s.left
  | .right => s.right
  | .home => ⟨[], s.before ++ s.after⟩
  | .toEnd => ⟨s.before ++ s.after, []⟩
  | .load _ => ⟨[], []⟩
  | .enter suggestions =>
      match picked? suggestions with
      | none => s
      | some suggestion => s.placeName suggestion.name
  | .selectSuggestion suggestion => s.placeName suggestion.name
  | .escape | .highlightNextRow _ | .highlightPrevRow => s
  | .toggleDropdown _ | .closeDropdown | .cycleDropdown _ | .selectTagValue _ _ => s
  | .highlightNextOption _ | .highlightPrevOption | .selectHighlightedOption _ => s
  | .pointerDown _ | .writeStore _ => s

end Sides

/-! ## The editor as a pair -/

/-- The two sides of the caret. -/
def sides (e : Editor) : Sides := ⟨e.line.before, e.line.after⟩

/-- The suggestion that Enter takes: the highlighted row of the table, when it is open. -/
def picked? (e : Editor) (suggestions : List Suggestion) : Option Suggestion :=
  if e.tableOpen then suggestions[Window.rowOf e.tableRow suggestions.length]? else none

/-- The text is the two sides one after the other, and the caret stands between them. -/
structure Corresponds (e : Editor) (s : Sides) : Prop where
  text_eq : e.line.text = s.before ++ s.after
  caret_eq : e.line.caret = Text.byteLength s.before

theorem corresponds_sides (e : Editor) : Corresponds e e.sides :=
  ⟨e.line.before_append_after.symm, e.line.byteLength_before.symm⟩

theorem sides_of_line_eq {e : Editor} {b a : Text} (h : e.line = .ofSplit b a) :
    e.sides = ⟨b, a⟩ := by
  rw [sides, h, Line.before_ofSplit, Line.after_ofSplit]

theorem line_of_sides_eq {e : Editor} {b a : Text} (h : e.sides = ⟨b, a⟩) :
    e.line = .ofSplit b a := by
  obtain ⟨rfl, rfl⟩ : e.line.before = b ∧ e.line.after = a := by simpa [sides] using h
  exact e.line.ofSplit_before_after.symm

/-! ## One operation -/

theorem sides_changeInput (e : Editor) (text : Text) (caret : Nat) :
    (e.changeInput text caret).sides = .ofBytes text caret :=
  sides_of_line_eq (Line.ofTextAt_eq text caret)

theorem sides_insertText (e : Editor) (t : Text) : (e.insertText t).sides = e.sides.insert t := by
  obtain ⟨b, a, h⟩ := e.line.exists_ofSplit
  rw [sides_of_line_eq h]
  apply sides_of_line_eq
  show e.line.insert t = _
  rw [h, Line.insert_ofSplit]

theorem sides_deleteForward (e : Editor) :
    e.deleteForward.sides = ⟨e.sides.before, e.sides.after.tail⟩ := by
  obtain ⟨b, a, h⟩ := e.line.exists_ofSplit
  rw [sides_of_line_eq h, deleteForward, h]
  cases a with
  | nil =>
      rw [Line.delete?_ofSplit_nil]
      exact sides_of_line_eq h
  | cons c a =>
      rw [Line.delete?_ofSplit_cons]
      exact sides_of_line_eq rfl

theorem sides_left (e : Editor) : e.left.sides = e.sides.left := by
  obtain ⟨b, a, h⟩ := e.line.exists_ofSplit
  rw [sides_of_line_eq h]
  rcases List.eq_nil_or_concat' b with rfl | ⟨b, c, rfl⟩
  · apply sides_of_line_eq
    show e.line.left = _
    rw [h, Line.left_ofSplit_nil]
  · rw [Sides.left_append]
    apply sides_of_line_eq
    show e.line.left = _
    rw [h, Line.left_ofSplit_append]

theorem sides_right (e : Editor) : e.right.sides = e.sides.right := by
  obtain ⟨b, a, h⟩ := e.line.exists_ofSplit
  rw [sides_of_line_eq h]
  apply sides_of_line_eq
  show e.line.right = _
  rw [h]
  cases a with
  | nil => exact Line.right_ofSplit_nil b
  | cons c a => exact Line.right_ofSplit_cons b a c

/-- The word before the caret makes room for a name. -/
theorem replaceBefore_trailingWord (l : Line) (name : Text) {word : Text}
    (h : Formula.trailingWord? l.before = some word) :
    l.replaceBefore word name (Formula.suffix_of_trailingWord? h) =
      .ofSplit (Formula.beforeWord l.before ++ name) l.after := by
  apply Line.replaceBefore_eq
  rw [← (Formula.trailingWord?_eq_some_iff.1 h).1, Formula.beforeWord_append_trailingWord]

/-- Taking one character off the line takes the last one before the caret, if there is one. -/
theorem sides_eraseLast (e : Editor) :
    (match e.line.eraseLast? with
      | none => e
      | some line => e.changeLine line).sides = ⟨e.sides.before.dropLast, e.sides.after⟩ := by
  obtain ⟨b, a, h⟩ := e.line.exists_ofSplit
  rw [sides_of_line_eq h, h]
  rcases List.eq_nil_or_concat' b with rfl | ⟨b, c, rfl⟩
  · rw [Line.eraseLast?_ofSplit_nil]
    exact sides_of_line_eq h
  · rw [Line.eraseLast?_ofSplit_append, List.dropLast_concat]
    exact sides_of_line_eq rfl

theorem sides_backspace (e : Editor) :
    e.backspace.sides = e.sides.backspace e.store.formula := by
  have htext : e.sides.before ++ e.sides.after = e.line.text := e.line.before_append_after
  rw [Sides.backspace, htext, backspace]
  split
  case isTrue hempty =>
      split
      · rfl
      · exact sides_of_line_eq (Line.ofText_eq _)
  case isFalse hne =>
      split
      case h_1 word hword =>
          have hrun : Formula.trailingWord e.sides.before ≠ [] := by
            have hsome := Formula.trailingWord?_eq_some_iff.1 hword
            exact fun h0 => hsome.2 (hsome.1.symm.trans h0)
          rw [if_neg hrun]
          apply sides_of_line_eq
          show e.line.replaceBefore word [] (Formula.suffix_of_trailingWord? hword) = _
          rw [replaceBefore_trailingWord e.line [] hword, List.append_nil]
          rfl
      case h_2 hword =>
          have hrun : Formula.trailingWord e.sides.before = [] :=
            Formula.trailingWord?_eq_none_iff.1 hword
          rw [if_pos hrun]
          exact sides_eraseLast e

/-- Where a name is put in, and what is left of the line there. -/
theorem placeName?_eq (l : Line) (name : Text) :
    placeName? l name =
      if l.before = [] ∨ Formula.endsWithOperator l.before then
        some (.ofSplit (l.before ++ name) l.after)
      else if Formula.trailingWord l.before = [] then none
      else some (.ofSplit (Formula.beforeWord l.before ++ name) l.after) := by
  rw [placeName?]
  split
  case isTrue hplace =>
      rw [Line.replaceBefore_eq name (List.append_nil l.before).symm]
  case isFalse hplace =>
      split
      case h_1 hword => rw [if_pos (Formula.trailingWord?_eq_none_iff.1 hword)]
      case h_2 word hword =>
          have hrun : Formula.trailingWord l.before ≠ [] := by
            have hsome := Formula.trailingWord?_eq_some_iff.1 hword
            exact fun h0 => hsome.2 (hsome.1.symm.trans h0)
          rw [if_neg hrun, replaceBefore_trailingWord l name hword]

theorem sides_selectSuggestion (e : Editor) (s : Suggestion) :
    (e.selectSuggestion s).sides = e.sides.placeName s.name := by
  have hplace := placeName?_eq e.line s.name
  rw [selectSuggestion, Sides.placeName]
  show _ = if e.line.before = [] ∨ Formula.endsWithOperator e.line.before then _ else
    if Formula.trailingWord e.line.before = [] then _ else _
  split at hplace
  case isTrue hstart =>
      rw [hplace, if_pos hstart]
      exact sides_of_line_eq rfl
  case isFalse hstart =>
      rw [if_neg hstart]
      split at hplace
      case isTrue hnone =>
          rw [hplace, if_pos hnone]
          rfl
      case isFalse hrun =>
          rw [hplace, if_neg hrun]
          exact sides_of_line_eq rfl

theorem sides_enter (e : Editor) (suggestions : List Suggestion) :
    (e.enter suggestions).sides =
      match e.picked? suggestions with
      | none => e.sides
      | some s => e.sides.placeName s.name := by
  rw [enter, picked?]
  split
  · cases suggestions[Window.rowOf e.tableRow suggestions.length]? with
    | none => rfl
    | some s => exact sides_selectSuggestion e s
  · rfl

/-- One operation on the editor is the same operation on the pair. -/
theorem sides_perform (e : Editor) (op : Operation) :
    (e.perform op).sides = e.sides.perform e.store.formula e.picked? op := by
  cases op with
  | changeInput text caret => exact sides_changeInput e text caret
  | insertChar c => exact sides_insertText e [c]
  | insertText t => exact sides_insertText e t
  | backspace => exact sides_backspace e
  | deleteForward => exact sides_deleteForward e
  | setCaret caret =>
      rw [Sides.perform, ← e.corresponds_sides.text_eq]
      exact sides_of_line_eq (Line.ofTextAt_eq e.line.text caret)
  | setColumn column =>
      rw [Sides.perform, ← e.corresponds_sides.text_eq]
      exact sides_of_line_eq (e.line.moveToColumn_eq column)
  | left => exact sides_left e
  | right => exact sides_right e
  | home =>
      rw [Sides.perform, ← e.corresponds_sides.text_eq]
      exact sides_of_line_eq e.line.home_eq
  | toEnd =>
      rw [Sides.perform, ← e.corresponds_sides.text_eq]
      exact sides_of_line_eq (Line.ofText_eq e.line.text)
  | load formula => exact sides_of_line_eq rfl
  | enter suggestions => exact sides_enter e suggestions
  | selectSuggestion s => exact sides_selectSuggestion e s
  | toggleDropdown id =>
      rw [perform, toggleDropdown]
      split <;> rfl
  | cycleDropdown forward =>
      rw [perform, cycleDropdown_eq]
      rfl
  | selectHighlightedOption suggestions =>
      rw [perform, selectHighlightedOption]
      split
      · rfl
      · split <;> rfl
  | escape | highlightNextRow | highlightPrevRow | closeDropdown | selectTagValue
  | highlightNextOption | highlightPrevOption | pointerDown | writeStore => rfl

/-! ## Sequences of operations -/

/-- The pair after one operation after another; the editor beside it says what formula is stored
and which row of the table is highlighted. -/
def Sides.run (e : Editor) (s : Sides) : List Operation → Sides
  | [] => s
  | op :: ops => Sides.run (e.perform op) (s.perform e.store.formula e.picked? op) ops

theorem sides_run (e : Editor) (ops : List Operation) : (e.run ops).sides = e.sides.run e ops := by
  induction ops generalizing e with
  | nil => rfl
  | cons op ops ih =>
      rw [run, ih, sides_perform]
      rfl

/-- After every sequence of operations the text is the pair one after the other, and the caret is
the byte length of the first part. -/
theorem corresponds_run (e : Editor) (ops : List Operation) :
    Corresponds (e.run ops) (e.sides.run e ops) := by
  rw [← sides_run]
  exact corresponds_sides (e.run ops)

end FormulaPad.Editor
