import FormulaPad.Proofs.Editor.Dropdowns
import FormulaPad.Proofs.Editor.Writes

/-!
# FormulaPad.Proofs.Editor.Mirror

The line and the formula as two copies of one text.

Every way of editing writes the two of them separately. An operation that loads
nothing either leaves both as they are or makes them one text; so they differ
only while a formula stands behind a line that has been empty ever since it was
loaded. Writes to the store behind the line are left out: they change the formula
alone.

Main statements: `showsFormula_or_sameTexts` (one operation) and
`showsFormula_or_behind_run` (every sequence of operations).
-/

namespace FormulaPad.Editor

variable {e : Editor} {op : Operation}

/-! ## One operation -/

/-- The text of the line is the formula. -/
def ShowsFormula (e : Editor) : Prop := e.line.text = e.store.formula

/-- The second editor has the text of the line and the formula of the first. -/
def SameTexts (e e' : Editor) : Prop :=
  e'.line.text = e.line.text ∧ e'.store.formula = e.store.formula

/-- The formula that an operation loads behind an empty line. -/
def Operation.loaded? : Operation → Option Text
  | .load formula => some formula
  | _ => none

theorem showsFormula_changeLine (e : Editor) (line : Line) : (e.changeLine line).ShowsFormula :=
  (e.store.formula_setFormula line.text).symm

theorem showsFormula_backspace (e : Editor) : e.backspace.ShowsFormula ∨ SameTexts e e.backspace := by
  unfold backspace
  split
  · split
    · exact .inr ⟨rfl, rfl⟩
    · exact .inl (Store.formula_setFormula ..).symm
  · split
    · exact .inl ((Store.formula_setTag ..).trans (Store.formula_setFormula ..)).symm
    · split
      · exact .inr ⟨rfl, rfl⟩
      · exact .inl (showsFormula_changeLine e _)

theorem showsFormula_deleteForward (e : Editor) :
    e.deleteForward.ShowsFormula ∨ SameTexts e e.deleteForward := by
  unfold deleteForward
  split
  · exact .inr ⟨rfl, rfl⟩
  · exact .inl (showsFormula_changeLine e _)

/-- Where there is no place for the name, only the table closes. -/
theorem showsFormula_selectSuggestion (e : Editor) (s : Suggestion) :
    (e.selectSuggestion s).ShowsFormula ∨ SameTexts e (e.selectSuggestion s) := by
  unfold selectSuggestion
  split
  · exact .inr ⟨rfl, rfl⟩
  · exact .inl ((Store.formula_setTag ..).trans (Store.formula_setFormula ..)).symm

theorem showsFormula_enter (e : Editor) (suggestions : List Suggestion) :
    (e.enter suggestions).ShowsFormula ∨ SameTexts e (e.enter suggestions) := by
  unfold enter
  split
  · split
    · exact .inr ⟨rfl, rfl⟩
    · exact showsFormula_selectSuggestion e _
  · exact .inr ⟨rfl, rfl⟩

/-- What does not work on the formula leaves the text of the line as it is too. -/
theorem text_perform_of_not_edits (h : op.edits = false) :
    (e.perform op).line.text = e.line.text := by
  cases op with
  | left =>
      show e.line.left.text = e.line.text
      unfold Line.left
      split <;> rfl
  | right =>
      show e.line.right.text = e.line.text
      unfold Line.right
      split <;> rfl
  | toggleDropdown id =>
      rw [perform, toggleDropdown]
      split <;> rfl
  | cycleDropdown forward =>
      rw [perform, cycleDropdown_eq]
  | selectHighlightedOption suggestions =>
      rw [perform, selectHighlightedOption]
      split
      · rfl
      · split <;> rfl
  | changeInput | insertChar | insertText | backspace | deleteForward => cases h
  | load | enter | selectSuggestion | writeStore => cases h
  | _ => rfl

/-- An operation that loads nothing makes the line and the formula one text, or changes neither of
them. -/
theorem showsFormula_or_sameTexts (h : op.isOrdinary = true) (hload : op.loaded? = none) :
    (e.perform op).ShowsFormula ∨ SameTexts e (e.perform op) := by
  cases hedits : op.edits with
  | false => exact .inr ⟨text_perform_of_not_edits hedits, formula_perform_of_not_edits hedits⟩
  | true =>
      cases op with
      | changeInput | insertChar | insertText => exact .inl (showsFormula_changeLine e _)
      | backspace => exact showsFormula_backspace e
      | deleteForward => exact showsFormula_deleteForward e
      | selectSuggestion s => exact showsFormula_selectSuggestion e s
      | enter suggestions => exact showsFormula_enter e suggestions
      | load => cases hload
      | writeStore => cases h
      | _ => cases hedits

/-! ## Sequences of operations -/

/-- The formula that was loaded last, which is the given one as long as none is loaded. -/
def lastLoaded (formula : Text) : List Operation → Text
  | [] => formula
  | op :: ops => lastLoaded (op.loaded?.getD formula) ops

/-- Whether the text of the line has been changed since a formula was last loaded, where `changed`
says whether it had been before these operations. -/
def changedSinceLoad (changed : Bool) (e : Editor) : List Operation → Bool
  | [] => changed
  | op :: ops =>
      let changes := changed || (e.perform op).line.text != e.line.text
      changedSinceLoad (op.loaded?.isNone && changes) (e.perform op) ops

/-- The formula stands behind an empty line as it was loaded, and the line has not been changed
since. -/
structure BehindLine (e : Editor) (loaded : Text) (changed : Bool) : Prop where
  text_eq : e.line.text = []
  unchanged : changed = false
  formula_eq : e.store.formula = loaded

/-- What holds before the operations of a run, given what was loaded last and whether the line has
been changed since, holds after them. -/
theorem showsFormula_or_behind {loaded : Text} {changed : Bool} {ops : List Operation}
    (h : e.ShowsFormula ∨ e.BehindLine loaded changed) (hops : ∀ op ∈ ops, op.isOrdinary = true) :
    (e.run ops).ShowsFormula ∨
      (e.run ops).BehindLine (lastLoaded loaded ops) (changedSinceLoad changed e ops) := by
  induction ops generalizing e loaded changed with
  | nil => exact h
  | cons op ops ih =>
      refine ih ?_ fun op hop => hops op (List.mem_cons_of_mem _ hop)
      cases hload : op.loaded? with
      | some formula =>
          cases op with
          | load text =>
              obtain rfl : text = formula := Option.some.inj hload
              exact .inr ⟨rfl, rfl, e.store.formula_setFormula text⟩
          | _ => cases hload
      | none =>
          rcases showsFormula_or_sameTexts (hops op List.mem_cons_self) hload with hshows | ⟨ht, hf⟩
          · exact .inl hshows
          · refine h.imp (fun hshows => ?_) fun hbehind => ?_
            · rw [ShowsFormula, ht, hf]
              exact hshows
            · exact ⟨ht.trans hbehind.text_eq, by simp [hbehind.unchanged, ht],
                hf.trans hbehind.formula_eq⟩

/-- From an editor around any store on, the line shows the formula, or it is empty and none of the
operations has changed it since the formula, which is still the same, was loaded. -/
theorem showsFormula_or_behind_run (store : Store) (ops : List Operation)
    (h : ∀ op ∈ ops, op.isOrdinary = true) :
    ((ofStore store).run ops).ShowsFormula ∨
      ((ofStore store).run ops).BehindLine (lastLoaded store.formula ops)
        (changedSinceLoad false (ofStore store) ops) :=
  showsFormula_or_behind (.inr ⟨rfl, rfl, rfl⟩) h

/-- A formula that is loaded over a text that has been typed stands behind the line until it is
deleted backwards, which takes it into the line. -/
theorem showsFormula_or_behind_run_loaded :
    let ops : List Operation :=
      [.insertText "1+2".toList, .load "ab*3".toList, .left, .cycleDropdown true,
        .selectTagValue "ab".toList "7".toList]
    (∀ op ∈ ops, op.isOrdinary = true) ∧
      ((ofStore {}).run ops).BehindLine "ab*3".toList false ∧
      ((ofStore {}).run (ops ++ [.backspace])).ShowsFormula := by
  intro ops
  have hops : ∀ op ∈ ops, op.isOrdinary = true := by simp [ops, Operation.isOrdinary]
  have hback : ∀ op ∈ ops ++ [.backspace], op.isOrdinary = true := by
    simp [ops, Operation.isOrdinary]
  refine ⟨hops, ?_, ?_⟩
  · refine (showsFormula_or_behind_run {} ops hops).resolve_left fun hshows => ?_
    revert hshows
    unfold ShowsFormula
    decide
  · refine (showsFormula_or_behind_run {} _ hback).resolve_right fun hbehind => ?_
    exact absurd hbehind.text_eq (by decide)

end FormulaPad.Editor
