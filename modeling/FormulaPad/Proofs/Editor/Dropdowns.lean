import FormulaPad.Proofs.Chips
import FormulaPad.Proofs.Editor.Operation
import FormulaPad.Proofs.Runs

/-!
# FormulaPad.Proofs.Editor.Dropdowns

The open dropdown and the chips in view.

The editor keeps the identifier of the open dropdown, which is the place of a
variable in the formula. Operations on the text of the formula leave it as it
is, also when the variable at this place is gone; all others either leave the
formula as it is or close the dropdown.

Main statements: `dropdownShown_iff` (what an editor has to keep so that the open
dropdown is one in view), `dropdownShown_perform_iff` (which operations keep it)
and `dropdownShown_run_iff` (in which runs it is kept).
-/

namespace FormulaPad.Editor

open Formula

variable {e : Editor} {op : Operation} {id : Text} {suggestions : Option (List Suggestion)}

/-! ## The open dropdown in view -/

/-- The open dropdown is in view. -/
structure DropdownShown (e : Editor) : Prop where
  /-- It belongs to a chip of the formula. -/
  exists_chip : ∀ suggestions id, e.openDropdown = some id →
    ∃ chip ∈ (e.view suggestions).chips, chip.dropdownId = id
  /-- While it takes the arrows and the enter key, it is shown. -/
  shown : ∀ suggestions, e.openDropdown.isSome = true →
    (e.view suggestions).openChip?.isSome = true

/-- The dropdowns of the formula are those of its chips, in order. -/
theorem map_dropdownId_chips (e : Editor) (suggestions : Option (List Suggestion)) :
    (e.view suggestions).chips.map Chip.dropdownId = e.dropdownIds :=
  View.map_dropdownId_chips_build

theorem exists_chip_iff :
    (∃ chip ∈ (e.view suggestions).chips, chip.dropdownId = id) ↔ id ∈ e.dropdownIds := by
  rw [← map_dropdownId_chips e suggestions, List.mem_map]

/-- What is recorded as open has to be a dropdown of the formula. -/
theorem dropdownShown_iff :
    DropdownShown e ↔ ∀ id, e.openDropdown = some id → id ∈ e.dropdownIds := by
  constructor
  · exact fun h id hopen => exists_chip_iff.1 (h.exists_chip none id hopen)
  · intro h
    refine ⟨fun suggestions id hopen => exists_chip_iff.2 (h id hopen), fun suggestions hopen => ?_⟩
    obtain ⟨id, hid⟩ := Option.isSome_iff_exists.1 hopen
    obtain ⟨chip, hchip, rfl⟩ := exists_chip_iff.2 (h id hid)
    exact View.isSome_openChip?_build_iff.2 ⟨chip, hchip, hid⟩

/-! ## One operation -/

/-- The operation works on the text of the formula. -/
def Operation.edits : Operation → Bool
  | .changeInput _ _ | .insertChar _ | .insertText _ | .backspace | .deleteForward => true
  | .load _ | .enter _ | .selectSuggestion _ | .writeStore _ => true
  | _ => false

/-- Only a chip in view can be toggled. -/
def CanToggle (e : Editor) : Operation → Prop
  | .toggleDropdown id => ∃ chip ∈ (e.view none).chips, chip.dropdownId = id
  | _ => True

theorem openDropdown_backspace (e : Editor) : e.backspace.openDropdown = e.openDropdown := by
  rw [backspace]
  split
  · split <;> rfl
  · split
    · rfl
    · split <;> rfl

theorem openDropdown_deleteForward (e : Editor) : e.deleteForward.openDropdown = e.openDropdown := by
  rw [deleteForward]
  split <;> rfl

theorem openDropdown_selectSuggestion (e : Editor) (s : Suggestion) :
    (e.selectSuggestion s).openDropdown = e.openDropdown := by
  rw [selectSuggestion]
  split <;> rfl

theorem openDropdown_enter (e : Editor) (suggestions : List Suggestion) :
    (e.enter suggestions).openDropdown = e.openDropdown := by
  rw [enter]
  split
  · split
    · rfl
    · exact e.openDropdown_selectSuggestion _
  · rfl

/-- What works on the formula leaves the open dropdown as it is. -/
theorem openDropdown_perform_of_edits (h : op.edits = true) :
    (e.perform op).openDropdown = e.openDropdown := by
  cases op with
  | changeInput | insertChar | insertText | load | writeStore => rfl
  | backspace => exact e.openDropdown_backspace
  | deleteForward => exact e.openDropdown_deleteForward
  | enter suggestions => exact e.openDropdown_enter suggestions
  | selectSuggestion s => exact e.openDropdown_selectSuggestion s
  | _ => cases h

/-- Everything else leaves the formula as it is. -/
theorem formula_perform_of_not_edits (h : op.edits = false) :
    (e.perform op).store.formula = e.store.formula := by
  cases op with
  | toggleDropdown id =>
      rw [perform, toggleDropdown]
      split <;> rfl
  | cycleDropdown forward =>
      rw [perform, cycleDropdown_eq]
  | selectTagValue tag value => exact e.store.formula_setTag tag value
  | selectHighlightedOption suggestions =>
      rw [perform, selectHighlightedOption]
      split
      · rfl
      · split
        · rfl
        · exact e.store.formula_setTag _ _
  | changeInput | insertChar | insertText | backspace | deleteForward => cases h
  | load | enter | selectSuggestion | writeStore => cases h
  | _ => rfl

/-- The way through a list stays in the list. -/
theorem mem_of_neighbour? {ids : List Text} {current : Option Text} {forward : Bool}
    (h : neighbour? ids current forward = some id) : id ∈ ids := by
  rw [neighbour?.eq_def] at h
  split at h
  · exact List.mem_of_mem_head? h
  · exact List.mem_of_getLast? h
  · exact List.mem_of_getElem? h
  · cases h
  · exact List.mem_of_getElem? h

theorem openDropdown_cycleDropdown {forward : Bool}
    (h : (e.cycleDropdown forward).openDropdown = some id) : id ∈ e.dropdownIds := by
  rw [cycleDropdown_eq] at h
  exact mem_of_neighbour? h

/-- What leaves the formula as it is opens only a dropdown of the formula. -/
theorem openDropdown_perform_of_not_edits (h : op.edits = false) (hcan : CanToggle e op)
    (hopen : (e.perform op).openDropdown = some id) :
    e.openDropdown = some id ∨ id ∈ e.dropdownIds := by
  cases op with
  | toggleDropdown toggled =>
      rw [perform, toggleDropdown] at hopen
      split at hopen
      · cases hopen
      · obtain rfl : toggled = id := Option.some.inj hopen
        exact .inr (exists_chip_iff.1 hcan)
  | closeDropdown => cases hopen
  | cycleDropdown forward => exact .inr (openDropdown_cycleDropdown hopen)
  | selectTagValue tag value => cases hopen
  | selectHighlightedOption suggestions =>
      rw [perform, selectHighlightedOption] at hopen
      split at hopen
      · exact .inl hopen
      · split at hopen
        · exact .inl hopen
        · cases hopen
  | pointerDown target => exact .inl (Option.filter_eq_some_iff.1 hopen).1
  | changeInput | insertChar | insertText | backspace | deleteForward => cases h
  | load | enter | selectSuggestion | writeStore => cases h
  | _ => exact .inl hopen

/-- If the operation works on the formula, the place of the open dropdown is still that of a
variable after it. -/
def KeepsOpenChip (e : Editor) (op : Operation) : Prop :=
  op.edits = true → ∀ id, e.openDropdown = some id → id ∈ (e.perform op).dropdownIds

/-- The open dropdown stays in view but for operations that take the variable out of its place. -/
theorem dropdownShown_perform_iff (h : DropdownShown e) (hcan : CanToggle e op) :
    DropdownShown (e.perform op) ↔ KeepsOpenChip e op := by
  rw [dropdownShown_iff, KeepsOpenChip]
  cases hedits : op.edits with
  | true =>
      rw [openDropdown_perform_of_edits hedits]
      exact ⟨fun h _ => h, fun h => h rfl⟩
  | false =>
      refine ⟨fun _ hfalse => (nomatch hfalse), fun _ id hopen => ?_⟩
      rw [dropdownIds, formula_perform_of_not_edits hedits]
      rcases openDropdown_perform_of_not_edits hedits hcan hopen with hsame | hmem
      · exact dropdownShown_iff.1 h id hsame
      · exact hmem

/-! ## Runs -/

theorem dropdownShown_ofStore (store : Store) : DropdownShown (ofStore store) :=
  dropdownShown_iff.2 fun _ h => nomatch h

/-- From a new editor on, the open dropdown is in view all along a run exactly if no operation on
the formula takes the variable whose dropdown is open out of its place. -/
theorem dropdownShown_run_iff (store : Store) (ops : List Operation)
    (h : EveryStep perform CanToggle (ofStore store) ops) :
    HoldsAlong perform DropdownShown (ofStore store) ops ↔
      EveryStep perform KeepsOpenChip (ofStore store) ops :=
  holdsAlong_iff dropdownShown_perform_iff (dropdownShown_ofStore store) h

/-- Text typed behind the open dropdown leaves it in view. -/
theorem dropdownShown_insertChar_behind :
    let ops : List Operation :=
      [.insertText "a+b".toList, .toggleDropdown "tag-0".toList, .insertChar 'c']
    EveryStep perform CanToggle (ofStore {}) ops ∧
      HoldsAlong perform DropdownShown (ofStore {}) ops := by
  intro ops
  have hcan : EveryStep perform CanToggle (ofStore {}) ops :=
    ⟨trivial, exists_chip_iff.2 (by decide), trivial, trivial⟩
  refine ⟨hcan, (dropdownShown_run_iff {} ops hcan).2 ⟨?_, ?_, ?_, trivial⟩⟩
  · exact fun _ id hopen => (nomatch hopen)
  · exact fun h => (nomatch h)
  · intro _ id hopen
    obtain rfl : "tag-0".toList = id := Option.some.inj hopen
    decide

/-- The open dropdown of a word that is deleted backwards stays open with nothing in view. -/
theorem not_dropdownShown_backspace :
    let ops : List Operation := [.insertText "ab".toList, .cycleDropdown true, .backspace]
    EveryStep perform CanToggle (ofStore {}) ops ∧
      ¬ HoldsAlong perform DropdownShown (ofStore {}) ops := by
  refine ⟨⟨trivial, trivial, trivial, trivial⟩, fun h => ?_⟩
  have hmem := dropdownShown_iff.1 h.last "tag-0".toList (by decide)
  revert hmem
  decide

end FormulaPad.Editor
