import FormulaPad.Proofs.Editor.Dropdowns
import Mathlib.Logic.Function.Iterate

/-!
# FormulaPad.Proofs.Editor.Cycling

The walk through the dropdowns of a formula.

Over `n` dropdowns the walk is a cycle of `n + 1` stations: at one of them none
is open, and the others follow in the order of the formula. A step forward goes
from each station to the next one, a step backward from the next one to it, so
that each undoes the other, at both ends as well.

Main statements: `neighbour?_forward` and `neighbour?_backward` (one step),
`openDropdown_iterate` (any number of steps forward) and `walksChips_of_shown`.
-/

namespace FormulaPad.Editor

open Formula

variable {e : Editor} {ids : List Text} {id : Text} {k : Nat}

/-! ## Stations -/

/-- What is open at the stations of the walk: none at first, then one after another, and none again
when there is no further one. -/
def station (ids : List Text) : Nat → Option Text
  | 0 => none
  | k + 1 => ids[k]?

/-- The last station is the first one again. -/
theorem station_length_add_one (ids : List Text) : station ids (ids.length + 1) = none :=
  List.getElem?_eq_none (Nat.le_refl _)

/-- None of the dropdowns, or one of them, is at a station. -/
theorem exists_station {current : Option Text} (h : ∀ id, current = some id → id ∈ ids) :
    ∃ k ≤ ids.length, current = station ids k := by
  cases current with
  | none => exact ⟨0, Nat.zero_le _, rfl⟩
  | some id =>
      obtain ⟨k, hk⟩ := List.mem_iff_getElem?.1 (h id rfl)
      exact ⟨k + 1, (List.getElem?_eq_some_iff.1 hk).1, hk.symm⟩

/-- Among different dropdowns the one at a station is found at its place. -/
theorem bind_findIdx?_station (h : ids.Nodup) (hk : k < ids.length) :
    ((station ids (k + 1)).bind fun id => ids.findIdx? (· = id)) = some k := by
  have hget : station ids (k + 1) = some ids[k] := List.getElem?_eq_getElem hk
  rw [hget, Option.bind_some, List.findIdx?_eq_some_iff_getElem]
  refine ⟨hk, by simp, fun j hj => ?_⟩
  have hne : ids[j] ≠ ids[k] := fun hsame => hj.ne (h.getElem_inj_iff.1 hsame)
  simpa using hne

/-! ## One step -/

/-- A step forward goes to the next station. -/
theorem neighbour?_forward (h : ids.Nodup) (hk : k ≤ ids.length) :
    neighbour? ids (station ids k) true = station ids (k + 1) := by
  cases k with
  | zero => exact List.head?_eq_getElem?
  | succ k =>
      rw [neighbour?.eq_def, bind_findIdx?_station h hk]
      rfl

/-- A step backward goes from the next station to this one. -/
theorem neighbour?_backward (h : ids.Nodup) (hk : k ≤ ids.length) :
    neighbour? ids (station ids (k + 1)) false = station ids k := by
  rcases hk.lt_or_eq with hlt | rfl
  · rw [neighbour?.eq_def, bind_findIdx?_station h hlt]
    cases k <;> rfl
  · rw [station_length_add_one]
    show ids.getLast? = _
    rw [List.getLast?_eq_getElem?]
    cases ids <;> rfl

theorem nodup_dropdownIds (e : Editor) : e.dropdownIds.Nodup :=
  Formula.nodup_dropdownIds e.store.formula

theorem dropdownIds_cycleDropdown (e : Editor) (forward : Bool) :
    (e.cycleDropdown forward).dropdownIds = e.dropdownIds := by
  rw [cycleDropdown_eq]
  rfl

/-- A step and a step back lead to where the walk was. -/
theorem openDropdown_cycleDropdown_not (h : ∀ id, e.openDropdown = some id → id ∈ e.dropdownIds)
    (forward : Bool) :
    ((e.cycleDropdown forward).cycleDropdown !forward).openDropdown = e.openDropdown := by
  have hnodup := e.nodup_dropdownIds
  obtain ⟨k, hk, hopen⟩ := exists_station h
  rw [cycleDropdown_eq _ (!forward), dropdownIds_cycleDropdown, cycleDropdown_eq, hopen]
  show neighbour? _ (neighbour? _ _ _) _ = _
  cases forward with
  | true => rw [neighbour?_forward hnodup hk, Bool.not_true, neighbour?_backward hnodup hk]
  | false =>
      cases k with
      | zero =>
          -- before the first station comes the last one
          have hlast : station e.dropdownIds 0 = station e.dropdownIds (e.dropdownIds.length + 1) :=
            (station_length_add_one _).symm
          rw [hlast, neighbour?_backward hnodup le_rfl, Bool.not_false,
            neighbour?_forward hnodup le_rfl]
      | succ k =>
          have hk' : k ≤ e.dropdownIds.length := Nat.le_of_succ_le hk
          rw [neighbour?_backward hnodup hk', Bool.not_false, neighbour?_forward hnodup hk']

/-! ## Any number of steps -/

/-- Step forward. -/
def cycleForward (e : Editor) : Editor := e.cycleDropdown true

theorem dropdownIds_iterate (e : Editor) (k : Nat) :
    (cycleForward^[k] e).dropdownIds = e.dropdownIds := by
  induction k with
  | zero => rfl
  | succ k ih =>
      rw [Function.iterate_succ_apply', cycleForward, dropdownIds_cycleDropdown, ih]

/-- From where none is open, the walk passes one station after another. -/
theorem openDropdown_iterate (h : e.openDropdown = none) (hk : k ≤ e.dropdownIds.length + 1) :
    (cycleForward^[k] e).openDropdown = station e.dropdownIds k := by
  induction k with
  | zero => exact h
  | succ k ih =>
      rw [Function.iterate_succ_apply', cycleForward, cycleDropdown_eq]
      show neighbour? _ _ _ = _
      rw [dropdownIds_iterate, ih (by omega), neighbour?_forward e.nodup_dropdownIds (by omega)]

/-! ## Main statements -/

/-- Steps forward and backward walk through the dropdowns of the chips. -/
structure WalksChips (e : Editor) : Prop where
  /-- The dropdowns on the way are those of the chips, in the order of the formula. -/
  chips : ∀ suggestions, (e.view suggestions).chips.map Chip.dropdownId = e.dropdownIds
  restores : ∀ forward,
    ((e.cycleDropdown forward).cycleDropdown !forward).openDropdown = e.openDropdown
  /-- From where none is open, each step opens the next one, and no two are the same. -/
  opens : e.openDropdown = none →
    (List.range e.dropdownIds.length).map (fun k => (cycleForward^[k + 1] e).openDropdown) =
      e.dropdownIds.map some ∧ e.dropdownIds.Nodup
  /-- One more step closes the last one. -/
  closes : e.openDropdown = none →
    (cycleForward^[e.dropdownIds.length + 1] e).openDropdown = none
  kept : ∀ forward, (e.cycleDropdown forward).store = e.store ∧
    (e.cycleDropdown forward).line = e.line ∧
    (e.cycleDropdown forward).tableOpen = e.tableOpen ∧
    (e.cycleDropdown forward).tableRow = e.tableRow
  /-- Where there are no chips, no option is highlighted that was not. -/
  optionRow_eq : ∀ forward,
    (e.cycleDropdown forward).optionRow = if e.dropdownIds = [] then e.optionRow else 0

/-- **Steps forward and backward are inverse walks through the chips.** -/
theorem walksChips_of_shown (h : DropdownShown e) : WalksChips e := by
  constructor
  case chips => exact map_dropdownId_chips e
  case restores => exact openDropdown_cycleDropdown_not (dropdownShown_iff.1 h)
  case opens =>
    intro hnone
    refine ⟨List.ext_getElem (by simp) fun k hk _ => ?_, e.nodup_dropdownIds⟩
    have hlt : k < e.dropdownIds.length := by simpa using hk
    have hopen := openDropdown_iterate hnone (Nat.succ_le_succ hlt.le)
    rw [List.getElem_map, List.getElem_range, List.getElem_map, hopen]
    exact List.getElem?_eq_getElem hlt
  case closes =>
    intro hnone
    rw [openDropdown_iterate hnone le_rfl, station_length_add_one]
  case kept =>
    intro forward
    rw [cycleDropdown_eq]
    exact ⟨rfl, rfl, rfl, rfl⟩
  case optionRow_eq =>
    intro forward
    rw [cycleDropdown_eq]

/-- Two chips of the same name, with none of them open and with the last one open. -/
theorem walksChips_of_shown_twice :
    let e := ofStore (.ofContent "ab+2*(c d-ab)".toList {})
    (DropdownShown e ∧ WalksChips e) ∧
      (e.cycleDropdown false).openDropdown = some "tag-8".toList ∧
      DropdownShown (e.cycleDropdown false) ∧ WalksChips (e.cycleDropdown false) := by
  intro e
  have hclosed : DropdownShown e := dropdownShown_ofStore _
  have hopen : DropdownShown (e.cycleDropdown false) := dropdownShown_iff.2 fun id hid => by
    rw [dropdownIds_cycleDropdown]
    exact openDropdown_cycleDropdown hid
  have hlast : (e.cycleDropdown false).openDropdown = some "tag-8".toList := by decide +kernel
  exact ⟨⟨hclosed, walksChips_of_shown hclosed⟩, hlast, hopen, walksChips_of_shown hopen⟩

/-- In a formula without chips there is nothing to open, and the option that was highlighted last
stays so. -/
theorem not_optionRow_cycleDropdown :
    let e := (ofStore {}).run [.insertText "ab".toList, .cycleDropdown true,
      .highlightNextOption 2, .closeDropdown, .backspace, .insertChar '2']
    (DropdownShown e ∧ (e.view none).chips = [] ∧
      ∀ forward, (e.cycleDropdown forward).optionRow = 1) ∧
    ¬ ∀ e, DropdownShown e → ∀ forward, (e.cycleDropdown forward).optionRow = 0 := by
  intro e
  have hshown : DropdownShown e := dropdownShown_iff.2 fun id hid => nomatch hid
  have hrow : ∀ forward, (e.cycleDropdown forward).optionRow = 1 := by decide +kernel
  refine ⟨⟨hshown, by decide +kernel, hrow⟩, fun hfirst => ?_⟩
  exact absurd ((hrow true).symm.trans (hfirst e hshown true)) (by decide)

end FormulaPad.Editor
