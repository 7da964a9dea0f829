import FormulaPad.Proofs.Panel.Extent
import FormulaPad.Proofs.Widget.Pointing

/-!
# FormulaPad.Proofs.Widget.Extent

Where the regions of a drawn screen lie.

A screen is drawn with a layout whose panels lie on it. Nothing more is asked of
the layout: panels may be narrow, flat or empty. All that is recorded then lies on
the screen and inside the panel that it belongs to, and the arithmetic on the way
stays within the range of coordinates.

Main statements: `fitsIn_layout` (where there is room for all panels, there is such
a layout), `checkedFrame_eq` (no check on the way fails), `placed_regionsIn` (where the
regions lie), and `placed_drawnIn` (both for the widget).
-/

namespace FormulaPad.Widget

open Terminal Panel

/-! ## Layouts -/

namespace Layout

/-- The panels lie on a screen with these bounds. -/
structure FitsIn (l : Layout) (bounds : Rect) : Prop where
  inRange : ∀ panel ∈ l.panels, panel.InRange
  inside : ∀ panel ∈ l.panels, ∀ x y, panel.contains x y = true → bounds.contains x y = true

theorem FitsIn.inRange_input {l : Layout} {bounds : Rect} (h : l.FitsIn bounds) :
    l.input.InRange :=
  h.inRange l.input (by simp [panels])

/-- Where there is room for all panels they lie in the area. -/
theorem fitsIn_layout {area : Rect} (harea : area.InRange) (h : leastHeight ≤ area.height) :
    (layout area h).FitsIn area := by
  have hsides : ∀ panel ∈ (layout area h).panels, panel.x = area.x ∧ panel.width = area.width ∧
      area.y ≤ panel.y ∧ panel.y + panel.height ≤ area.y + area.height := by
    simp only [leastHeight, leastTableHeight] at h
    simp only [panels, layout, List.forall_mem_cons, List.not_mem_nil, IsEmpty.forall_iff,
      implies_true, true_and, and_true]
    omega
  constructor
  · intro panel hpanel
    obtain ⟨hx, hwidth, -, hbottom⟩ := hsides panel hpanel
    exact ⟨by rw [hx, hwidth]; exact harea.right_le, Nat.le_trans hbottom harea.bottom_le⟩
  · intro panel hpanel x y hcell
    obtain ⟨hx, hwidth, htop, hbottom⟩ := hsides panel hpanel
    rw [Rect.contains_iff] at hcell ⊢
    simp only [Rect.right, Rect.bottom, satAdd] at hcell ⊢
    omega

end Layout

/-! ## Regions -/

/-- All regions that are recorded. -/
def Regions.all (r : Regions) : List Rect :=
  r.input.toList ++ r.inputText.toList ++ r.table.toList ++ r.tableRows.map (·.1) ++
    r.toggles.map (·.1) ++ r.dropdown.toList.map (·.1) ++ r.options.map (·.1)

/-- The regions lie where their panels are drawn, on a screen with these bounds. -/
structure Regions.Placed (r : Regions) (l : Layout) (bounds : Rect) (chips : List Chip) : Prop where
  onScreen : ∀ region ∈ r.all, ∀ x y, region.contains x y = true → bounds.contains x y = true
  toggles_inside : ∀ p ∈ r.toggles, p.1.Inside (boxed.inner l.chips)
  /-- Each control lies to the left of those that come after it. -/
  toggles_apart : r.toggles.Pairwise fun p q => p.1.right ≤ q.1.x
  toggles_disjoint : r.toggles.Pairwise fun p q =>
    ∀ x y, p.1.contains x y = true → ¬ q.1.contains x y = true
  /-- The controls come in the order of the chips. -/
  toggles_inOrder : (r.toggles.map (·.2)).Sublist (chips.map (·.dropdownId))
  options_inside : ∀ p ∈ r.options,
    ∃ area id, r.dropdown = some (area, id) ∧ p.1.Inside (boxed.inner area)
  /-- The rows lie below the line of the header. -/
  tableRows_inside : ∀ p ∈ r.tableRows,
    p.1.Inside (boxed.inner l.table) ∧ (boxed.inner l.table).y < p.1.y

/-- Regions one to the left of the other have no cell in common. -/
theorem not_contains_of_right_le {r s : Rect} {x y : Nat} (h : r.right ≤ s.x)
    (hcell : r.contains x y = true) : ¬ s.contains x y = true := by
  rw [Rect.contains_iff] at hcell ⊢
  omega

section Placed

variable {l : Layout} {bounds : Rect} {e : Editor} {suggestions : Option (List Suggestion)}

theorem toggles_regionsIn :
    (regionsIn l bounds e suggestions).toggles = chipRegions l.chips (e.view suggestions) :=
  congrArg Regions.toggles regionsIn_eq

theorem tableRows_regionsIn :
    (regionsIn l bounds e suggestions).tableRows =
      if e.tableOpen then tableRegions l.table (suggestions.getD []) e.tableRow else [] :=
  congrArg Regions.tableRows regionsIn_eq

/-- Rows are recorded only while the table is open. -/
theorem mem_tableRegions_of_mem_tableRows {p : Rect × Nat}
    (h : p ∈ (regionsIn l bounds e suggestions).tableRows) :
    p ∈ tableRegions l.table (suggestions.getD []) e.tableRow := by
  rw [tableRows_regionsIn] at h
  split at h
  · exact h
  · cases h

/-- The list of options is cut off at the edges of the screen. -/
theorem contains_of_dropdown_eq {area : Rect} {id : Text}
    (h : (regionsIn l bounds e suggestions).dropdown = some (area, id)) {x y : Nat}
    (hcell : area.contains x y = true) : bounds.contains x y = true := by
  rw [regionsIn] at h
  split at h
  · cases h
  · obtain ⟨rfl, -⟩ := Prod.mk.inj (Option.some.inj h)
    exact (Rect.contains_inter hcell).2

/-- Options are recorded together with their list. -/
theorem inside_of_mem_options {p : Rect × Nat}
    (h : p ∈ (regionsIn l bounds e suggestions).options) :
    ∃ area id, (regionsIn l bounds e suggestions).dropdown = some (area, id) ∧
      p.1.Inside (boxed.inner area) := by
  rw [regionsIn] at h ⊢
  split at h
  · cases h
  · exact ⟨_, _, rfl, inside_of_mem_optionRegions h⟩

theorem contains_of_mem_all (hl : l.FitsIn bounds) {region : Rect}
    (h : region ∈ (regionsIn l bounds e suggestions).all) {x y : Nat}
    (hcell : region.contains x y = true) : bounds.contains x y = true := by
  have hpanels := hl.inside
  simp only [Layout.panels, List.forall_mem_cons] at hpanels
  obtain ⟨-, hinput, hchips, -, htable, -, -⟩ := hpanels
  simp only [Regions.all, List.mem_append, List.mem_map, Option.mem_toList] at h
  obtain (((((h | h) | h) | ⟨p, h, rfl⟩) | ⟨p, h, rfl⟩) | ⟨⟨area, id⟩, h, rfl⟩) | ⟨p, h, rfl⟩ := h
  · rw [congrArg Regions.input regionsIn_eq] at h
    obtain rfl : l.input = region := Option.some.inj h
    exact hinput x y hcell
  · rw [congrArg Regions.inputText regionsIn_eq] at h
    obtain rfl : boxed.inner l.input = region := Option.some.inj h
    exact hinput x y (Rect.contains_inset hcell)
  · rw [congrArg Regions.table regionsIn_eq] at h
    obtain ⟨-, rfl⟩ : e.tableOpen = true ∧ l.table = region := by
      simpa [baseRegions] using h
    exact htable x y hcell
  · exact htable x y (contains_of_mem_tableRegions (mem_tableRegions_of_mem_tableRows h) hcell)
  · rw [toggles_regionsIn] at h
    exact hchips x y (contains_of_mem_chipRegions h hcell)
  · exact contains_of_dropdown_eq h hcell
  · obtain ⟨area, id, harea, hinside⟩ := inside_of_mem_options h
    exact contains_of_dropdown_eq harea (Rect.contains_inset (hinside.contains hcell))

theorem placed_regionsIn (hl : l.FitsIn bounds) :
    (regionsIn l bounds e suggestions).Placed l bounds (e.view suggestions).chips := by
  have hchips : l.chips.InRange := hl.inRange l.chips (by simp [Layout.panels])
  constructor
  · exact fun region h x y hcell => contains_of_mem_all hl h hcell
  · rw [toggles_regionsIn]
    exact fun p hp => inside_of_mem_chipRegions hchips hp
  · rw [toggles_regionsIn]
    exact pairwise_chipRegions hchips
  · rw [toggles_regionsIn]
    exact (pairwise_chipRegions hchips).imp fun hapart _ _ => not_contains_of_right_le hapart
  · rw [toggles_regionsIn]
    exact sublist_chipRegions hchips
  · exact fun p hp => inside_of_mem_options hp
  · exact fun p hp => inside_of_mem_tableRegions (mem_tableRegions_of_mem_tableRows hp)

end Placed

/-! ## Arithmetic -/

/-- The rows of the table, while it is open, with checks. -/
def checkedTableRows (l : Layout) (e : Editor) (suggestions : Option (List Suggestion)) :
    Option (List (Rect × Nat)) :=
  if e.tableOpen then checkedTableRegions l.table (suggestions.getD []) e.tableRow else some []

theorem checkedTableRows_eq {l : Layout} (htable : l.table.InRange) (e : Editor)
    (suggestions : Option (List Suggestion)) :
    checkedTableRows l e suggestions =
      some (if e.tableOpen then tableRegions l.table (suggestions.getD []) e.tableRow else []) := by
  rw [checkedTableRows]
  split
  · exact checkedTableRegions_eq htable _ _
  · rfl

/-- The cell of the cursor and the regions of an editor that is drawn with this layout, with a check
of every sum and difference of coordinates. -/
def checkedFrame (l : Layout) (bounds : Rect) (e : Editor)
    (suggestions : Option (List Suggestion)) : Option (Option (Nat × Nat) × Regions) := do
  let input := inputLayout l.input e.line.column
  let cursor ← checkedCursor input e.line.column
  let toggles ← checkedChipRegions l.chips (e.view suggestions)
  let tableRows ← checkedTableRows l e suggestions
  let base : Regions :=
    { input := some l.input
      inputText := some input.text
      inputScroll := input.scroll
      toggles := toggles
      table := if e.tableOpen then some l.table else none
      tableRows := tableRows }
  match openControl? (e.view suggestions) toggles with
  | none => some (cursor, base)
  | some (chip, anchor) =>
      let area := optionArea anchor bounds chip
      let options ← checkedOptionRegions area chip e.optionRow suggestions.isNone
      some (cursor, { base with dropdown := some (area, chip.dropdownId), options := options })

theorem checkedFrame_eq {l : Layout} {bounds : Rect} (hl : l.FitsIn bounds) (e : Editor)
    (suggestions : Option (List Suggestion)) :
    checkedFrame l bounds e suggestions =
      some (inputCursor (inputLayout l.input e.line.column) e.line.column,
        regionsIn l bounds e suggestions) := by
  have hpanels := hl.inRange
  simp only [Layout.panels, List.forall_mem_cons] at hpanels
  obtain ⟨-, hinput, hchips, -, htable, -, -⟩ := hpanels
  simp only [checkedFrame, checkedCursor_eq hinput, checkedChipRegions_eq hchips,
    checkedTableRows_eq htable, checkedOptionRegions_eq, Option.bind_eq_bind, Option.bind_some]
  rw [regionsIn]
  cases hcontrol : openControl? (e.view suggestions) (chipRegions l.chips (e.view suggestions)) with
  | none => simp only [baseRegions, hcontrol]
  | some control => simp only [baseRegions, hcontrol]

/-! ## The widget -/

namespace App

/-- Whatever the state of the widget and the size of the screen: if the panels lie on the screen,
no arithmetic leaves the range of coordinates, and what is recorded lies where it was drawn. -/
theorem placed_drawnIn (a : App) {l : Layout} {bounds : Rect} (hl : l.FitsIn bounds) :
    checkedFrame l bounds a.editor a.suggestions =
        some (inputCursor (inputLayout l.input a.editor.line.column) a.editor.line.column,
          (a.drawnIn l bounds).regions) ∧
      (a.drawnIn l bounds).regions.Placed l bounds (a.editor.view a.suggestions).chips :=
  ⟨checkedFrame_eq hl a.editor a.suggestions, placed_regionsIn hl⟩

/-- On a narrow screen the control of the second chip is out of view, and the list of options is cut
off on the right and below, so that four of twelve options are out of view. -/
theorem placed_drawnIn_clipped :
    let suggestion (n : Nat) : Suggestion :=
      ⟨Text.ofNat n, "rate".toList, "c".toList, .number (.integer n)⟩
    let a := handleAll (start (.ofStore {}) none) 0
      (.suggestionsLoaded ((List.range 12).map suggestion) ::
        ("rate*tax".toList.map fun c => .keyPress (.insert c)) ++ [.keyPress .nextDropdown])
    let bounds : Rect := ⟨0, 0, 10, 17⟩
    let l := layout bounds (by decide)
    let drawn := a.drawnIn l bounds
    l.FitsIn bounds ∧
      ((a.editor.view a.suggestions).chips.length = 2 ∧ drawn.regions.toggles.length = 1 ∧
        drawn.regions.dropdown = some (⟨7, 7, 3, 10⟩, "tag-0".toList) ∧
        drawn.regions.options.length = 8 ∧ drawn.regions.tableRows.length = 1) ∧
      (checkedFrame l bounds a.editor a.suggestions).map (·.2) = some drawn.regions ∧
      drawn.regions.Placed l bounds (a.editor.view a.suggestions).chips := by
  intro suggestion a bounds l drawn
  have hl : l.FitsIn bounds := Layout.fitsIn_layout ⟨by decide, by decide⟩ _
  obtain ⟨hchecked, hplaced⟩ := placed_drawnIn a hl
  refine ⟨hl, ⟨by decide +kernel, by decide +kernel, by decide +kernel, by decide +kernel,
    by decide +kernel⟩, ?_, hplaced⟩
  rw [hchecked, Option.map_some]

end App
end FormulaPad.Widget
