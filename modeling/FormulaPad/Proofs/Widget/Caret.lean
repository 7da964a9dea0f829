import FormulaPad.Proofs.Widget.Extent

/-!
# FormulaPad.Proofs.Widget.Caret

What the pointer does in the input line of a screen that has just been drawn.

Nothing lies over the input: the chips are below it, and the list of options lies
below one of them. So the pointer comes to the input itself, and moves the caret
behind as many characters as there are to the left of the cell, those that are
scrolled out of view among them. The cursor is drawn in the cell that stands for
the caret in the same way.

Main statements: `hit_of_contains_input` (what the pointer is on),
`pointerDown_input` (what it does there) and `pointerDown_cursor`.
-/

namespace FormulaPad.Widget

open Terminal Panel

theorem Layout.Stacked.input_above_chips {l : Layout} (h : l.Stacked) :
    l.input.bottom ≤ l.chips.y :=
  h.input_above l.chips List.mem_cons_self

/-! ## What the pointer is on -/

section Hit

variable {l : Layout} {bounds : Rect} {e : Editor} {suggestions : Option (List Suggestion)}
  {x y : Nat}

/-- The control of a chip does not start above the row of chips. -/
theorem le_y_of_mem_chipRegions {area anchor : Rect} {id : Text} {v : View}
    (h : (anchor, id) ∈ chipRegions area v) : min area.y maxCoordinate ≤ anchor.y := by
  obtain ⟨c, -, hc⟩ := List.mem_filterMap.1 h
  rw [controlRegion?] at hc
  split at hc
  · obtain ⟨rfl, -⟩ := Prod.mk.inj (Option.some.inj hc)
    simp only [Rect.clamped, boxed, Grid.Borders.inner, Rect.inset, Rect.bottom, satAdd, if_true]
    omega
  · cases hc

/-- The list of options, which hangs below the control of a chip, lies below the input. -/
theorem Layout.Stacked.input_above_options (hl : l.Stacked) {v : View} {chip : Chip} {anchor : Rect}
    (h : openControl? v (chipRegions l.chips v) = some (chip, anchor)) (bounds : Rect)
    (hy : y < l.input.bottom) : y < (optionArea anchor bounds chip).y := by
  have hanchor : min l.chips.y maxCoordinate ≤ anchor.y := by
    rw [openControl?] at h
    split at h
    · cases h
    · obtain ⟨⟨region, id⟩, hfind, heq⟩ := Option.map_eq_some_iff.1 h
      obtain ⟨-, rfl⟩ := Prod.mk.inj heq
      exact le_y_of_mem_chipRegions (List.mem_of_find?_eq_some hfind)
  have habove := hl.input_above_chips
  simp only [optionArea, Rect.inter, Rect.clamped, Rect.bottom, satAdd] at habove hy ⊢
  -- which coordinate is the greatest does not matter
  generalize maxCoordinate = m at hanchor habove hy ⊢
  omega

/-- The list of options does not lie over the input. -/
theorem not_covers_input (hl : l.Stacked) (hcell : l.input.contains x y = true) :
    (regionsIn l bounds e suggestions).covers x y = false := by
  obtain ⟨-, -, hy⟩ := Rect.contains_iff.1 hcell
  rw [Regions.covers, regionsIn]
  split
  · rfl
  · next chip anchor hcontrol =>
      have hbelow := hl.input_above_options hcontrol bounds hy
      rw [Option.any_some, ← Bool.not_eq_true, Rect.contains_iff]
      exact fun hcovers => Nat.not_le.2 hbelow hcovers.2.1

/-- In the text of the input the pointer is on the character column of the cell. -/
theorem hit_of_contains_input (hl : l.Stacked)
    (hcell : (boxed.inner l.input).contains x y = true) :
    (regionsIn l bounds e suggestions).hit x y =
      .input ((inputLayout l.input e.line.column).scroll + (x - (boxed.inner l.input).x)) := by
  have hinput : l.input.contains x y = true := Rect.contains_inset hcell
  have hdropdown : (regionsIn l bounds e suggestions).dropdownHit? x y = none :=
    dropdownHit?_of_not_covers (not_covers_input hl hinput)
  have htoggles : findAt x y (regionsIn l bounds e suggestions).toggles = none := by
    rw [toggles_regionsIn, findAt_eq_none_iff]
    intro control id hcontrol hcontains
    have hchips := contains_of_mem_chipRegions hcontrol hcontains
    rw [not_contains_of_bottom_le hl.input_above_chips hchips] at hinput
    cases hinput
  have hregion : (regionsIn l bounds e suggestions).input = some l.input :=
    congrArg Regions.input regionsIn_eq
  have htext : (regionsIn l bounds e suggestions).inputText = some (boxed.inner l.input) :=
    congrArg Regions.inputText regionsIn_eq
  have hscroll : (regionsIn l bounds e suggestions).inputScroll =
      (inputLayout l.input e.line.column).scroll := congrArg Regions.inputScroll regionsIn_eq
  have hwidth : x - (boxed.inner l.input).x ≤ (boxed.inner l.input).width := by
    have hx := (Rect.contains_iff.1 hcell).1
    simp only [Rect.right, satAdd] at hx
    omega
  simp only [Regions.hit, hdropdown, htoggles, hregion, Option.any_some, hinput, if_true,
    Regions.inputColumn, htext, hscroll, Nat.min_eq_left hwidth]

end Hit

/-! ## What it does there -/

/-- On the input the pointer closes the dropdown that is open, and moves the caret. -/
theorem activate_input (suggestions : List Suggestion) (e : Editor) (column : Nat) :
    App.activate suggestions (e.pointerDown .input) (.input column) =
      e.closeDropdown.setColumn column := by
  simp [App.activate, Editor.pointerDown, Editor.closeDropdown, PointerTarget.isOf,
    PointerTarget.keepsTable]

namespace App

variable {a : App} {l : Layout} {x y : Nat}

/-- Where the input stands when the widget is drawn with this layout. -/
def inputIn (a : App) (l : Layout) : InputLayout := inputLayout l.input a.editor.line.column

/-- In the text of the input the pointer moves the caret behind as many characters as there are to
the left of the cell, and changes neither the formula nor any value. -/
theorem pointerDown_input (hl : l.Stacked) (bounds : Rect)
    (hcell : (a.inputIn l).text.contains x y = true) (now : Nat) :
    let clicked := (a.drawnIn l bounds).handle now (.pointerDown x y)
    clicked.editor.line =
        a.editor.line.moveToColumn ((a.inputIn l).scroll + (x - (a.inputIn l).text.x)) ∧
      clicked.editor.store.content = a.editor.store.content := by
  intro clicked
  have hclicked : clicked = (a.drawnIn l bounds).edit fun e =>
      e.closeDropdown.setColumn ((a.inputIn l).scroll + (x - (a.inputIn l).text.x)) :=
    handle_pointerDown (a := a.drawnIn l bounds) (hit_of_contains_input hl hcell) _
      (activate_input _ a.editor _) now
  rw [hclicked]
  exact ⟨rfl, content_edit ..⟩

/-! ## The cursor -/

/-- The cell of the cursor when the widget is drawn with this layout. -/
def cursorIn (a : App) (l : Layout) : Option (Nat × Nat) :=
  inputCursor (a.inputIn l) a.editor.line.column

theorem cursor_frame (a : App) (l : Layout) : (a.frame l).cursor = a.cursorIn l := rfl

/-- In a box with an inside, the cursor stands as many cells from the left as there are characters
in view before the caret. -/
theorem cursorIn_eq (hrange : l.input.InRange) (hinside : (a.inputIn l).text.isEmpty = false) :
    let x := (a.inputIn l).text.x + (a.editor.line.column - (a.inputIn l).scroll)
    a.cursorIn l = some (x, (a.inputIn l).text.y) ∧
      (a.inputIn l).text.contains x (a.inputIn l).text.y = true := by
  intro x
  have htext : (a.inputIn l).text.InRange := hrange.inner
  have hroom : 0 < (a.inputIn l).text.width ∧ 0 < (a.inputIn l).text.height := by
    simpa [Rect.isEmpty, Nat.pos_iff_ne_zero] using hinside
  -- the caret is in view
  have hview : a.editor.line.column < (a.inputIn l).scroll + (a.inputIn l).text.width :=
    Window.lt_start_add hroom.1
  have hoffset : min (toCoordinate (a.editor.line.column - (a.inputIn l).scroll))
      ((a.inputIn l).text.width - 1) = a.editor.line.column - (a.inputIn l).scroll := by
    have hright := htext.right_le
    simp only [toCoordinate]
    omega
  constructor
  · rw [cursorIn, inputCursor, hinside, hoffset]
    rfl
  · exact htext.contains_iff.2 (by omega)

/-- Whatever the state of the widget: with panels one below the other, and an input box that has an
inside, the cursor is drawn inside it, and a pointer-down on its cell leaves the line with its
caret, the formula and all values as they are. -/
theorem pointerDown_cursor (a : App) {l : Layout} (hl : l.Stacked) (hrange : l.input.InRange)
    (hinside : (a.inputIn l).text.isEmpty = false) (bounds : Rect) (now : Nat) :
    ∃ x y, a.cursorIn l = some (x, y) ∧ (a.inputIn l).text.contains x y = true ∧
      let clicked := (a.drawnIn l bounds).handle now (.pointerDown x y)
      clicked.editor.line = a.editor.line ∧
        clicked.editor.store.content = a.editor.store.content := by
  obtain ⟨hcursor, hcell⟩ := cursorIn_eq hrange hinside
  obtain ⟨hline, hcontent⟩ := pointerDown_input hl bounds hcell now
  refine ⟨_, _, hcursor, hcell, ?_, hcontent⟩
  have hscroll : (a.inputIn l).scroll ≤ a.editor.line.column := Window.start_le ..
  rw [hline, Nat.add_sub_cancel_left, Nat.add_sub_cancel' hscroll, Line.moveToColumn_column]

/-- Text that is wider than the box, with wide characters in it: the caret stands behind eleven
characters, six of which are scrolled out of view. -/
theorem pointerDown_cursor_scrolled :
    let a := handleAll (start (.ofStore {}) none) 0
      ("漢字*tax+1000".toList.map fun c => .keyPress (.insert c))
    let bounds : Rect := ⟨0, 0, 8, 20⟩
    let l := layout bounds (by decide)
    (l.Stacked ∧ l.input.InRange ∧ (a.inputIn l).text.isEmpty = false) ∧
      (a.editor.line.column = 11 ∧ (a.inputIn l).scroll = 6 ∧ a.cursorIn l = some (6, 3)) ∧
      let clicked := (a.drawnIn l bounds).handle 0 (.pointerDown 6 3)
      clicked.editor.line = a.editor.line ∧
        clicked.editor.store.content = a.editor.store.content := by
  intro a bounds l
  have hl : l.Stacked := Layout.stacked_layout bounds _
  have hrange : l.input.InRange := ⟨by decide, by decide⟩
  have hinside : (a.inputIn l).text.isEmpty = false := by decide
  have hcursor : a.cursorIn l = some (6, 3) := by decide +kernel
  obtain ⟨x, y, hxy, -, hkept⟩ := pointerDown_cursor a hl hrange hinside bounds 0
  obtain ⟨rfl, rfl⟩ := Prod.mk.inj (Option.some.inj (hcursor.symm.trans hxy))
  exact ⟨⟨hl, hrange, hinside⟩, ⟨by decide +kernel, by decide +kernel, hcursor⟩, hkept⟩

end App
end FormulaPad.Widget
