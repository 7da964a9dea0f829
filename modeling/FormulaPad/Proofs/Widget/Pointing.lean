import FormulaPad.Proofs.Panel.Regions
import FormulaPad.Proofs.Widget.Highlight

/-!
# FormulaPad.Proofs.Widget.Pointing

What the pointer does on a screen that has just been drawn.

The regions come from the same view that the pointer later looks at, and the
regions of rows do not meet. The list of options lies over everything else; the
table lies below the input and the chips, so that nothing but the list of options
can be in front of its rows. Only this much of the layout matters: the panels
stand one below the other.

Main statements: `meets_iff` and `stacked_layout` (the layout where there is room
for all panels), `hit_of_mem_options` and `hit_of_mem_tableRows` (what the pointer
is on), and `pointerDown_drawnIn` (what it does there).
-/

namespace FormulaPad

open Terminal Panel

namespace Widget

/-! ## Panels one below the other -/

namespace Layout

/-- The panels from the top down. -/
def panels (l : Layout) : List Rect := [l.heading, l.input, l.chips, l.result, l.table, l.hints]

/-- Every panel ends above all that come after it. -/
def Stacked (l : Layout) : Prop := l.panels.Pairwise fun r s => r.bottom ≤ s.y

/-- The panels meet the constraints on their heights in an area that they fill from the top down. -/
structure Meets (l : Layout) (area : Rect) : Prop where
  heights : l.panels.map (·.height) = [2, 3, 3, 3, l.table.height, 2]
  le_table : leastTableHeight ≤ l.table.height
  sides : ∀ panel ∈ l.panels, panel.x = area.x ∧ panel.width = area.width
  top : l.heading.y = area.y
  adjoin : l.panels.IsChain fun r s => r.y + r.height = s.y
  bottom : l.hints.y + l.hints.height = area.y + area.height

/-- All constraints are met just where there is room for all panels, and by one layout only. -/
theorem meets_iff {l : Layout} {area : Rect} : l.Meets area ↔ ∃ h, l = layout area h := by
  constructor
  · rintro ⟨hheights, htable, hsides, htop, hadjoin, hbottom⟩
    obtain ⟨⟨_, _, _, _⟩, ⟨_, _, _, _⟩, ⟨_, _, _, _⟩, ⟨_, _, _, _⟩, ⟨_, _, _, _⟩, ⟨_, _, _, _⟩⟩ := l
    simp only [panels, List.map_cons, List.map_nil, List.cons.injEq, and_true,
      List.forall_mem_cons, List.isChain_cons_cons, leastTableHeight] at *
    obtain ⟨rfl, rfl, rfl, rfl, -, rfl⟩ := hheights
    obtain ⟨⟨rfl, rfl⟩, ⟨rfl, rfl⟩, ⟨rfl, rfl⟩, ⟨rfl, rfl⟩, ⟨rfl, rfl⟩, ⟨rfl, rfl⟩, -⟩ := hsides
    refine ⟨by simp only [leastHeight, leastTableHeight]; omega, ?_⟩
    simp only [layout, mk.injEq, Rect.mk.injEq, true_and, and_true]
    omega
  · rintro ⟨hroom, rfl⟩
    simp only [leastHeight, leastTableHeight] at hroom
    constructor
    case le_table => simp only [layout, leastTableHeight]; omega
    case bottom => simp only [layout]; omega
    case adjoin => simp [panels, layout, Nat.add_assoc]
    case heights | sides | top => simp [panels, layout]

theorem stacked_layout (area : Rect) (h : leastHeight ≤ area.height) : (layout area h).Stacked := by
  simp [Stacked, panels, layout, Rect.bottom, satAdd]
  omega

/-- The input ends above the panels that come after it. -/
theorem Stacked.input_above {l : Layout} (h : l.Stacked) :
    ∀ panel ∈ [l.chips, l.result, l.table, l.hints], l.input.bottom ≤ panel.y :=
  (List.pairwise_cons.1 (List.pairwise_cons.1 h).2).1

theorem Stacked.input_above_table {l : Layout} (h : l.Stacked) : l.input.bottom ≤ l.table.y :=
  h.input_above l.table (by simp)

theorem Stacked.chips_above_table {l : Layout} (h : l.Stacked) : l.chips.bottom ≤ l.table.y := by
  simp only [Stacked, panels, List.pairwise_cons] at h
  exact h.2.2.1 l.table (by simp)

end Layout

theorem not_contains_of_bottom_le {r s : Rect} {x y : Nat} (h : r.bottom ≤ s.y)
    (hcell : s.contains x y = true) : r.contains x y = false := by
  rw [← Bool.not_eq_true, Rect.contains_iff]
  rw [Rect.contains_iff] at hcell
  omega

/-! ## What the pointer is on -/

/-- The list of options lies over the cell. -/
def Regions.covers (r : Regions) (x y : Nat) : Bool := r.dropdown.any (·.1.contains x y)

section Hit

variable {l : Layout} {bounds region : Rect} {e : Editor} {suggestions : Option (List Suggestion)}
  {x y number : Nat}

/-- The list of options only adds to the regions. -/
theorem regionsIn_eq :
    regionsIn l bounds e suggestions =
      { baseRegions l e suggestions with
        dropdown := (regionsIn l bounds e suggestions).dropdown
        options := (regionsIn l bounds e suggestions).options } := by
  rw [regionsIn]
  split <;> rfl

theorem openChip?_of_openControl? {v : View} {toggles : List (Rect × Text)} {chip : Chip}
    {anchor : Rect} (h : openControl? v toggles = some (chip, anchor)) :
    v.openChip? = some chip := by
  rw [openControl?] at h
  split at h
  · cases h
  · next hopen =>
      obtain ⟨_, -, heq⟩ := Option.map_eq_some_iff.1 h
      rw [hopen, (Prod.mk.inj heq).1]

/-- Where an option is recorded, there is an open chip with this option, and the pointer is on
it. -/
theorem hit_of_mem_options
    (hmem : (region, number) ∈ (regionsIn l bounds e suggestions).options)
    (hcell : region.contains x y = true) :
    ∃ chip, (e.view suggestions).openChip? = some chip ∧ number < chip.options.length ∧
      (regionsIn l bounds e suggestions).hit x y = .option chip.dropdownId number := by
  rw [regionsIn] at hmem ⊢
  cases hcontrol : openControl? (e.view suggestions) (baseRegions l e suggestions).toggles with
  | none =>
      rw [hcontrol] at hmem
      cases hmem
  | some control =>
      obtain ⟨chip, anchor⟩ := control
      simp only [hcontrol] at hmem ⊢
      obtain ⟨-, -, -, -, hlt, -⟩ := mem_optionRegions_iff.1 hmem
      refine ⟨chip, openChip?_of_openControl? hcontrol, hlt, ?_⟩
      simp only [Regions.hit, Regions.dropdownHit?, contains_of_mem_optionRegions hmem hcell,
        findAt_optionRegions hmem hcell, if_true]

/-- Where the list of options does not lie, it has nothing. -/
theorem dropdownHit?_of_not_covers {r : Regions} (hfree : r.covers x y = false) :
    r.dropdownHit? x y = none := by
  rw [Regions.covers] at hfree
  rw [Regions.dropdownHit?]
  cases hsome : r.dropdown with
  | none => rfl
  | some dropdown =>
      rw [hsome, Option.any_some] at hfree
      simp [hfree]

/-- What has to be out of the way for the pointer to be on a row of the table. -/
theorem hit_eq_tableRow {r : Regions} (hfree : r.covers x y = false)
    (htoggles : findAt x y r.toggles = none) (hinput : r.input.any (·.contains x y) = false)
    (htable : r.table.any (·.contains x y) = true) (hrow : findAt x y r.tableRows = some number) :
    r.hit x y = .tableRow number := by
  simp [Regions.hit, dropdownHit?_of_not_covers hfree, htoggles, hinput, htable, hrow]

/-- Where a row of the table is recorded and the list of options does not lie over it, the pointer
is on this row. -/
theorem hit_of_mem_tableRows (hl : l.Stacked)
    (hmem : (region, number) ∈ (regionsIn l bounds e suggestions).tableRows)
    (hcell : region.contains x y = true)
    (hfree : (regionsIn l bounds e suggestions).covers x y = false) :
    number < (suggestions.getD []).length ∧
      (regionsIn l bounds e suggestions).hit x y = .tableRow number := by
  have htable : (regionsIn l bounds e suggestions).table =
      if e.tableOpen then some l.table else none := congrArg Regions.table regionsIn_eq
  have hrows : (regionsIn l bounds e suggestions).tableRows =
      if e.tableOpen then tableRegions l.table (suggestions.getD []) e.tableRow else [] :=
    congrArg Regions.tableRows regionsIn_eq
  have htoggles : (regionsIn l bounds e suggestions).toggles =
      chipRegions l.chips (e.view suggestions) := congrArg Regions.toggles regionsIn_eq
  have hinput : (regionsIn l bounds e suggestions).input = some l.input :=
    congrArg Regions.input regionsIn_eq
  cases hopen : e.tableOpen with
  | false =>
      rw [hrows, hopen] at hmem
      cases hmem
  | true =>
      rw [hopen, if_pos rfl] at hrows htable
      rw [hrows] at hmem
      have hpanel : l.table.contains x y = true := contains_of_mem_tableRegions hmem hcell
      obtain ⟨-, -, -, hlt, -⟩ := mem_tableRegions_iff.1 hmem
      refine ⟨hlt, hit_eq_tableRow hfree ?_ ?_ ?_ ?_⟩
      · rw [htoggles, findAt_eq_none_iff]
        intro control id hcontrol hcontains
        have hchips := contains_of_mem_chipRegions hcontrol hcontains
        rw [not_contains_of_bottom_le hl.chips_above_table hpanel] at hchips
        cases hchips
      · rw [hinput]
        exact not_contains_of_bottom_le hl.input_above_table hpanel
      · rw [htable]
        exact hpanel
      · rw [hrows]
        exact findAt_tableRegions hmem hcell

end Hit

/-! ## What it does there -/

/-- What the pointer does on an option of the open chip. -/
theorem activate_option {e : Editor} {suggestions : List Suggestion} {chip : Chip}
    {option : ChipOption} {number : Nat}
    (hopen : (e.view (some suggestions)).openChip? = some chip)
    (hoption : chip.options[number]? = some option) :
    App.activate suggestions (e.pointerDown (.dropdown chip.dropdownId))
        (.option chip.dropdownId number) =
      e.escape.selectTagValue chip.name option.value := by
  have hid : e.openDropdown = some chip.dropdownId := (View.of_openChip?_build hopen).2
  have hdown : e.pointerDown (.dropdown chip.dropdownId) = e.escape := by
    simp [Editor.pointerDown, Editor.escape, hid, PointerTarget.isOf, PointerTarget.keepsTable]
  have hchip : (e.escape.view (some suggestions)).chip? chip.dropdownId = some chip :=
    View.chip?_of_openChip?_build hopen
  simp only [App.activate, hdown, hchip, hoption]

theorem activate_tableRow {e : Editor} {suggestions : List Suggestion} {s : Suggestion}
    {number : Nat} (h : suggestions[number]? = some s) :
    App.activate suggestions e (.tableRow number) = e.selectSuggestion s := by
  simp only [App.activate, h]

/-- On the table the pointer closes the dropdown that is open. -/
theorem pointerDown_suggestionTable (e : Editor) :
    e.pointerDown .suggestionTable = e.closeDropdown := by
  simp [Editor.pointerDown, Editor.closeDropdown, PointerTarget.isOf, PointerTarget.keepsTable]

namespace App

variable {a : App} {x y : Nat}

/-- Drawn with this layout on a screen with these bounds. -/
def drawnIn (a : App) (l : Layout) (bounds : Rect) : App :=
  { a with regions := regionsIn l bounds a.editor a.suggestions }

theorem render_eq_drawnIn (a : App) (l : Layout) :
    a.render l = a.drawnIn l ⟨0, 0, a.width, a.height⟩ := rfl

/-- What the pointer comes to where it is on `hit`. -/
theorem handle_pointerDown {hit : Hit} (hhit : a.regions.hit x y = hit) (f : Editor → Editor)
    (h : activate a.loaded (a.editor.pointerDown hit.target) hit = f a.editor) (now : Nat) :
    a.handle now (.pointerDown x y) = a.edit f := by
  subst hhit
  exact edit_congr (f := fun e => activate a.loaded (e.pointerDown _) _) h

/-- On a screen that has just been drawn, the pointer takes the option of the open chip that is
recorded for the cell, and leaves the input line as it is; and it takes the suggestion of the row
that is recorded for the cell, with no dropdown open, unless the list of options lies over it. -/
theorem pointerDown_drawnIn (a : App) {l : Layout} (hl : l.Stacked) (bounds : Rect) (x y now : Nat) :
    let drawn := a.drawnIn l bounds
    let clicked := drawn.handle now (.pointerDown x y)
    (∀ region number, (region, number) ∈ drawn.regions.options → region.contains x y = true →
        ∃ chip option, (a.editor.view a.suggestions).openChip? = some chip ∧
          chip.options[number]? = some option ∧
          TakesValue drawn clicked chip.name option.value ∧
          clicked.editor.line = a.editor.line) ∧
      ∀ region number, (region, number) ∈ drawn.regions.tableRows →
        region.contains x y = true → drawn.regions.covers x y = false →
          ∃ s, a.loaded[number]? = some s ∧
            clicked = drawn.edit fun e => e.closeDropdown.selectSuggestion s := by
  intro drawn clicked
  constructor
  · intro region number hmem hcell
    obtain ⟨chip, hopen, hlt, hhit⟩ := hit_of_mem_options hmem hcell
    have hoption : chip.options[number]? = some chip.options[number] := List.getElem?_eq_getElem hlt
    have hview : (a.editor.view (some a.loaded)).openChip? = some chip := by
      rw [view_loaded, hopen]
    let take (e : Editor) : Editor := e.escape.selectTagValue chip.name chip.options[number].value
    have hclicked : clicked = drawn.edit take :=
      handle_pointerDown (a := drawn) hhit take (activate_option hview hoption) now
    refine ⟨chip, chip.options[number], hopen, hoption, ?_⟩
    rw [hclicked]
    exact ⟨takesValue_edit rfl rfl, rfl⟩
  · intro region number hmem hcell hfree
    obtain ⟨hlt, hhit⟩ := hit_of_mem_tableRows hl hmem hcell hfree
    have hget : a.loaded[number]? = some a.loaded[number] := List.getElem?_eq_getElem hlt
    refine ⟨a.loaded[number], hget, handle_pointerDown (a := drawn) hhit _ ?_ now⟩
    rw [Hit.target, pointerDown_suggestionTable]
    exact activate_tableRow hget

/-- The options of a name reach down over the table: on the left the pointer takes one of them, and
on the right a row of the table. -/
theorem pointerDown_render_overlapping :
    let suggestion (n : Nat) : Suggestion :=
      ⟨Text.ofNat n, "ab".toList, "c".toList, .number (.integer n)⟩
    let a := handleAll (start (.ofStore {}) none) 0
      [.suggestionsLoaded ((List.range 6).map suggestion), .keyPress (.insert 'a'),
        .keyPress (.insert 'b'), .keyPress .nextDropdown]
    let l := layout ⟨0, 0, 80, 24⟩ (by decide)
    l.Stacked ∧
      (TakesValue (a.render l) ((a.render l).handle 0 (.pointerDown 6 13)) "ab".toList "5".toList ∧
        ((a.render l).handle 0 (.pointerDown 6 13)).editor.line = a.editor.line) ∧
      (a.render l).handle 0 (.pointerDown 40 13) =
        (a.render l).edit fun e => e.closeDropdown.selectSuggestion (suggestion 0) := by
  intro suggestion a l
  have hl : l.Stacked := Layout.stacked_layout _ _
  obtain ⟨chip, option, hopen, hoption, htakes, hline⟩ :=
    (pointerDown_drawnIn a hl ⟨0, 0, a.width, a.height⟩ 6 13 0).1 ⟨6, 13, 12, 1⟩ 5
      (by decide +kernel) (by decide)
  obtain ⟨s, hget, hclicked⟩ :=
    (pointerDown_drawnIn a hl ⟨0, 0, a.width, a.height⟩ 40 13 0).2 ⟨1, 13, 78, 1⟩ 0
      (by decide +kernel) (by decide) (by decide +kernel)
  have hchip : (a.editor.view a.suggestions).openChip?.map (·.name) = some "ab".toList := by
    decide +kernel
  have hvalue : (a.editor.view a.suggestions).openChip?.bind (·.options[5]?.map (·.value)) =
      some "5".toList := by decide +kernel
  rw [hopen, Option.map_some, Option.some_inj] at hchip
  rw [hopen, Option.bind_some, hoption, Option.map_some, Option.some_inj] at hvalue
  have hs : a.loaded[0]? = some (suggestion 0) := by decide +kernel
  rw [hs, Option.some_inj] at hget
  rw [render_eq_drawnIn, hget, ← hchip, ← hvalue]
  exact ⟨hl, ⟨htakes, hline⟩, hclicked⟩

end App
end Widget
end FormulaPad
