import FormulaPad.Proofs.Terminal.Spots
import FormulaPad.Proofs.Widget.Caret

/-!
# FormulaPad.Proofs.Widget.InputCells

Which characters the input line of a drawn screen shows, and whether the pointer
finds them.

Panels are drawn from their first rows down, and all that is drawn after the input
lies below it. So each unit of the text in view is found in its first cell, where
the input has drawn it. The pointer takes the cells to its left for characters.
That is right if the characters in view take one cell each, and only then: behind a
wide character it is on a later one, and a combined one has no cell of its own.

Main statements: `paintsFrom_drawPanel`, `paintsFrom_drawTable` and
`paintsFrom_drawOptions` (panels are drawn from the top down), `cell?_frame` (what
is found in the cells of the input) and `pointsAtShown_iff`.
-/

namespace FormulaPad

open Terminal

/-! ## Panels from the top down -/

/-- Only cells from the row `top` down have changed. -/
abbrev Terminal.Grid.PaintsFrom (top : Nat) : Grid → Grid → Prop :=
  Grid.Paints (fun _ v => top ≤ v) Grid.anyStyle

theorem Terminal.Grid.PaintsFrom.mono {g g' : Grid} {top top' : Nat} (h : g.PaintsFrom top g')
    (hle : top' ≤ top) : g.PaintsFrom top' g' :=
  Grid.Paints.mono h (fun _ _ hv => Nat.le_trans hle hv) fun _ _ _ _ hs => hs

namespace Panel

variable (g : Grid) {area : Rect}

theorem y_inter_bounds (area : Rect) : (area.inter g.bounds).y = area.y := Nat.max_zero area.y

/-- The inside of an area does not start above it. -/
theorem le_y_inner_inter (b : Grid.Borders) (h : area.y ≤ maxCoordinate) :
    area.y ≤ (b.inner (area.inter g.bounds)).y := by
  have htop : (area.inter g.bounds).y = area.y := y_inter_bounds g area
  simp only [Grid.Borders.inner, Rect.inset, Rect.bottom, satAdd]
  split <;> omega

theorem paintsFrom_drawBlock (area : Rect) (b : Grid.Borders) (title : Span) :
    g.PaintsFrom area.y (g.drawBlock area b title) :=
  (Grid.paints_drawBlock g area b title).mono (fun _ _ h => h.2) fun _ _ _ _ hs => hs

theorem paintsFrom_drawPanel (harea : area.y ≤ maxCoordinate) (b : Grid.Borders) (title : Span)
    (lines : List (List Span)) : g.PaintsFrom area.y (drawPanel g area b title lines) :=
  (paintsFrom_drawBlock g area b title).trans
    (Grid.PaintsFrom.mono (Grid.paints_drawLines _ _ lines) (le_y_inner_inter g b harea))

theorem paintsFrom_drawTableRows (inner : Rect) (suggestions : List Suggestion) (highlight : Nat) :
    g.PaintsFrom inner.y (drawTableRows g inner suggestions highlight) := by
  cases hempty : inner.isEmpty with
  | true =>
      rw [drawTableRows, if_pos hempty]
      exact .refl g
  | false =>
      have hheader : g.PaintsFrom inner.y (drawTableLine g (tableLine inner 0) .header tableHeader) :=
        (paints_drawTableLine_all g .header tableHeader rfl).mono (fun _ _ h => Nat.le_of_eq h.symm)
          fun _ _ _ _ hs => hs
      rw [drawTableRows_eq g hempty]
      refine hheader.trans (Grid.Paints.foldl (fun g row _ => ?_) _)
      exact (paints_drawTableRow inner suggestions.length highlight g row.1 row.2).mono
        (fun _ _ h => by omega) fun _ _ _ _ hs => hs

theorem paintsFrom_drawTable (harea : area.y ≤ maxCoordinate)
    (suggestions : Option (List Suggestion)) (highlight : Nat) :
    g.PaintsFrom area.y (drawTable g area suggestions highlight) := by
  rw [drawTable]
  split
  · exact paintsFrom_drawPanel g harea boxed _ _
  · exact (paintsFrom_drawBlock g area boxed tableTitle).trans
      ((paintsFrom_drawTableRows _ _ _ highlight).mono (le_y_inner_inter g boxed harea))

theorem paintsFrom_drawOptions (harea : area.y ≤ maxCoordinate) (chip : Chip) (highlight : Nat)
    (loading : Bool) : g.PaintsFrom area.y (drawOptions g area chip highlight loading) := by
  have hfill : g.PaintsFrom area.y (g.fill (area.inter g.bounds) {}) :=
    (Grid.paints_fill g _ {}).mono (fun _ _ h => y_inter_bounds g area ▸ h.1)
      fun _ _ _ _ _ => trivial
  exact hfill.trans (paintsFrom_drawPanel _ harea boxed _ _)

/-! ## The text of the input -/

/-- Inside an area on the screen that has room for a line, each unit of the text in view is found in
its first cell. -/
theorem cell?_drawInput {g : Grid} (hg : g.Holds area) (hroom : 0 < (boxed.inner area).height)
    {text : Text} {column : Nat} {s : Spot}
    (hs : s ∈ spots (boxed.inner area).width (inputLayout area column).scroll
      (text.drop (inputLayout area column).scroll)) :
    (drawInput g area text column).cell? ((boxed.inner area).x + s.column) (boxed.inner area).y =
      some ⟨s.unit, .text⟩ := by
  have hne : text ≠ [] := by
    intro hnil
    rw [hnil, List.drop_nil] at hs
    cases hs
  have hcontains : (boxed.inner area).contains ((boxed.inner area).x + s.column)
      (boxed.inner area).y = true := by
    have hlies := lies_of_mem_spots hs
    have hfits := hlies.column_add_width_le
    have hpos := hlies.width_pos
    exact hg.inRange.inner.contains_iff.2 (by omega)
  have hcell : ((g.drawBlock area boxed ⟨" Enter formula ".toList, .header⟩).cell?
      ((boxed.inner area).x + s.column) (boxed.inner area).y).isSome = true :=
    (Grid.paints_drawBlock ..).isSome_cell? (hg.isSome_cell? _ _ (Rect.contains_inset hcontains))
  rw [drawInput, drawPanel, hg.inter_bounds, inputSpan, if_neg hne, Grid.drawLines_eq,
    List.take_of_length_le (by exact hroom)]
  exact Grid.cell?_drawSpans hs hcell

end Panel

namespace Widget

open Panel

/-! ## What is drawn after the input -/

section Draw

variable {l : Layout} {e : Editor} {suggestions : Option (List Suggestion)}

/-- The panels that are drawn after the input. -/
def drawBelow (g : Grid) (l : Layout) (e : Editor) (suggestions : Option (List Suggestion)) : Grid :=
  let g := drawChips g l.chips (e.view suggestions)
  let g := drawResult g l.result Evaluation.invalidMessage e.banner?
  let g := if e.tableOpen then drawTable g l.table suggestions e.tableRow else g
  drawHints g l.hints

theorem drawPanels_eq (g : Grid) (l : Layout) (e : Editor) (suggestions : Option (List Suggestion)) :
    drawPanels g l e suggestions =
      drawBelow (drawInput (drawHeading g l.heading (suggestions.map List.length)) l.input
        e.line.text e.line.column) l e suggestions := rfl

/-- It leaves the rows of the input as they are. -/
theorem paintsFrom_drawBelow (g : Grid) (hl : l.Stacked)
    (hrange : ∀ panel ∈ l.panels, panel.InRange) :
    g.PaintsFrom l.input.bottom (drawBelow g l e suggestions) := by
  have hbelow : ∀ panel ∈ [l.chips, l.result, l.table, l.hints],
      l.input.bottom ≤ panel.y ∧ panel.y ≤ maxCoordinate := by
    intro panel hmem
    refine ⟨hl.input_above panel hmem, ?_⟩
    have hbottom := (hrange panel (List.mem_cons_of_mem _ (List.mem_cons_of_mem _ hmem))).bottom_le
    omega
  simp only [List.forall_mem_cons] at hbelow
  obtain ⟨⟨hchips, hchips'⟩, ⟨hresult, hresult'⟩, ⟨htable, htable'⟩, ⟨hhints, hhints'⟩, -⟩ := hbelow
  have hdrawChips (g : Grid) : g.PaintsFrom l.input.bottom (drawChips g l.chips (e.view suggestions)) :=
    (paintsFrom_drawPanel g hchips' _ _ _).mono hchips
  have hdrawResult (g : Grid) : g.PaintsFrom l.input.bottom
      (drawResult g l.result Evaluation.invalidMessage e.banner?) := by
    cases e.banner? with
    | none => exact .refl g
    | some t => exact (paintsFrom_drawPanel g hresult' _ _ _).mono hresult
  have hdrawTable (g : Grid) : g.PaintsFrom l.input.bottom
      (if e.tableOpen then drawTable g l.table suggestions e.tableRow else g) := by
    split
    · exact (paintsFrom_drawTable g htable' suggestions e.tableRow).mono htable
    · exact .refl g
  have hdrawHints (g : Grid) : g.PaintsFrom l.input.bottom (drawHints g l.hints) :=
    (paintsFrom_drawPanel g hhints' _ _ _).mono hhints
  exact (((hdrawChips g).trans (hdrawResult _)).trans (hdrawTable _)).trans (hdrawHints _)

/-- In the rows of the input, the screen is as the input was drawn. -/
theorem cell?_draw (hl : l.Stacked) (hrange : ∀ panel ∈ l.panels, panel.InRange)
    (width height : Nat) :
    let headed := drawHeading (.blank width height) l.heading (suggestions.map List.length)
    ∀ u v, v < l.input.bottom →
      (draw l width height e suggestions).grid.cell? u v =
        (drawInput headed l.input e.line.text e.line.column).cell? u v := by
  intro headed u v hv
  have hpanels (g : Grid) : (drawBelow g l e suggestions).cell? u v = g.cell? u v :=
    (paintsFrom_drawBelow g hl hrange).cell?_eq u v (Nat.not_le.2 hv)
  refine Eq.trans ?_ (hpanels _)
  rw [← drawPanels_eq, draw]
  dsimp only
  split
  · rfl
  · next chip anchor hcontrol =>
      have hbelow : v < (optionArea anchor ⟨0, 0, width, height⟩ chip).y :=
        hl.input_above_options hcontrol _ hv
      have harea : (optionArea anchor ⟨0, 0, width, height⟩ chip).y ≤ maxCoordinate :=
        Nat.max_le.2 ⟨Nat.min_le_right .., Nat.zero_le _⟩
      exact (paintsFrom_drawOptions _ harea chip _ _).cell?_eq u v (Nat.not_le.2 hbelow)

end Draw

namespace App

/-! ## Characters in view -/

/-- The units of the input in view, where they are laid out. -/
def inputSpots (a : App) (l : Layout) : List Spot :=
  if (a.inputIn l).text.isEmpty then []
  else
    spots (a.inputIn l).text.width (a.inputIn l).scroll
      (a.editor.line.text.drop (a.inputIn l).scroll)

/-- On the screen that is drawn with this layout the cell shows the character with this number, or a
part of it: it is one of the cells that the unit with this character takes, and the unit stands in
the first of them. -/
def ShowsCharacter (a : App) (l : Layout) (x y number : Nat) : Prop :=
  let text := (a.inputIn l).text
  ∃ s ∈ a.inputSpots l, (text.x ≤ x ∧ s.takes (x - text.x) ∧ y = text.y) ∧ s.has number ∧
    (a.frame l).grid.cell? (text.x + s.column) y = some ⟨s.unit, .text⟩

/-- Right after drawing with this layout, a pointer-down on a cell that shows a character moves the
caret to the column of this character. -/
def PointsAtShown (a : App) (l : Layout) : Prop :=
  ∀ x y number now, a.ShowsCharacter l x y number →
    ((a.render l).handle now (.pointerDown x y)).editor.line.column = number

section Screen

variable {a : App} {l : Layout} {s : Spot}

theorem mem_inputSpots_iff :
    s ∈ a.inputSpots l ↔ (a.inputIn l).text.isEmpty = false ∧
      s ∈ spots (a.inputIn l).text.width (a.inputIn l).scroll
        (a.editor.line.text.drop (a.inputIn l).scroll) := by
  rw [inputSpots]
  split
  · next hempty => simp [hempty]
  · next hempty => simp [hempty]

-- of the layout only this is used: the panels stand one below the other, and on the screen
variable (hl : l.Stacked) (hfits : l.FitsIn ⟨0, 0, a.width, a.height⟩)
include hl hfits

/-- Each unit of the input in view is found in its first cell. -/
theorem cell?_frame (hwidth : a.width ≤ maxCoordinate) (hheight : a.height ≤ maxCoordinate)
    (hs : s ∈ a.inputSpots l) :
    (a.frame l).grid.cell? ((a.inputIn l).text.x + s.column) (a.inputIn l).text.y =
      some ⟨s.unit, .text⟩ := by
  obtain ⟨hinside, hmem⟩ := mem_inputSpots_iff.1 hs
  have hroom : 0 < (boxed.inner l.input).width ∧ 0 < (boxed.inner l.input).height := by
    have hinside : (boxed.inner l.input).isEmpty = false := hinside
    simpa [Rect.isEmpty, Nat.pos_iff_ne_zero] using hinside
  have hinput : (Grid.blank a.width a.height).Holds l.input :=
    Grid.holds_blank_of_contains hwidth hheight hfits.inRange_input
      ⟨Nat.lt_of_lt_of_le hroom.1 (Rect.width_inner_le boxed l.input),
        Nat.lt_of_lt_of_le hroom.2 (Rect.height_inner_le boxed l.input)⟩
      (hfits.inside l.input (by simp [Layout.panels]))
  have hheading : (Grid.blank a.width a.height).PaintsFrom l.heading.y
      (drawHeading (.blank a.width a.height) l.heading (a.suggestions.map List.length)) := by
    have hbottom := (hfits.inRange l.heading List.mem_cons_self).bottom_le
    exact paintsFrom_drawPanel _ (by omega) _ _ _
  have hrow : (boxed.inner l.input).y < l.input.bottom := by
    have hfirst : (boxed.inner l.input).contains (boxed.inner l.input).x (boxed.inner l.input).y =
        true := hinput.inRange.inner.contains_iff.2 (by omega)
    exact (Rect.contains_iff.1 (Rect.contains_inset hfirst)).2.2
  exact (cell?_draw hl hfits.inRange _ _ _ _ hrow).trans
    (cell?_drawInput (hinput.of_paints hheading) hroom.2 hmem)

/-! ## The character under the pointer -/

/-- In a cell of a unit in view, the pointer is behind as many characters as there are cells to the
left of it, those that are scrolled out of view among them. -/
theorem column_pointerDown_spot (hs : s ∈ a.inputSpots l) {offset : Nat} (hoffset : s.takes offset)
    (now : Nat) :
    ((a.render l).handle now (.pointerDown ((a.inputIn l).text.x + offset)
        (a.inputIn l).text.y)).editor.line.column =
      min ((a.inputIn l).scroll + offset) a.editor.line.text.length := by
  obtain ⟨hinside, hmem⟩ := mem_inputSpots_iff.1 hs
  have hcell : (a.inputIn l).text.contains ((a.inputIn l).text.x + offset)
      (a.inputIn l).text.y = true := by
    have htext : (a.inputIn l).text.InRange := hfits.inRange_input.inner
    have hlies := (lies_of_mem_spots hmem).column_add_width_le
    have hroom : 0 < (a.inputIn l).text.height := by
      simp only [Rect.isEmpty, Bool.or_eq_false_iff, beq_eq_false_iff_ne] at hinside
      omega
    obtain ⟨-, hlt⟩ := hoffset
    exact htext.contains_iff.2 (by omega)
  have hline := (pointerDown_input hl ⟨0, 0, a.width, a.height⟩ hcell now).1
  rw [render_eq_drawnIn, hline, Line.column_moveToColumn]
  exact congrArg (fun n => min ((a.inputIn l).scroll + n) _) (Nat.add_sub_cancel_left ..)

/-- If every character takes one cell of its own, and none before it is left out, the pointer finds
it. -/
theorem pointsAtShown_of_oneEach (h : OneEach (a.inputIn l).scroll (a.inputSpots l)) :
    a.PointsAtShown l := by
  intro x y number now hshows
  obtain ⟨s, hs, ⟨hx, hoffset, rfl⟩, ⟨hfrom, hto⟩, -⟩ := hshows
  obtain ⟨hcolumn, hunit, hwide⟩ := h s hs
  have hlt := (lies_of_mem_spots (mem_inputSpots_iff.1 hs).2).number_lt ⟨hfrom, hto⟩
  have hclick := column_pointerDown_spot hl hfits hs hoffset now
  rw [Nat.add_sub_cancel' hx] at hclick
  rw [hclick]
  obtain ⟨hleft, hright⟩ := hoffset
  omega

variable (hwidth : a.width ≤ maxCoordinate) (hheight : a.height ≤ maxCoordinate)
include hwidth hheight

/-- Each cell of a unit in view shows all of its characters. -/
theorem showsCharacter_of_mem (hs : s ∈ a.inputSpots l) {offset number : Nat}
    (hoffset : s.takes offset) (hnumber : s.has number) :
    a.ShowsCharacter l ((a.inputIn l).text.x + offset) (a.inputIn l).text.y number := by
  refine ⟨s, hs, ⟨Nat.le_add_right .., ?_, rfl⟩, hnumber, cell?_frame hl hfits hwidth hheight hs⟩
  rwa [Nat.add_sub_cancel_left]

/-- Where the pointer finds what is shown, no two cells show the same character, and no cell shows
two. -/
theorem oneEach_of_pointsAtShown (h : a.PointsAtShown l) :
    OneEach (a.inputIn l).scroll (a.inputSpots l) := by
  intro s hs
  have hlies := lies_of_mem_spots (mem_inputSpots_iff.1 hs).2
  have hpos := hlies.width_pos
  have hunit : 0 < s.unit.length := List.length_pos_iff.2 hlies.unit_ne_nil
  -- in a cell of the unit the pointer finds each of its characters
  have hfound (i j : Nat) (hi : i < Text.width s.unit) (hj : j < s.unit.length) :
      min ((a.inputIn l).scroll + (s.column + i)) a.editor.line.text.length = s.number + j ∧
        s.number + j < a.editor.line.text.length := by
    have hoffset : s.takes (s.column + i) := ⟨by omega, by omega⟩
    have hnumber : s.has (s.number + j) := ⟨by omega, by omega⟩
    refine ⟨?_, hlies.number_lt hnumber⟩
    rw [← column_pointerDown_spot hl hfits hs hoffset 0]
    exact h _ _ _ 0 (showsCharacter_of_mem hl hfits hwidth hheight hs hoffset hnumber)
  obtain ⟨hfirst, hlt⟩ := hfound 0 0 hpos hunit
  refine ⟨by omega, ?_, ?_⟩
  · by_contra hlong
    obtain ⟨hsecond, -⟩ := hfound 0 1 hpos (by omega)
    omega
  · by_contra hwide
    obtain ⟨hsecond, -⟩ := hfound 1 0 (by omega) hunit
    omega

end Screen

/-- On a screen of any size, and with any layout that has the panels on it one below the other, the
pointer finds the characters that the input shows exactly if each of them takes one cell of its own
and none before it is left out. So it does if the input is of printable ASCII characters. -/
theorem pointsAtShown_iff (a : App) {l : Layout} (hl : l.Stacked)
    (hfits : l.FitsIn ⟨0, 0, a.width, a.height⟩) (hwidth : a.width ≤ maxCoordinate)
    (hheight : a.height ≤ maxCoordinate) :
    (a.PointsAtShown l ↔ OneEach (a.inputIn l).scroll (a.inputSpots l)) ∧
      ((∀ c ∈ a.editor.line.text, Text.isBetween 0x20 0x7E c = true) → a.PointsAtShown l) := by
  refine ⟨⟨oneEach_of_pointsAtShown hl hfits hwidth hheight, pointsAtShown_of_oneEach hl hfits⟩,
    fun hprintable => pointsAtShown_of_oneEach hl hfits fun s hs => ?_⟩
  have hview : ∀ c ∈ a.editor.line.text.drop (a.inputIn l).scroll,
      Text.isBetween 0x20 0x7E c = true := fun c hc => hprintable c (List.mem_of_mem_drop hc)
  exact oneEach_of_printable hview _ _ s (mem_inputSpots_iff.1 hs).2

/-- Of a text that is wider than the box the last five characters are in view, and found. -/
theorem pointsAtShown_scrolled :
    let a := handleAll (start (.ofStore {}) none) 0
      (.resize 8 20 :: "tax*1000".toList.map fun c => .keyPress (.insert c))
    let l := layout ⟨0, 0, 8, 20⟩ (by decide)
    (l.Stacked ∧ l.FitsIn ⟨0, 0, a.width, a.height⟩) ∧
      (a.width ≤ maxCoordinate ∧ a.height ≤ maxCoordinate) ∧
      (∀ c ∈ a.editor.line.text, Text.isBetween 0x20 0x7E c = true) ∧
      (a.inputSpots l).map (fun s => (s.number, s.column)) =
        [(3, 0), (4, 1), (5, 2), (6, 3), (7, 4)] ∧
      a.PointsAtShown l := by
  intro a l
  have hl : l.Stacked := Layout.stacked_layout _ _
  have hsize : a.width = 8 ∧ a.height = 20 := by decide +kernel
  have hfits : l.FitsIn ⟨0, 0, a.width, a.height⟩ := by
    rw [hsize.1, hsize.2]
    exact Layout.fitsIn_layout ⟨by decide, by decide⟩ _
  have hrange : a.width ≤ maxCoordinate ∧ a.height ≤ maxCoordinate := by decide +kernel
  have hprintable : ∀ c ∈ a.editor.line.text, Text.isBetween 0x20 0x7E c = true :=
    List.all_eq_true.1 (by decide +kernel)
  exact ⟨⟨hl, hfits⟩, hrange, hprintable, by decide +kernel,
    (pointsAtShown_iff a hl hfits hrange.1 hrange.2).2 hprintable⟩

/-- Two wide characters take two cells each, and the pointer on the first cell of the second one is
behind both. -/
theorem not_pointsAtShown_wide :
    let a := handleAll (start (.ofStore {}) none) 0
      ("漢字".toList.map fun c => .keyPress (.insert c))
    let l := layout ⟨0, 0, 80, 24⟩ (by decide)
    (a.width = 80 ∧ a.height = 24) ∧ a.ShowsCharacter l 3 3 1 ∧
      ((a.render l).handle 0 (.pointerDown 3 3)).editor.line.column = 2 ∧ ¬ a.PointsAtShown l := by
  intro a l
  have hsize : a.width = 80 ∧ a.height = 24 := by decide +kernel
  have hfits : l.FitsIn ⟨0, 0, a.width, a.height⟩ := by
    rw [hsize.1, hsize.2]
    exact Layout.fitsIn_layout ⟨by decide, by decide⟩ _
  have hshows : a.ShowsCharacter l 3 3 1 := by
    have hmem : ⟨1, 2, "字".toList⟩ ∈ a.inputSpots l := by decide +kernel
    have hoffset : Spot.takes ⟨1, 2, "字".toList⟩ 2 := by decide +kernel
    have hnumber : Spot.has ⟨1, 2, "字".toList⟩ 1 := by decide +kernel
    exact showsCharacter_of_mem (Layout.stacked_layout _ _) hfits (by decide +kernel)
      (by decide +kernel) hmem hoffset hnumber
  have hclick : ((a.render l).handle 0 (.pointerDown 3 3)).editor.line.column = 2 := by
    decide +kernel
  refine ⟨hsize, hshows, hclick, fun h => ?_⟩
  have hfound := h 3 3 1 0 hshows
  omega

end App
end Widget
end FormulaPad
