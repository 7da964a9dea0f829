import FormulaPad.Panel.InputLine
import FormulaPad.Panel.ChipRow
import FormulaPad.Panel.OptionList
import FormulaPad.Widget.Region

/-!
# FormulaPad.Widget.Screen

The screen of the widget: six panels one below the other, and the list of
options of the open chip on top of them. Drawing an editor yields the cells, the
place of the cursor, and the regions to point at.

Where the panels are is up to the terminal library, which is asked for a fixed
height of each of them but the table. On a screen with room for all of them that
leaves one layout, `layout`. With less room it is for the library to decide which
panels give way, so a screen is drawn with a layout that is given.
-/

namespace FormulaPad.Widget

open Terminal Panel

/-! ## Layout -/

/-- The areas of the panels. -/
structure Layout where
  heading : Rect
  input : Rect
  chips : Rect
  result : Rect
  table : Rect
  hints : Rect
  deriving DecidableEq, Repr

/-- The least height of the table. -/
def leastTableHeight : Nat := 3

/-- The height of all panels when the table is least high. -/
def leastHeight : Nat := 13 + leastTableHeight

/-- The layout of an area with room for all panels: those of fixed heights from the top down, the
table taking what is left above the hints. -/
def layout (area : Rect) (_ : leastHeight ≤ area.height) : Layout :=
  let tableHeight := area.height - 13
  let row (offset height : Nat) : Rect := ⟨area.x, area.y + offset, area.width, height⟩
  ⟨row 0 2, row 2 3, row 5 3, row 8 3, row 11 tableHeight, row (11 + tableHeight) 2⟩

/-! ## Drawing -/

/-- A drawn screen. -/
structure Frame where
  grid : Grid
  cursor : Option (Nat × Nat)
  regions : Regions

/-- The regions of an editor on a screen, but for the list of options. -/
def baseRegions (l : Layout) (e : Editor) (suggestions : Option (List Suggestion)) : Regions :=
  let input := inputLayout l.input e.line.column
  { input := some l.input
    inputText := some input.text
    inputScroll := input.scroll
    toggles := chipRegions l.chips (e.view suggestions)
    table := if e.tableOpen then some l.table else none
    tableRows :=
      if e.tableOpen then tableRegions l.table (suggestions.getD []) e.tableRow else [] }

/-- The open chip and the region of its control, if both are there. -/
def openControl? (v : View) (toggles : List (Rect × Text)) : Option (Chip × Rect) :=
  match v.openChip? with
  | none => none
  | some chip => (toggles.find? (·.2 = chip.dropdownId)).map fun (anchor, _) => (chip, anchor)

/-- The regions of an editor on a screen with this layout. The list of options lies below its
control, cut off at the edges of the screen. -/
def regionsIn (l : Layout) (bounds : Rect) (e : Editor) (suggestions : Option (List Suggestion)) :
    Regions :=
  let base := baseRegions l e suggestions
  match openControl? (e.view suggestions) base.toggles with
  | none => base
  | some (chip, anchor) =>
      let area := optionArea anchor bounds chip
      { base with
        dropdown := some (area, chip.dropdownId)
        options := optionRegions area chip e.optionRow suggestions.isNone }

/-- Draw the six panels. -/
def drawPanels (g : Grid) (l : Layout) (e : Editor) (suggestions : Option (List Suggestion)) : Grid :=
  let g := drawHeading g l.heading (suggestions.map List.length)
  let g := drawInput g l.input e.line.text e.line.column
  let g := drawChips g l.chips (e.view suggestions)
  let g := drawResult g l.result Evaluation.invalidMessage e.banner?
  let g := if e.tableOpen then drawTable g l.table suggestions e.tableRow else g
  drawHints g l.hints

/-- Draw an editor on a screen of the given size, with the panels laid out in this way. -/
def draw (l : Layout) (width height : Nat) (e : Editor) (suggestions : Option (List Suggestion)) :
    Frame :=
  let bounds : Rect := ⟨0, 0, width, height⟩
  let g := drawPanels (.blank width height) l e suggestions
  let toggles := chipRegions l.chips (e.view suggestions)
  let g := match openControl? (e.view suggestions) toggles with
    | none => g
    | some (chip, anchor) =>
        drawOptions g (optionArea anchor bounds chip) chip e.optionRow suggestions.isNone
  ⟨g, inputCursor (inputLayout l.input e.line.column) e.line.column, regionsIn l bounds e suggestions⟩

end FormulaPad.Widget
