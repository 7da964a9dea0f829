import FormulaPad.Panel.SuggestionRows
import FormulaPad.View

/-!
# FormulaPad.Panel.OptionList

The list of options that drops down below a chip. It is as wide as its widest
option, its chip or a fixed least width, is cut off at the edges of the screen,
and shows as many options as fit, among them the highlighted one.
-/

namespace FormulaPad.Panel

open Terminal

/-! ## Geometry -/

/-- The list is at least this wide. -/
def leastWidth : Nat := 14

/-- The width of the text when there is no option. -/
def widthWithoutOptions : Nat := 10

def optionLabel (o : ChipOption) : Text :=
  (if o.selected then "✓ ".toList else "  ".toList) ++ o.value

/-- The number of characters of the widest option. -/
def widestOption (options : List ChipOption) : Nat :=
  match (options.map fun o => (optionLabel o).length).max? with
  | some n => n
  | none => widthWithoutOptions

/-- The area of the list below its anchor, without what is off the screen. -/
def optionArea (anchor bounds : Rect) (chip : Chip) : Rect :=
  let width := max (max (toCoordinate (widestOption chip.options + 2)) anchor.width) leastWidth
  let height := satAdd (toCoordinate (max chip.options.length 1)) 2
  (Rect.clamped anchor.x (satAdd anchor.y 1) width height).inter bounds

/-! ## Rows -/

/-- The options in view with their numbers. -/
def optionRows (inner : Rect) (chip : Chip) (highlight : Nat) : List (ChipOption × Nat) :=
  Window.rows chip.options highlight inner.height

/-- The region of the option that is drawn on the given line. -/
def optionRegion (inner : Rect) (line : Nat) : Rect :=
  .clamped inner.x (inner.y + toCoordinate line) inner.width 1

/-- The regions of the options in view with their numbers. While the suggestions are loading
there are none. -/
def optionRegions (area : Rect) (chip : Chip) (highlight : Nat) (loading : Bool) :
    List (Rect × Nat) :=
  let inner := boxed.inner area
  if loading then []
  else
    (optionRows inner chip highlight).zipIdx.map fun ((_, number), line) =>
      (optionRegion inner line, number)

/-! ## Drawing -/

/-- Stands in the list while there is nothing to show. -/
def emptyOptions (loading : Bool) : Span :=
  ⟨if loading then "Loading...".toList else "No values".toList, .muted⟩

def optionLines (inner : Rect) (chip : Chip) (highlight : Nat) : List (List Span) :=
  (optionRows inner chip highlight).map fun (o, number) =>
    Span.lines ⟨optionLabel o, rowStyle highlight chip.options.length number⟩

/-- Draw the list over what is on the screen. -/
def drawOptions (g : Grid) (area : Rect) (chip : Chip) (highlight : Nat) (loading : Bool) : Grid :=
  let title : Span := ⟨' ' :: chip.name ++ [' '], .header⟩
  let lines :=
    if loading || chip.options.isEmpty then [[emptyOptions loading]]
    else optionLines (boxed.inner area) chip highlight
  drawPanel (g.fill (area.inter g.bounds) {}) area boxed title lines

end FormulaPad.Panel
