import FormulaPad.Panel.Frame
import FormulaPad.Suggestion.Basic
import FormulaPad.Window

/-!
# FormulaPad.Panel.SuggestionRows

The table of suggestions: a header line and as many rows as fit, among them the
highlighted one. The columns divide the width in fixed shares.
-/

namespace FormulaPad.Panel

open Terminal

/-! ## Rows -/

/-- The number of rows that fit below the header line. -/
def tableRoom (inner : Rect) : Nat := inner.height - 1

/-- The suggestions in view with their numbers. -/
def tableRows (inner : Rect) (suggestions : List Suggestion) (highlight : Nat) :
    List (Suggestion × Nat) :=
  Window.rows suggestions highlight (tableRoom inner)

/-- The style of the row with this number in a list of `count` rows. -/
def rowStyle (highlight count number : Nat) : Style :=
  if number = Window.rowOf highlight count then .selected else .text

/-- The region of the row that is drawn on the given line below the header. -/
def tableRowRegion (inner : Rect) (line : Nat) : Rect :=
  .clamped inner.x (inner.y + 1 + toCoordinate line) inner.width 1

/-- The regions of the rows in view with the numbers of their suggestions. -/
def tableRegions (area : Rect) (suggestions : List Suggestion) (highlight : Nat) :
    List (Rect × Nat) :=
  let inner := boxed.inner area
  (tableRows inner suggestions highlight).zipIdx.map fun ((_, number), line) =>
    (tableRowRegion inner line, number)

/-! ## Columns -/

/-- A boundary given in hundredths of a cell, rounded to whole cells. -/
def boundary (hundredths : Nat) : Nat := (hundredths + 50) / 100

/-- The first cells and the widths of the columns. The last three take 25, 20 and 20 hundredths of
the width, the first what is left, and there is one cell between two columns. -/
def tableColumns (width : Nat) : List (Nat × Nat) :=
  let starts := [0, boundary (35 * width - 200), boundary (60 * width - 100), boundary (80 * width)]
  let ends := [boundary (35 * width - 300), boundary (60 * width - 200),
    boundary (80 * width - 100), width]
  List.zipWith (fun s e => (s, e - s)) starts ends

/-- Draw a line of the table: the style over the whole width, and a cell in each column. -/
def drawTableLine (g : Grid) (r : Rect) (style : Style) (cells : List Text) : Grid :=
  ((tableColumns r.width).zip cells).foldl
    (fun g ((start, width), t) => g.drawLabel (r.x + start) r.y width t)
    (g.fill r ⟨[' '], style⟩)

/-! ## The table -/

def tableTitle : Span := ⟨" Suggestions ".toList, .header⟩

def tableHeader : List Text := ["Name".toList, "Category".toList, "Value".toList, "ID".toList]

/-- The cells of a row, each with the first line of its text. -/
def suggestionCells (s : Suggestion) : List Text :=
  [s.name, s.category, s.valueText, s.id].map fun t => (Text.splitLines t).head?.getD []

/-- Stands in the table while there is nothing to show. -/
def emptyTable (loading : Bool) : Span :=
  ⟨if loading then "Loading suggestions...".toList else "No suggestions".toList, .muted⟩

/-- Draw the header line and the rows in view. -/
def drawTableRows (g : Grid) (inner : Rect) (suggestions : List Suggestion) (highlight : Nat) : Grid :=
  let line (n : Nat) : Rect := ⟨inner.x, inner.y + n, inner.width, 1⟩
  if inner.isEmpty then g
  else
    (tableRows inner suggestions highlight).zipIdx.foldl
      (fun g ((s, number), n) =>
        drawTableLine g (line (n + 1)) (rowStyle highlight suggestions.length number)
          (suggestionCells s))
      (drawTableLine g (line 0) .header tableHeader)

/-- Draw the table; while there are no suggestions yet, it says so. -/
def drawTable (g : Grid) (area : Rect) (suggestions : Option (List Suggestion)) (highlight : Nat) :
    Grid :=
  match suggestions.getD [] with
  | [] => drawPanel g area boxed tableTitle [[emptyTable suggestions.isNone]]
  | ss =>
      drawTableRows (g.drawBlock area boxed tableTitle) (boxed.inner (area.inter g.bounds)) ss
        highlight

end FormulaPad.Panel
