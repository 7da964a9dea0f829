import FormulaPad.Terminal.Label

/-!
# FormulaPad.Terminal.Block

Areas with edges of box characters, and a title in the upper edge.
-/

namespace FormulaPad.Terminal.Grid

/-! ## Edges -/

/-- Which edges of a block are drawn. -/
structure Borders where
  left : Bool := true
  top : Bool := true
  right : Bool := true
  bottom : Bool := true

/-- The inside of a block. -/
def Borders.inner (b : Borders) (r : Rect) : Rect := r.inset b.left b.top b.right b.bottom

/-- A box character as a cell. -/
def box (c : Char) : Cell := ⟨[c], .plain⟩

/-- Do something only if a condition holds. -/
def doIf (condition : Bool) (f : Grid → Grid) (g : Grid) : Grid := if condition then f g else g

/-- Draw the edges of an area that is not empty; corners join the edges that meet there. -/
def drawBorders (g : Grid) (r : Rect) (b : Borders) : Grid :=
  let x' := r.x + r.width - 1
  let y' := r.y + r.height - 1
  g |> doIf b.left (·.drawColumn r.x r.y r.height (box '│'))
    |> doIf b.top (·.drawRow r.x r.y r.width (box '─'))
    |> doIf b.right (·.drawColumn x' r.y r.height (box '│'))
    |> doIf b.bottom (·.drawRow r.x y' r.width (box '─'))
    |> doIf (b.right && b.bottom) (·.put x' y' (box '┘'))
    |> doIf (b.right && b.top) (·.put x' r.y (box '┐'))
    |> doIf (b.left && b.bottom) (·.put r.x y' (box '└'))
    |> doIf (b.left && b.top) (·.put r.x r.y (box '┌'))

/-! ## Titles -/

/-- Draw a title in the row `y` from the column `x` on, within `width` cells. Its lines stand side
by side, and all cells that they would take have its style, also one that a wide unit would
cross. -/
def drawTitle (g : Grid) (x y width : Nat) (title : Span) : Grid :=
  let labels := Text.splitLines title.text
  let room := min (labelsWidth labels) width
  (g.restyle x y room title.style).drawLabels x y room labels

/-- Draw the edges of an area, and a title between the upper corners. -/
def drawBlock (g : Grid) (area : Rect) (b : Borders) (title : Span) : Grid :=
  let r := area.inter g.bounds
  if r.isEmpty then g
  else
    let inside := r.inset b.left false b.right false
    (g.drawBorders r b).drawTitle inside.x r.y inside.width title

end FormulaPad.Terminal.Grid
