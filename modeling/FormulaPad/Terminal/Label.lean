import FormulaPad.Terminal.Grid

/-!
# FormulaPad.Terminal.Label

Text that is written on cells which have their style already: titles, and the
cells of a table.

A label ends before the first unit that would cross its right edge. A unit that
takes no cell is written on the cell before it, and what follows a label that
takes no cell so far is written on the same cell.
-/

namespace FormulaPad.Terminal.Grid

/-! ## One label -/

/-- Change the symbol of a cell. -/
def modifySymbol (g : Grid) (x y : Nat) (f : Text → Text) : Grid :=
  (g.cell? x y).elim g fun c => g.put x y { c with symbol := f c.symbol }

/-- Write a unit of a label in its cell `column`. One that has been `started` goes on in the cell
before, if it has taken none yet or the unit takes none. -/
def drawUnit (g : Grid) (x y column : Nat) (started : Bool) (u : Text) : Grid :=
  let g :=
    if started && (column == 0 || Text.width u == 0) then
      g.modifySymbol (x + (column - 1)) y (· ++ u)
    else g.modifySymbol (x + column) y fun _ => u
  g.drawRow (x + column + 1) y (Text.width u - 1) {}

/-- Write the units of a label from its cell `column` on, as far as they fit. -/
def drawUnits (g : Grid) (x y width column : Nat) (started : Bool) : List Text → Grid
  | [] => g
  | u :: rest =>
      let next := column + Text.width u
      if width < next then g
      else (g.drawUnit x y column started u).drawUnits x y width next true rest

/-- Write a label in the row `y` from the column `x` on, within `width` cells. Text that takes no
cell at all is no label. -/
def drawLabel (g : Grid) (x y width : Nat) (t : Text) : Grid :=
  if width = 0 ∨ Text.width t = 0 then g
  else g.drawUnits x y width 0 false (drawnUnits t)

/-! ## Labels side by side -/

/-- The width of labels side by side. -/
def labelsWidth : List Text → Nat
  | [] => 0
  | t :: rest => Text.width t + labelsWidth rest

/-- Write labels side by side, each within the cells that are left. -/
def drawLabels (g : Grid) (x y width : Nat) : List Text → Grid
  | [] => g
  | t :: rest =>
      (g.drawLabel x y width t).drawLabels (x + Text.width t) y (width - Text.width t) rest

end FormulaPad.Terminal.Grid
