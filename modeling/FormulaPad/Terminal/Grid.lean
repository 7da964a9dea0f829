import FormulaPad.Terminal.Glyph
import FormulaPad.Terminal.Rect

/-!
# FormulaPad.Terminal.Grid

The cells of a screen, and drawing on them: single cells, filled areas and lines
of text. What lies outside the screen is not drawn. Main statements:
`cell?_put`, which says what one cell holds after another was set, and
`seen_of_narrow`: all that is drawn is seen, but for cells that a wide symbol
covers.
-/

namespace FormulaPad.Terminal

structure Cell where
  symbol : Text := [' ']
  style : Style := .plain
  deriving DecidableEq, Repr

structure Grid where
  width : Nat
  height : Nat
  rows : List (List Cell)

namespace Grid

/-! ## Cells -/

/-- A screen with nothing on it. -/
def blank (width height : Nat) : Grid :=
  ⟨width, height, List.replicate height (List.replicate width {})⟩

/-- All cells of the screen. -/
def bounds (g : Grid) : Rect := ⟨0, 0, g.width, g.height⟩

def cell? (g : Grid) (x y : Nat) : Option Cell := (g.rows[y]?).bind (·[x]?)

/-- Set one cell. -/
def put (g : Grid) (x y : Nat) (c : Cell) : Grid :=
  { g with rows := g.rows.modify y (·.set x c) }

theorem cell?_put (g : Grid) (x y : Nat) (c : Cell) (u v : Nat) :
    (g.put x y c).cell? u v =
      if u = x ∧ v = y then (g.cell? u v).map fun _ => c else g.cell? u v := by
  simp only [cell?, put, List.getElem?_modify]
  by_cases hv : y = v
  · subst hv
    cases hr : g.rows[y]? with
    | none => simp
    | some row =>
        by_cases hu : u = x
        · subst hu
          by_cases hl : u < row.length
          · simp [hl]
          · simp [Nat.not_lt.1 hl]
        · simp [hu, List.getElem?_set_ne (Ne.symm hu)]
  · have hv' : ¬v = y := fun h => hv h.symm
    cases g.rows[v]? <;> simp [hv, hv']

/-! ## Areas and lines -/

/-- Set cells of a row, from the column `x` on. -/
def drawRow (g : Grid) (x y width : Nat) (c : Cell) : Grid :=
  (List.range' x width).foldl (fun g x => g.put x y c) g

/-- Set cells of a column, from the row `y` on. -/
def drawColumn (g : Grid) (x y height : Nat) (c : Cell) : Grid :=
  (List.range' y height).foldl (fun g y => g.put x y c) g

/-- Set all cells of an area. -/
def fill (g : Grid) (r : Rect) (c : Cell) : Grid :=
  (List.range' r.y r.height).foldl (fun g y => g.drawRow r.x y r.width c) g

/-- Give the cells of a row another style, from the column `x` on. -/
def restyle (g : Grid) (x y width : Nat) (style : Style) : Grid :=
  (List.range' x width).foldl
    (fun g x => (g.cell? x y).elim g fun c => g.put x y { c with style := style }) g

/-- Draw a glyph; the cells that it covers become blank. -/
def drawGlyph (g : Grid) (x y : Nat) (glyph : Glyph) : Grid :=
  (g.put x y ⟨glyph.symbol, glyph.style⟩).drawRow (x + 1) y (glyph.width - 1) {}

/-- Draw spans in the row `y` from the column `x` on, within `width` cells. -/
def drawSpans (g : Grid) (x y width : Nat) (spans : List Span) : Grid :=
  (place width 0 (Span.visibleGlyphs spans)).foldl
    (fun g (column, glyph) => g.drawGlyph (x + column) y glyph) g

/-- Draw lines one below the other from the top of an area, as many as fit. -/
def drawLines (g : Grid) (r : Rect) (lines : List (List Span)) : Grid :=
  ((lines.take r.height).zipIdx).foldl
    (fun g (spans, i) => g.drawSpans r.x (r.y + i) r.width spans) g

/-! ## What is seen -/

/-- The cells of a row as they are seen, the first of which is covered or not: a symbol that is
wider than its cell covers the next one, which shows nothing of its own. -/
def seenFrom (covered : Bool) : List Cell → List Cell
  | [] => []
  | c :: rest =>
      (if covered then {} else c) :: seenFrom (1 < Text.width c.symbol) rest

/-- The screen as it is seen. -/
def seen (g : Grid) : Grid := { g with rows := g.rows.map (seenFrom false) }

theorem length_seenFrom (covered : Bool) (row : List Cell) :
    (seenFrom covered row).length = row.length := by
  induction row generalizing covered with
  | nil => rfl
  | cons c row ih => simp [seenFrom, ih]

theorem seenFrom_of_narrow {row : List Cell} (h : ∀ c ∈ row, Text.width c.symbol ≤ 1) :
    seenFrom false row = row := by
  induction row with
  | nil => rfl
  | cons c row ih =>
      have hc : ¬1 < Text.width c.symbol := Nat.not_lt.2 (h c (by simp))
      simp [seenFrom, hc, ih fun d hd => h d (by simp [hd])]

/-- Where no symbol is wider than its cell, all that is drawn is seen. -/
theorem seen_of_narrow {g : Grid} (h : ∀ row ∈ g.rows, ∀ c ∈ row, Text.width c.symbol ≤ 1) :
    g.seen = g := by
  have hrows : g.rows.map (seenFrom false) = g.rows :=
    (List.map_congr_left fun row hr => seenFrom_of_narrow (h row hr)).trans (List.map_id _)
  simp [seen, hrows]

end Grid
end FormulaPad.Terminal
