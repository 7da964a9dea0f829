import FormulaPad.Terminal.Style
import FormulaPad.Text.Cluster.Basic
import FormulaPad.Text.Width.Basic

/-!
# FormulaPad.Terminal.Glyph

Text as it is laid out in the cells of one line.

A glyph is one of the units of a text that a reader takes for a character, with
the number of cells that it takes. Line feeds are not drawn. A line is laid out
from the left and ends before the first glyph that would cross its right edge;
main statement: `add_width_le_of_mem_place`.
-/

namespace FormulaPad.Terminal

/-! ## Glyphs -/

/-- A unit of a text, as it is drawn. -/
structure Glyph where
  symbol : Text
  width : Nat
  style : Style
  deriving DecidableEq, Repr

/-- Text of one style. -/
structure Span where
  text : Text
  style : Style := .plain
  deriving DecidableEq, Repr

/-- The units of a text that are drawn. -/
def drawnUnits (t : Text) : List Text := (Text.clusters t).filter (· != ['\n'])

namespace Span

def width (s : Span) : Nat := Text.width s.text

def glyphs (s : Span) : List Glyph :=
  (drawnUnits s.text).map fun u => ⟨u, Text.width u, s.style⟩

/-- The lines of a span, each as a span. -/
def lines (s : Span) : List Span := (Text.splitLines s.text).map (⟨·, s.style⟩)

/-- Any text at all shows its style. -/
theorem style_of_lines_eq {t : Text} (h : t ≠ []) {style other : Style}
    (hlines : lines ⟨t, style⟩ = lines ⟨t, other⟩) : style = other := by
  rw [lines, lines] at hlines
  cases hsplit : Text.splitLines t with
  | nil => exact absurd hsplit (Text.splitLines_ne_nil h)
  | cons line rest =>
      rw [hsplit] at hlines
      exact congrArg Span.style (List.cons.inj hlines).1

/-- The width of spans side by side. -/
def totalWidth : List Span → Nat
  | [] => 0
  | s :: rest => s.width + totalWidth rest

/-- The glyphs of spans side by side that take cells. -/
def visibleGlyphs (spans : List Span) : List Glyph :=
  (spans.flatMap glyphs).filter (0 < ·.width)

end Span

/-! ## Laying out -/

/-- Glyphs with the cells they start at, from the cell `column` on, as far as they fit. A glyph
wider than the whole line is left out. -/
def place (width column : Nat) : List Glyph → List (Nat × Glyph)
  | [] => []
  | g :: rest =>
      if width < g.width then place width column rest
      else if width < column + g.width then []
      else (column, g) :: place width (column + g.width) rest

/-- What is laid out stays within the width. -/
theorem add_width_le_of_mem_place {width column : Nat} {gs : List Glyph} {p : Nat × Glyph}
    (h : p ∈ place width column gs) : p.1 + p.2.width ≤ width := by
  induction gs generalizing column with
  | nil => simp [place] at h
  | cons g gs ih =>
      simp only [place] at h
      split at h
      · exact ih h
      · split at h
        · simp at h
        · rcases List.mem_cons.1 h with rfl | h
          · simp; omega
          · exact ih h

end FormulaPad.Terminal
