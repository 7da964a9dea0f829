import FormulaPad.Panel.Frame
import FormulaPad.Window

/-!
# FormulaPad.Panel.InputLine

The box in which a formula is typed. A line that is longer than the box is
scrolled so far that the caret is in view.
-/

namespace FormulaPad.Panel

open Terminal

/-- Where the input stands on the screen. -/
structure InputLayout where
  /-- The inside of the box. -/
  text : Rect
  /-- The number of characters to the left of it. -/
  scroll : Nat
  deriving DecidableEq, Repr

/-- Stands in the box while there is no input. -/
def inputExample : Text := "e.g. (basic_courses * 500)".toList

/-- The characters that are scrolled out of view to the left. -/
def scrollFor (column width : Nat) : Nat := Window.start column width

def inputLayout (area : Rect) (column : Nat) : InputLayout :=
  let inner := boxed.inner area
  ⟨inner, scrollFor column inner.width⟩

/-- The cell of the cursor, if there is room for one. -/
def inputCursor (l : InputLayout) (column : Nat) : Option (Nat × Nat) :=
  if l.text.isEmpty then none
  else some (l.text.x + min (toCoordinate (column - l.scroll)) (l.text.width - 1), l.text.y)

/-- The text in the box. -/
def inputSpan (text : Text) (scroll : Nat) : Span :=
  if text = [] then ⟨inputExample, .muted⟩ else ⟨text.drop scroll, .text⟩

def drawInput (g : Grid) (area : Rect) (text : Text) (column : Nat) : Grid :=
  drawPanel g area boxed ⟨" Enter formula ".toList, .header⟩
    [(inputSpan text (inputLayout area column).scroll).lines]

end FormulaPad.Panel
