import FormulaPad.Panel.Frame
import FormulaPad.View

/-!
# FormulaPad.Panel.ChipRow

The formula as a row of operators, numbers and chips. Each chip is a name and a
control that shows its value; the controls are the regions to point at.
-/

namespace FormulaPad.Panel

open Terminal

/-- The mark of a control that opens a dropdown. -/
def dropdownMark : Text := "▾".toList

/-- A control in the row: its first column, its width, and its dropdown. -/
structure Control where
  start : Nat
  width : Nat
  id : Text
  deriving DecidableEq, Repr

def nameSpan (c : Chip) : Span := ⟨' ' :: c.name ++ [' '], .chipName⟩

def controlSpan (c : Chip) : Span :=
  ⟨' ' :: c.label ++ ' ' :: dropdownMark ++ [' '], .chipValue c.value.isSome c.isOpen⟩

/-- The spans of an item. -/
def itemSpans : ViewItem → List Span
  | .text t => [⟨t, .text⟩]
  | .chip c => [nameSpan c, controlSpan c]

/-- The spans of the row, items one blank apart. -/
def rowSpans : List ViewItem → List Span
  | [] => []
  | [item] => itemSpans item
  | item :: rest => itemSpans item ++ ⟨[' '], .plain⟩ :: rowSpans rest

def itemWidth (item : ViewItem) : Nat := Span.totalWidth (itemSpans item)

/-- The controls of items, the first of which stands in the given column. -/
def controlsFrom (column : Nat) : List ViewItem → List Control
  | [] => []
  | .text t :: rest => controlsFrom (column + itemWidth (.text t) + 1) rest
  | .chip c :: rest =>
      ⟨column + (nameSpan c).width, (controlSpan c).width, c.dropdownId⟩ ::
        controlsFrom (column + itemWidth (.chip c) + 1) rest

/-- The region of a control inside the panel, unless it is out of view. -/
def controlRegion? (inner : Rect) (c : Control) : Option (Rect × Text) :=
  let start := toCoordinate c.start
  if start < inner.width then
    let x := inner.x + start
    some (.clamped x inner.y (min (toCoordinate c.width) (inner.right - x)) (min 1 inner.height), c.id)
  else none

/-- The regions of the controls in view. -/
def chipRegions (area : Rect) (v : View) : List (Rect × Text) :=
  (controlsFrom 0 v.items).filterMap (controlRegion? (boxed.inner area))

/-- Stands in the row while there is no formula. -/
def emptyRow : Span := ⟨"no formula".toList, .muted⟩

def drawChips (g : Grid) (area : Rect) (v : View) : Grid :=
  drawPanel g area boxed ⟨" Tags ".toList, .plain⟩
    [if v.items = [] then [emptyRow] else rowSpans v.items]

end FormulaPad.Panel
