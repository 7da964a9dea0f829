import FormulaPad.Terminal.Block

/-!
# FormulaPad.Panel.Frame

Panels that hold text and nothing to point at: the heading of the screen, the
hints below it, and the result. They share `drawPanel`, lines of text inside a
block. Text of several lines stands in one line, its lines side by side.
-/

namespace FormulaPad.Panel

open Terminal

/-! ## Blocks of text -/

/-- Draw a block and lines of text inside it. -/
def drawPanel (g : Grid) (area : Rect) (b : Grid.Borders) (title : Span) (lines : List (List Span)) :
    Grid :=
  (g.drawBlock area b title).drawLines (b.inner (area.inter g.bounds)) lines

/-- All four edges. -/
def boxed : Grid.Borders := {}

def bottomEdge : Grid.Borders := ⟨false, false, false, true⟩

def topEdge : Grid.Borders := ⟨false, true, false, false⟩

/-! ## Heading -/

def headingName : Text := "tagcalc".toList

/-- The state of the suggestions: how many there are, once they are there. -/
def suggestionStatus : Option Nat → Span
  | none => ⟨" | loading suggestions...".toList, .muted⟩
  | some n => ⟨" | ".toList ++ Text.ofNat n ++ " suggestions".toList, .plain⟩

def drawHeading (g : Grid) (area : Rect) (count : Option Nat) : Grid :=
  drawPanel g area bottomEdge ⟨[], .plain⟩ [[⟨headingName, .header⟩, suggestionStatus count]]

/-! ## Hints -/

/-- Keys and what they do. -/
def hints : List (Text × Text) :=
  [("Enter".toList, "pick".toList), ("Esc".toList, "close table".toList),
    ("Tab".toList, "tag values".toList), ("Up/Down".toList, "move".toList),
    ("Ctrl-C".toList, "quit".toList)]

def hintSpans : List (Text × Text) → List Span
  | [] => []
  | [(key, label)] => [⟨key, .key⟩, ⟨": ".toList ++ label, .plain⟩]
  | (key, label) :: rest =>
      ⟨key, .key⟩ :: ⟨": ".toList ++ label ++ " | ".toList, .plain⟩ :: hintSpans rest

def drawHints (g : Grid) (area : Rect) : Grid :=
  drawPanel g area topEdge ⟨[], .plain⟩ [hintSpans hints]

/-! ## Result -/

/-- Draw the result; where there is none, nothing is drawn. `failure` is the text of a result
that is shown as a failure. -/
def drawResult (g : Grid) (area : Rect) (failure : Text) : Option Text → Grid
  | none => g
  | some t =>
      let style := if t = failure then Style.failure else .success
      drawPanel g area boxed ⟨" Result ".toList, .plain⟩ [Span.lines ⟨t, style⟩]

end FormulaPad.Panel
