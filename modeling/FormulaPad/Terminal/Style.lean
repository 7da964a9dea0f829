/-!
# FormulaPad.Terminal.Style

How a cell of a terminal looks.
-/

namespace FormulaPad.Terminal

inductive Colour where
  /-- The colour that the terminal uses of its own accord. -/
  | reset
  | black
  | red
  | green
  | yellow
  | blue
  | cyan
  | gray
  | darkGray
  | white
  deriving DecidableEq, Repr

structure Style where
  foreground : Colour := .reset
  background : Colour := .reset
  bold : Bool := false
  underlined : Bool := false
  deriving DecidableEq, Repr

namespace Style

/-! ## The styles of the panels -/

def plain : Style := {}

def header : Style := { foreground := .cyan, bold := true }

def text : Style := { foreground := .white }

/-- For what stands in place of something. -/
def muted : Style := { foreground := .darkGray }

/-- For the names of keys. -/
def key : Style := { foreground := .yellow }

/-- For the name on a chip. -/
def chipName : Style := { foreground := .white, background := .blue }

/-- For the control on a chip, brighter if the tag has a value, and marked while open. -/
def chipValue (bound isOpen : Bool) : Style where
  foreground := if bound then .black else .darkGray
  background := if bound then .cyan else .gray
  bold := isOpen
  underlined := isOpen

/-- For the highlighted row of a list. -/
def selected : Style := { foreground := .black, background := .cyan, bold := true }

def success : Style := { foreground := .green, bold := true }

def failure : Style := { foreground := .red, bold := true }

/-- The highlighted row looks different from the others. -/
theorem selected_ne_text : selected ≠ text := by decide

end Style
end FormulaPad.Terminal
