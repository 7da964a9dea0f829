import FormulaPad.Formula.Alphabet

/-!
# FormulaPad.Formula.Variable

The variables that are looked up when a formula is evaluated: an ASCII letter
followed by at least one word character, as many as there are, from left to
right.

`pieces` gives the whole formula as variables and single other characters;
`flatMap_text_pieces` says that nothing is lost, and `variableRuns` keeps the
former.
-/

namespace FormulaPad.Formula

/-- A variable, or a character outside all variables. -/
inductive Piece where
  | other (c : Char)
  | name (run : Text)
  deriving DecidableEq, Repr

namespace Piece

def text : Piece → Text
  | other c => [c]
  | .name run => run

def name? : Piece → Option Text
  | other _ => none
  | .name run => some run

end Piece

/-- A variable starts at `c` if the text `t` follows. -/
def startsVariable (c : Char) (t : Text) : Bool := c.isAlpha && t.head?.any isWordChar

/-- The formula as variables and the characters between them. -/
def pieces : Text → List Piece
  | [] => []
  | c :: t =>
      if startsVariable c t then
        .name (c :: t.takeWhile isWordChar) :: pieces (t.dropWhile isWordChar)
      else .other c :: pieces t
termination_by t => t.length
decreasing_by
  · have := (List.dropWhile_sublist isWordChar (l := t)).length_le
    simp only [List.length_cons]; omega
  · simp

/-- The variables in order of appearance, with the blanks that belong to them. -/
def variableRuns (formula : Text) : List Text := (pieces formula).filterMap Piece.name?

theorem flatMap_text_pieces (t : Text) : (pieces t).flatMap Piece.text = t := by
  fun_induction pieces t with
  | case1 => rfl
  | case2 c t h ih => simp [Piece.text, ih]
  | case3 c t h ih => simp [Piece.text, ih]

end FormulaPad.Formula
