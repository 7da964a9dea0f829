import FormulaPad.Decimal.Numeral
import FormulaPad.Text.Blank
import FormulaPad.Text.Utf8

/-!
# FormulaPad.Arithmetic.Lexeme

The lexemes of an arithmetic expression, each with the byte at which it starts.

A run of digits and points is one lexeme, a literal, whether or not it is a
number; every other character that is not blank is a lexeme by itself. Blanks
separate lexemes and are otherwise ignored, so nothing is rejected here.
-/

namespace FormulaPad.Arithmetic

/-! ## Lexemes -/

inductive LexemeKind where
  /-- A maximal run of digits and points. -/
  | literal (run : Text)
  /-- Any other character that is not blank. -/
  | mark (c : Char)
  deriving DecidableEq, Repr

structure Lexeme where
  offset : Nat
  kind : LexemeKind
  deriving DecidableEq, Repr

/-- The character may be part of a literal. -/
def isLiteralChar (c : Char) : Bool := c.isDigit || c == '.'

/-- The lexemes of a text whose first byte has the given offset. -/
def lexemes (offset : Nat) : Text → List Lexeme
  | [] => []
  | c :: t =>
      if Text.isBlank c then lexemes (offset + c.utf8Size) t
      else if isLiteralChar c then
        let run := c :: t.takeWhile isLiteralChar
        ⟨offset, .literal run⟩ :: lexemes (offset + Text.byteLength run) (t.dropWhile isLiteralChar)
      else ⟨offset, .mark c⟩ :: lexemes (offset + c.utf8Size) t
termination_by t => t.length
decreasing_by
  · simp
  · have := (List.dropWhile_sublist isLiteralChar (l := t)).length_le
    simp only [List.length_cons]; omega
  · simp

theorem lexemes_nil (offset : Nat) : lexemes offset [] = [] := by
  unfold lexemes; rfl

theorem lexemes_cons (offset : Nat) (c : Char) (t : Text) :
    lexemes offset (c :: t) =
      if Text.isBlank c then lexemes (offset + c.utf8Size) t
      else if isLiteralChar c then
        ⟨offset, .literal (c :: t.takeWhile isLiteralChar)⟩ ::
          lexemes (offset + Text.byteLength (c :: t.takeWhile isLiteralChar))
            (t.dropWhile isLiteralChar)
      else ⟨offset, .mark c⟩ :: lexemes (offset + c.utf8Size) t := by
  conv => left; unfold lexemes

/-! ## The value of a literal -/

/-- The double that a literal stands for, if it is a number. -/
def literalValue? (run : Text) : Option Float := (Numeral.read? run).map Numeral.toFloat

end FormulaPad.Arithmetic
