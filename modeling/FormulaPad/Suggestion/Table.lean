import FormulaPad.Suggestion.Basic
import FormulaPad.Text.Blank

/-!
# FormulaPad.Suggestion.Table

Suggestions as a plain table: a header and one line per suggestion, in columns
that are as wide as their widest cell and stand two blanks apart.
-/

namespace FormulaPad.Suggestion

/-- The titles of the columns. -/
def headers : List Text := ["NAME".toList, "CATEGORY".toList, "VALUE".toList, "ID".toList]

def cells (s : Suggestion) : List Text := [s.name, s.category, s.valueText, s.id]

/-- Between two columns. -/
def columnGap : Text := "  ".toList

/-- The wider of two rows of widths, column by column. -/
def widen (widths : List Nat) (row : List Text) : List Nat :=
  List.zipWith (fun w cell => max w cell.length) widths row

/-- The width of each column. -/
def columnWidths (rows : List (List Text)) : List Nat :=
  rows.foldl widen (headers.map List.length)

/-- A row with its cells filled up to the widths, and no blanks at its end. -/
def tableLine (widths : List Nat) (row : List Text) : Text :=
  Text.trimEnd (Text.joinWith columnGap (List.zipWith Text.padEnd widths row))

def table (suggestions : List Suggestion) : Text :=
  let rows := suggestions.map cells
  Text.lines ((headers :: rows).map (tableLine (columnWidths rows)))

end FormulaPad.Suggestion
