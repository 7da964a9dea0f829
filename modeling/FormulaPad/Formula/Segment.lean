import FormulaPad.Formula.Alphabet

/-!
# FormulaPad.Formula.Segment

The segments of a formula.

Every operator is a segment of its own, and what stands between two operators
is one segment, also when it is empty: a formula with `n` operators has
`2 n + 1` segments. Main statements: `flatten_segments` (nothing is lost) and
`length_segments`.
-/

namespace FormulaPad.Formula

/-! ## Splitting -/

/-- The formula cut at its operators, which are kept. -/
def segments : Text → List Text
  | [] => [[]]
  | c :: t =>
      if isOperator c then [] :: [c] :: segments t
      else
        match segments t with
        | [] => [[c]]
        | s :: rest => (c :: s) :: rest

theorem segments_ne_nil (t : Text) : segments t ≠ [] := by
  induction t with
  | nil => simp [segments]
  | cons c t ih =>
      simp only [segments]
      split
      · simp
      · split <;> simp

theorem flatten_segments (t : Text) : (segments t).flatten = t := by
  induction t with
  | nil => rfl
  | cons c t ih =>
      simp only [segments]
      split
      · simp [ih]
      · split
        · next h => exact absurd h (segments_ne_nil t)
        · next s rest h => simpa [h] using ih

theorem length_segments (t : Text) : (segments t).length = 2 * t.countP isOperator + 1 := by
  induction t with
  | nil => rfl
  | cons c t ih =>
      by_cases h : isOperator c
      · simp [segments, h, ih]; omega
      · obtain ⟨s, rest, hs⟩ := List.exists_cons_of_ne_nil (segments_ne_nil t)
        simp [segments, h, hs, ← ih]

/-! ## Removing the last segment -/

/-- Without the empty segment that follows an operator at the end. -/
def dropEmptyLast (ss : List Text) : List Text :=
  if 1 < ss.length ∧ ss.getLast? = some [] then ss.dropLast else ss

/-- The formula without its last segment that is not empty. -/
def removeLastSegment (t : Text) : Text :=
  (dropEmptyLast (segments t)).dropLast.flatten

end FormulaPad.Formula
