/-!
# FormulaPad.Window

Lists of which only a part is in view.

A highlight is kept as a number that may point beyond the list, which then
stands for the last row. The rows in view start at the first one, or as far down
as is needed to have the highlighted row in view as the last of them. The same
arithmetic keeps a caret in view in a line.
-/

namespace FormulaPad.Window

/-- The row of a list of `count` rows that a highlight stands for. -/
def rowOf (highlight count : Nat) : Nat := min highlight (count - 1)

/-- The highlight one row further down a list of `count` rows. -/
def nextRow (highlight count : Nat) : Nat :=
  if count = 0 then highlight else min (highlight + 1) (count - 1)

/-- The first of `size` places in view, so that `place` is among them. -/
def start (place size : Nat) : Nat := place - (size - 1)

/-- The rows in view, each with its number, when `size` of them fit. -/
def rows (xs : List α) (highlight size : Nat) : List (α × Nat) :=
  (xs.zipIdx.drop (start (rowOf highlight xs.length) size)).take size

theorem start_le (place size : Nat) : start place size ≤ place := Nat.sub_le ..

/-- The place is in view if anything is. -/
theorem lt_start_add {place size : Nat} (h : 0 < size) : place < start place size + size := by
  simp only [start]; omega

theorem rowOf_lt {count : Nat} (highlight : Nat) (h : 0 < count) : rowOf highlight count < count := by
  simp only [rowOf]; omega

/-- The row of a highlight within the list is the highlight itself. -/
theorem rowOf_of_lt {highlight count : Nat} (h : highlight < count) :
    rowOf highlight count = highlight := by
  simp only [rowOf]; omega

theorem nextRow_lt {count : Nat} (highlight : Nat) (h : 0 < count) :
    nextRow highlight count < count := by
  simp only [nextRow]; split <;> omega

/-- In view are the rows from the first one on, as many as fit. -/
theorem getElem?_rows (xs : List α) (highlight size line : Nat) :
    (rows xs highlight size)[line]? =
      if line < size then
        let number := start (rowOf highlight xs.length) size + line
        xs[number]?.map (·, number)
      else none := by
  rw [rows, List.getElem?_take, List.getElem?_drop, List.getElem?_zipIdx, Nat.zero_add]

end FormulaPad.Window
