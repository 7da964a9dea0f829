import FormulaPad.Text.Blank

/-!
# FormulaPad.Formula.Alphabet

The characters a formula is made of.

Operators cut a formula into segments. Word characters, which include blanks,
make up the names of tags: a name such as `price 2` is one word.
-/

namespace FormulaPad.Formula

/-- The characters that separate segments. -/
def operators : List Char := ['+', '-', '*', '/', '^', '(', ')']

def isOperator (c : Char) : Bool := c ∈ operators

/-- An ASCII letter or digit, an underscore, or a blank. -/
def isWordChar (c : Char) : Bool := c.isAlphanum || c == '_' || Text.isBlank c

/-- No character is both. -/
theorem isWordChar_of_isOperator {c : Char} (h : isOperator c = true) : isWordChar c = false := by
  simp only [isOperator, operators, decide_eq_true_eq, List.mem_cons, List.not_mem_nil,
    or_false] at h
  rcases h with h | h | h | h | h | h | h <;> subst h <;> decide

/-! ## Runs at the end of a text -/

/-- The word characters that the text ends with. -/
def trailingWord (t : Text) : Text := (t.reverse.takeWhile isWordChar).reverse

/-- The text before its trailing word. -/
def beforeWord (t : Text) : Text := (t.reverse.dropWhile isWordChar).reverse

/-- The word characters that the text ends with, if there is one at all. -/
def trailingWord? (t : Text) : Option Text :=
  match trailingWord t with
  | [] => none
  | run => some run

theorem beforeWord_append_trailingWord (t : Text) : beforeWord t ++ trailingWord t = t := by
  rw [beforeWord, trailingWord, ← List.reverse_append, List.takeWhile_append_dropWhile,
    List.reverse_reverse]

theorem trailingWord?_eq_some_iff {t run : Text} :
    trailingWord? t = some run ↔ trailingWord t = run ∧ run ≠ [] := by
  rw [trailingWord?]
  cases trailingWord t with
  | nil => simp
  | cons c u =>
      rw [Option.some_inj]
      exact ⟨fun h => ⟨h, fun h0 => by rw [h0] at h; cases h⟩, And.left⟩

theorem trailingWord?_eq_none_iff {t : Text} : trailingWord? t = none ↔ trailingWord t = [] := by
  rw [trailingWord?]
  cases trailingWord t <;> simp

theorem suffix_of_trailingWord? {t run : Text} (h : trailingWord? t = some run) : run <:+ t := by
  rw [← (trailingWord?_eq_some_iff.1 h).1]
  exact ⟨beforeWord t, beforeWord_append_trailingWord t⟩

def endsWithOperator (t : Text) : Bool := t.getLast?.any isOperator

end FormulaPad.Formula
