import FormulaPad.Text.Utf8

/-!
# FormulaPad.Editor.Line

A line of text with a caret.

The caret is a position in bytes of the UTF-8 form and stands between two
characters, which the type ensures: an operation that computes a new caret, or
cuts the text at a computed position, proves that it is a boundary.

Seen from the caret the line is a pair of texts, `before` and `after`, and
`ofSplit_before_after` says that the pair is all there is to a line. Each
operation has a lemma that says what it does to the pair, such as
`insert_ofSplit` and `left_ofSplit`.
-/

namespace FormulaPad

/-- A text with a caret between two of its characters. -/
structure Line where
  text : Text := []
  /-- The position of the caret in bytes. -/
  caret : Nat := 0
  caret_boundary : Text.isBoundary text caret = true := by rfl

namespace Line

/-! ## The two sides of the caret -/

def before (l : Line) : Text := Text.sliceTo l.text l.caret l.caret_boundary

def after (l : Line) : Text := Text.sliceFrom l.text l.caret l.caret_boundary

/-- The line with these two sides. -/
def ofSplit (before after : Text) : Line where
  text := before ++ after
  caret := Text.byteLength before
  caret_boundary := Text.isBoundary_byteLength_append before after

@[simp] theorem before_ofSplit (b a : Text) : (ofSplit b a).before = b :=
  Text.takeBytes_byteLength_append b a

@[simp] theorem after_ofSplit (b a : Text) : (ofSplit b a).after = a :=
  Text.dropBytes_byteLength_append b a

theorem before_append_after (l : Line) : l.before ++ l.after = l.text :=
  Text.takeBytes_append_dropBytes l.caret l.text

theorem byteLength_before (l : Line) : Text.byteLength l.before = l.caret :=
  Text.isBoundary_iff.1 l.caret_boundary

/-- A line is its text and its caret. -/
theorem ext {l m : Line} (ht : l.text = m.text) (hc : l.caret = m.caret) : l = m := by
  obtain ⟨text, caret, h⟩ := l
  obtain ⟨text', caret', h'⟩ := m
  cases ht
  cases hc
  rfl

theorem ofSplit_before_after (l : Line) : ofSplit l.before l.after = l :=
  ext l.before_append_after l.byteLength_before

/-- Lines with the same sides are the same. -/
theorem ext_sides {l m : Line} (hb : l.before = m.before) (ha : l.after = m.after) : l = m := by
  rw [← ofSplit_before_after l, ← ofSplit_before_after m, hb, ha]

/-! ## Boundaries next to the caret -/

theorem isBoundary_of_eq {t p u : Text} {n : Nat} (ht : p ++ u = t) (hn : Text.byteLength p = n) :
    Text.isBoundary t n = true := by
  rw [← ht, ← hn]
  exact Text.isBoundary_byteLength_append p u

/-- The character after the caret ends at a boundary. -/
theorem isBoundary_next {l : Line} {c : Char} {rest : Text} (h : l.after = c :: rest) :
    Text.isBoundary l.text (l.caret + c.utf8Size) = true := by
  refine isBoundary_of_eq (p := l.before ++ [c]) (u := rest) ?_ ?_
  · rw [List.append_assoc, List.singleton_append, ← h, l.before_append_after]
  · rw [Text.byteLength_append_singleton, l.byteLength_before]

/-- What stands right before the caret begins at a boundary, and not after the caret. -/
theorem isBoundary_run {l : Line} {run : Text} (h : run <:+ l.before) :
    Text.byteLength run ≤ l.caret ∧
      Text.isBoundary l.text (l.caret - Text.byteLength run) = true := by
  obtain ⟨lead, hlead⟩ := h
  have hlen : Text.byteLength lead + Text.byteLength run = l.caret := by
    rw [← Text.byteLength_append, hlead, l.byteLength_before]
  refine ⟨by omega, isBoundary_of_eq (p := lead) (u := run ++ l.after) ?_ (by omega)⟩
  rw [← List.append_assoc, hlead, l.before_append_after]

/-- The character before the caret begins at a boundary. -/
theorem isBoundary_prev {l : Line} {c : Char} (h : l.before.getLast? = some c) :
    Text.isBoundary l.text (l.caret - c.utf8Size) = true := by
  obtain ⟨lead, hlead⟩ := List.getLast?_eq_some_iff.1 h
  exact (isBoundary_run ⟨lead, hlead.symm⟩).2

/-! ## Making lines -/

def empty : Line := {}

/-- The text with the caret at a position in bytes, or at the boundary before it. -/
def ofTextAt (t : Text) (caret : Nat) : Line where
  text := t
  caret := Text.floorBoundary t caret
  caret_boundary := Text.isBoundary_floorBoundary t caret

/-- The text with the caret at its end. -/
def ofText (t : Text) : Line where
  text := t
  caret := Text.byteLength t
  caret_boundary := Text.isBoundary_byteLength t

/-- The number of characters before the caret. -/
def column (l : Line) : Nat := l.before.length

/-! ## Changing the text -/

/-- Put a text in at the caret, which goes behind it. -/
def insert (l : Line) (t : Text) : Line :=
  ofTextAt (Text.insertAt l.text l.caret t l.caret_boundary) (l.caret + Text.byteLength t)

/-- The line without the character after the caret, if there is one. -/
def delete? (l : Line) : Option Line :=
  match h : l.after with
  | [] => none
  | c :: _ =>
      some (ofTextAt (Text.removeRange l.text l.caret (l.caret + c.utf8Size) l.caret_boundary
        (isBoundary_next h) (Nat.le_add_right _ _)) l.caret)

/-- The line with `name` in the place of the text `run`, which stands right before the caret. -/
def replaceBefore (l : Line) (run name : Text) (h : run <:+ l.before) : Line where
  text :=
    Text.sliceTo l.text (l.caret - Text.byteLength run) (isBoundary_run h).2 ++ name ++ l.after
  caret := l.caret - Text.byteLength run + Text.byteLength name
  caret_boundary := by
    refine isBoundary_of_eq rfl ?_
    rw [Text.byteLength_append, Text.sliceTo, Text.isBoundary_iff.1 (isBoundary_run h).2]

/-- The line without the character before the caret, if there is one. -/
def eraseLast? (l : Line) : Option Line :=
  match h : l.before.getLast? with
  | none => none
  | some c =>
      some (ofTextAt (Text.removeRange l.text (l.caret - c.utf8Size) l.caret (isBoundary_prev h)
        l.caret_boundary (Nat.sub_le _ _)) (l.caret - c.utf8Size))

/-! ## Moving the caret -/

/-- Move the caret to a position in bytes, or to the boundary before it. -/
def moveTo (l : Line) (caret : Nat) : Line := ofTextAt l.text caret

/-- Move the caret behind this many characters, or to the end. -/
def moveToColumn (l : Line) (column : Nat) : Line where
  text := l.text
  caret := Text.columnOffset l.text column
  caret_boundary :=
    isBoundary_of_eq (List.take_append_drop column l.text) (Text.columnOffset_eq l.text column).symm

def left (l : Line) : Line :=
  match h : l.before.getLast? with
  | none => l
  | some c => ⟨l.text, l.caret - c.utf8Size, isBoundary_prev h⟩

def right (l : Line) : Line :=
  match h : l.after with
  | [] => l
  | c :: _ => ⟨l.text, l.caret + c.utf8Size, isBoundary_next h⟩

def home (l : Line) : Line := ⟨l.text, 0, Text.isBoundary_zero l.text⟩

def toEnd (l : Line) : Line := ofText l.text

/-! ## What the operations do to the two sides -/

@[simp] theorem text_ofSplit (b a : Text) : (ofSplit b a).text = b ++ a := rfl

@[simp] theorem caret_ofSplit (b a : Text) : (ofSplit b a).caret = Text.byteLength b := rfl

/-- Every line is given by its two sides. -/
theorem exists_ofSplit (l : Line) : ∃ b a, l = ofSplit b a :=
  ⟨l.before, l.after, l.ofSplit_before_after.symm⟩

/-- A caret that is given stands behind the longest initial part that fits. -/
theorem ofTextAt_eq (t : Text) (caret : Nat) :
    ofTextAt t caret = ofSplit (Text.takeBytes caret t) (Text.dropBytes caret t) :=
  ext (Text.takeBytes_append_dropBytes caret t).symm (Text.floorBoundary_eq t caret)

example : (ofTextAt "né+1".toList 2).caret = 1 := by decide

/-- A caret on a boundary is taken as it is. -/
theorem ofTextAt_append (b a : Text) {n : Nat} (h : n = Text.byteLength b) :
    ofTextAt (b ++ a) n = ofSplit b a := by
  rw [ofTextAt_eq, h, Text.takeBytes_byteLength_append, Text.dropBytes_byteLength_append]

theorem ofText_eq (t : Text) : ofText t = ofSplit t [] :=
  ext (List.append_nil t).symm rfl

theorem insert_ofSplit (b a t : Text) : (ofSplit b a).insert t = ofSplit (b ++ t) a := by
  rw [insert, Text.insertAt_eq t (text_ofSplit b a) (caret_ofSplit b a)]
  exact ofTextAt_append (b ++ t) a (Text.byteLength_append b t).symm

theorem delete?_ofSplit_nil (b : Text) : (ofSplit b []).delete? = none := by
  rw [delete?]
  split
  · rfl
  · next h => simp at h

theorem delete?_ofSplit_cons (b a : Text) (c : Char) :
    (ofSplit b (c :: a)).delete? = some (ofSplit b a) := by
  rw [delete?]
  split
  · next h => simp at h
  · next d rest h =>
      obtain ⟨rfl, rfl⟩ : c = d ∧ a = rest := by simpa using h
      have htext : (ofSplit b (c :: a)).text = b ++ [c] ++ a := by simp
      have hend : (ofSplit b (c :: a)).caret + c.utf8Size = Text.byteLength (b ++ [c]) := by
        rw [caret_ofSplit, Text.byteLength_append_singleton]
      rw [Text.removeRange_eq htext (caret_ofSplit _ _) hend]
      exact congrArg some (ofTextAt_append b a rfl)

theorem eraseLast?_ofSplit_nil (a : Text) : (ofSplit [] a).eraseLast? = none := by
  rw [eraseLast?]
  split
  · rfl
  · next h => simp at h

theorem eraseLast?_ofSplit_append (b a : Text) (c : Char) :
    (ofSplit (b ++ [c]) a).eraseLast? = some (ofSplit b a) := by
  have hcaret : (ofSplit (b ++ [c]) a).caret - c.utf8Size = Text.byteLength b := by
    rw [caret_ofSplit, Text.byteLength_append_singleton, Nat.add_sub_cancel]
  rw [eraseLast?]
  split
  · next h => simp at h
  · next d h =>
      obtain rfl : c = d := by simpa using h
      rw [Text.removeRange_eq (text_ofSplit _ _) hcaret (caret_ofSplit _ _)]
      exact congrArg some (ofTextAt_append b a hcaret)

/-- What stands before `run` is kept. -/
theorem replaceBefore_eq {l : Line} {lead run : Text} (name : Text) (hb : l.before = lead ++ run)
    (h : run <:+ l.before) : l.replaceBefore run name h = ofSplit (lead ++ name) l.after := by
  have hcaret : l.caret - Text.byteLength run = Text.byteLength lead := by
    rw [← l.byteLength_before, hb, Text.byteLength_append, Nat.add_sub_cancel]
  have htext : l.text = lead ++ (run ++ l.after) := by
    rw [← List.append_assoc, ← hb, l.before_append_after]
  refine ext ?_ ?_
  · show Text.sliceTo _ _ _ ++ name ++ l.after = lead ++ name ++ l.after
    rw [Text.sliceTo_eq htext hcaret]
  · show l.caret - Text.byteLength run + Text.byteLength name = Text.byteLength (lead ++ name)
    rw [hcaret, Text.byteLength_append]

theorem moveToColumn_eq (l : Line) (column : Nat) :
    l.moveToColumn column = ofSplit (l.text.take column) (l.text.drop column) :=
  ext (List.take_append_drop column l.text).symm (Text.columnOffset_eq l.text column)

theorem column_moveToColumn (l : Line) (column : Nat) :
    (l.moveToColumn column).column = min column l.text.length := by
  rw [moveToColumn_eq, Line.column, before_ofSplit, List.length_take]

/-- Moving the caret to where it stands changes nothing. -/
theorem moveToColumn_column (l : Line) : l.moveToColumn l.column = l := by
  rw [moveToColumn_eq, Line.column, ← l.before_append_after, List.take_left, List.drop_left,
    ofSplit_before_after]

theorem left_ofSplit_nil (a : Text) : (ofSplit [] a).left = ofSplit [] a := by
  rw [left]
  split
  · rfl
  · next h => simp at h

theorem left_ofSplit_append (b a : Text) (c : Char) :
    (ofSplit (b ++ [c]) a).left = ofSplit b (c :: a) := by
  rw [left]
  split
  · next h => simp at h
  · next d h =>
      obtain rfl : c = d := by simpa using h
      refine ext ?_ ?_
      · exact List.append_assoc b [c] a
      · show Text.byteLength (b ++ [c]) - c.utf8Size = Text.byteLength b
        rw [Text.byteLength_append_singleton, Nat.add_sub_cancel]

theorem right_ofSplit_nil (b : Text) : (ofSplit b []).right = ofSplit b [] := by
  rw [right]
  split
  · rfl
  · next h => simp at h

theorem right_ofSplit_cons (b a : Text) (c : Char) :
    (ofSplit b (c :: a)).right = ofSplit (b ++ [c]) a := by
  rw [right]
  split
  · next h => simp at h
  · next d rest h =>
      obtain ⟨rfl, rfl⟩ : c = d ∧ a = rest := by simpa using h
      refine ext ?_ ?_
      · exact (List.append_assoc b [c] a).symm
      · exact (Text.byteLength_append_singleton b c).symm

theorem home_eq (l : Line) : l.home = ofSplit [] l.text :=
  ext rfl rfl

end Line
end FormulaPad
