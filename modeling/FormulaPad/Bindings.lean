import FormulaPad.Text.Basic

/-!
# FormulaPad.Bindings

The values bound to tags, in the order in which the tags were first bound.

An empty value counts as no value wherever a formula is evaluated or shown, but
it stays in the map: `get?` sees it, `resolve?` does not. Main statements:
`get?_insert`, `get?_erase`, and `insert_of_get?`: binding what is bound changes
nothing.
-/

namespace FormulaPad

/-- A map from tags to values. -/
structure Bindings where
  entries : List (Text × Text) := []
  deriving DecidableEq, Repr

namespace Bindings

/-! ## Operations -/

def empty : Bindings := ⟨[]⟩

/-- The value bound to a tag; it may be empty. -/
def get? (b : Bindings) (tag : Text) : Option Text := b.entries.lookup tag

/-- The value bound to a tag, unless it is empty. -/
def resolve? (b : Bindings) (tag : Text) : Option Text := (b.get? tag).filter (· ≠ [])

/-- Bind `tag` to `value` in a list of entries, at its place or at the end. -/
def insertEntry (tag value : Text) : List (Text × Text) → List (Text × Text)
  | [] => [(tag, value)]
  | (t, v) :: rest => if t = tag then (tag, value) :: rest else (t, v) :: insertEntry tag value rest

def insert (b : Bindings) (tag value : Text) : Bindings := ⟨insertEntry tag value b.entries⟩

def erase (b : Bindings) (tag : Text) : Bindings := ⟨b.entries.filter (·.1 ≠ tag)⟩

/-- Later pairs overwrite earlier ones of the same name. -/
def insertAll (b : Bindings) (pairs : List (Text × Text)) : Bindings :=
  pairs.foldl (fun b p => b.insert p.1 p.2) b

def ofList (pairs : List (Text × Text)) : Bindings := empty.insertAll pairs

/-! ## Looking up after a change -/

theorem lookup_insertEntry (tag value other : Text) (es : List (Text × Text)) :
    (insertEntry tag value es).lookup other = if other = tag then some value else es.lookup other := by
  induction es with
  | nil => by_cases h : other = tag <;> simp [insertEntry, List.lookup_cons, beq_false_of_ne, h]
  | cons e es ih =>
      obtain ⟨t, v⟩ := e
      by_cases ht : t = tag
      · subst ht
        by_cases h : other = t
        · simp [insertEntry, h]
        · simp [insertEntry, List.lookup_cons, beq_false_of_ne h, h]
      · by_cases h : other = t
        · subst h; simp [insertEntry, ht]
        · simp [insertEntry, ht, List.lookup_cons, beq_false_of_ne h, ih]

theorem get?_insert (b : Bindings) (tag value other : Text) :
    (b.insert tag value).get? other = if other = tag then some value else b.get? other :=
  lookup_insertEntry tag value other b.entries

theorem lookup_filter_ne (tag other : Text) (es : List (Text × Text)) :
    (es.filter (·.1 ≠ tag)).lookup other = if other = tag then none else es.lookup other := by
  induction es with
  | nil => simp
  | cons e es ih =>
      obtain ⟨t, v⟩ := e
      by_cases ht : t = tag
      · subst ht
        by_cases h : other = t
        · simpa [h] using ih
        · simpa [h, List.lookup_cons, beq_false_of_ne h] using ih
      · by_cases h : other = t
        · subst h; simp [ht]
        · simpa [ht, List.lookup_cons, beq_false_of_ne h] using ih

theorem get?_erase (b : Bindings) (tag other : Text) :
    (b.erase tag).get? other = if other = tag then none else b.get? other :=
  lookup_filter_ne tag other b.entries

/-- An empty value that is bound is no value. -/
theorem resolve?_insert (b : Bindings) (tag value other : Text) :
    (b.insert tag value).resolve? other =
      if other = tag then (some value).filter (· ≠ []) else b.resolve? other := by
  rw [resolve?, get?_insert]
  split <;> rfl

theorem resolve?_erase (b : Bindings) (tag other : Text) :
    (b.erase tag).resolve? other = if other = tag then none else b.resolve? other := by
  rw [resolve?, get?_erase]
  split <;> rfl

/-! ## Binding again -/

theorem insertEntry_of_lookup {tag value : Text} {es : List (Text × Text)}
    (h : es.lookup tag = some value) : insertEntry tag value es = es := by
  induction es with
  | nil => simp at h
  | cons e es ih =>
      obtain ⟨t, v⟩ := e
      by_cases ht : tag = t
      · obtain rfl : v = value := by simpa [ht] using h
        simp [insertEntry, ht]
      · have hrest : es.lookup tag = some value := by
          simpa [List.lookup_cons, beq_false_of_ne ht] using h
        rw [insertEntry, if_neg (Ne.symm ht), ih hrest]

/-- Binding a tag to the value that it has changes nothing. -/
theorem insert_of_get? {b : Bindings} {tag value : Text} (h : b.get? tag = some value) :
    b.insert tag value = b := by
  rw [insert, insertEntry_of_lookup h]

theorem insertAll_append (b : Bindings) (pairs more : List (Text × Text)) :
    b.insertAll (pairs ++ more) = (b.insertAll pairs).insertAll more := List.foldl_append

end Bindings
end FormulaPad
