import FormulaPad.Editor.AutoBind

/-!
# FormulaPad.Proofs.Editor.AutoBind

What binding the tags of a formula does to the store.

The bindings that are reported are the bindings that are made: the map after it
is the map before it, overwritten with the report (`content_autoBind`). This also
holds of bindings to an empty value, which are made and reported once for every
occurrence of the name.
-/

namespace FormulaPad.Editor

variable {suggestions : List Suggestion}

/-- A value that is taken is written over the one that the tag has. -/
theorem content_selectTagValue (e : Editor) (tag value : Text) :
    (e.selectTagValue tag value).store.content =
      { e.store.content with tags := e.store.tags.insert tag value } :=
  Store.content_setTag e.store tag value

theorem content_bindName (e : Editor) (name : Text) :
    (bindName suggestions e name).1.store.content =
      { e.store.content with
        tags := e.store.tags.insertAll (bindName suggestions e name).2.toList } := by
  rw [bindName]
  split
  · rfl
  · split
    · rfl
    · exact content_selectTagValue e name _

theorem content_bindNames (e : Editor) (names : List Text) :
    (bindNames suggestions e names).1.store.content =
      { e.store.content with
        tags := e.store.tags.insertAll (bindNames suggestions e names).2 } := by
  induction names generalizing e with
  | nil => rfl
  | cons name names ih =>
      show (bindNames suggestions (bindName suggestions e name).1 names).1.store.content = _
      rw [ih, Store.tags, content_bindName, bindNames, Bindings.insertAll_append]

/-- The map after auto-binding is the map before it, overwritten with what is reported. -/
theorem content_autoBind (e : Editor) (suggestions : List Suggestion) :
    (e.autoBind suggestions).1.store.content =
      { e.store.content with tags := e.store.tags.insertAll (e.autoBind suggestions).2 } :=
  content_bindNames e e.names

/-- Without suggestions nothing is bound. -/
theorem autoBind_nil (e : Editor) : e.autoBind [] = (e, []) := by
  rw [autoBind]
  induction e.names with
  | nil => rfl
  | cons name names ih =>
      have hname : bindName [] e name = (e, none) := by
        rw [bindName]
        split <;> rfl
      simp [bindNames, hname, ih]

end FormulaPad.Editor
