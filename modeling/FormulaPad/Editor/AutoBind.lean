import FormulaPad.Editor.Basic

/-!
# FormulaPad.Editor.AutoBind

Binding the tags of a formula that have no value, each to the value of the
first suggestion of its name.
-/

namespace FormulaPad.Editor

/-- The names of the variables of the formula, in order and with repetitions. -/
def names (e : Editor) : List Text :=
  (Formula.tokenize e.store.formula).filterMap Formula.Token.name?

/-- Bind one name, unless it has a value or there is no suggestion for it. The second component
tells which binding was added. -/
def bindName (suggestions : List Suggestion) (e : Editor) (name : Text) :
    Editor × Option (Text × Text) :=
  if (e.store.tags.resolve? name).isSome then (e, none)
  else
    match (Suggestion.matching name suggestions).head? with
    | none => (e, none)
    | some s => (e.selectTagValue name s.valueText, some (name, s.valueText))

/-- Bind one name after another. -/
def bindNames (suggestions : List Suggestion) (e : Editor) : List Text → Editor × List (Text × Text)
  | [] => (e, [])
  | name :: rest =>
      let (e, added) := bindName suggestions e name
      let (e, more) := bindNames suggestions e rest
      (e, added.toList ++ more)

/-- Bind all names of the formula, and tell which bindings were added. -/
def autoBind (e : Editor) (suggestions : List Suggestion) : Editor × List (Text × Text) :=
  bindNames suggestions e e.names

end FormulaPad.Editor
