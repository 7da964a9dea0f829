import FormulaPad.Bindings
import FormulaPad.Formula.Token
import FormulaPad.Suggestion.Basic

/-!
# FormulaPad.View

What is shown of a formula: its operators and numbers as text, and a chip for
every variable.

A chip shows the name and the value of its tag and offers the values of all
suggestions of that name. It is known by the identifier of its dropdown, which
comes from the place of the variable in the formula.
-/

namespace FormulaPad

/-! ## Chips -/

/-- A value that a chip offers. -/
structure ChipOption where
  suggestionId : Text
  value : Text
  /-- The value is the one that is bound. -/
  selected : Bool
  deriving DecidableEq, Repr

/-- A variable of a formula. -/
structure Chip where
  /-- The place of the variable among the segments. -/
  index : Nat
  name : Text
  /-- The value bound to the name, unless it is empty. -/
  value : Option Text
  isOpen : Bool
  options : List ChipOption
  deriving DecidableEq, Repr

namespace Chip

/-- Stands for the value where there is none. -/
def placeholder : Text := "Select".toList

def dropdownId (c : Chip) : Text := Formula.dropdownId c.index

/-- The text on the control that opens the dropdown. -/
def label (c : Chip) : Text := c.value.getD placeholder

/-- The values on offer for a name; `value` is the one that is bound. -/
def optionsFor (name : Text) (value : Option Text) (suggestions : List Suggestion) :
    List ChipOption :=
  (Suggestion.matching name suggestions).map fun s => ⟨s.id, s.valueText, value == some s.valueText⟩

end Chip

/-! ## Views -/

inductive ViewItem where
  | text (t : Text)
  | chip (c : Chip)
  deriving DecidableEq, Repr

/-- A formula as it is shown. -/
structure View where
  items : List ViewItem
  deriving DecidableEq, Repr

namespace View

/-- The chip of a variable. While suggestions are not there yet, it has no options. -/
def chipOf (tags : Bindings) (suggestions : Option (List Suggestion)) (openId : Option Text)
    (index : Nat) (name : Text) : Chip :=
  let value := tags.resolve? name
  ⟨index, name, value, openId == some (Formula.dropdownId index),
    Chip.optionsFor name value (suggestions.getD [])⟩

def itemOf (tags : Bindings) (suggestions : Option (List Suggestion)) (openId : Option Text)
    (t : Formula.Token) : ViewItem :=
  match t.kind with
  | .operator c => .text [c]
  | .number n => .text n
  | .name n => .chip (chipOf tags suggestions openId t.index n)

/-- The view of a formula, with the dropdown of identifier `openId` open. -/
def build (formula : Text) (tags : Bindings) (suggestions : Option (List Suggestion))
    (openId : Option Text) : View :=
  ⟨(Formula.tokenize formula).map (itemOf tags suggestions openId)⟩

def chips (v : View) : List Chip :=
  v.items.filterMap fun
    | .chip c => some c
    | .text _ => none

/-- The chip with this dropdown. -/
def chip? (v : View) (id : Text) : Option Chip := v.chips.find? (·.dropdownId = id)

/-- The chip whose dropdown is open. -/
def openChip? (v : View) : Option Chip := v.chips.find? (·.isOpen)

end View
end FormulaPad
