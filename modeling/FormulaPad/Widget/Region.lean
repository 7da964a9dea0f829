import FormulaPad.Editor.Basic
import FormulaPad.Terminal.Rect

/-!
# FormulaPad.Widget.Region

The regions of the screen that one can point at, as they were last drawn, and
what a cell belongs to. The list of options lies over everything else, and
chips are looked at before the boxes.
-/

namespace FormulaPad.Widget

open Terminal

structure Regions where
  /-- The input box with its edges. -/
  input : Option Rect := none
  /-- The inside of the input box. -/
  inputText : Option Rect := none
  /-- The number of characters to the left of the input box. -/
  inputScroll : Nat := 0
  table : Option Rect := none
  /-- Rows with the numbers of their suggestions. -/
  tableRows : List (Rect × Nat) := []
  /-- Controls with the identifiers of their dropdowns. -/
  toggles : List (Rect × Text) := []
  dropdown : Option (Rect × Text) := none
  /-- Options with their numbers. -/
  options : List (Rect × Nat) := []

/-- What a cell belongs to. -/
inductive Hit where
  /-- The input, with the character column under the pointer. -/
  | input (column : Nat)
  | tableRow (number : Nat)
  /-- The table, but none of its rows. -/
  | table
  | option (id : Text) (number : Nat)
  /-- The list of options, but none of them. -/
  | dropdown (id : Text)
  | toggle (id : Text)
  | elsewhere
  deriving DecidableEq, Repr

/-- What the pointer is on, as far as that decides what closes. -/
def Hit.target : Hit → PointerTarget
  | input _ => .input
  | tableRow _ | table => .suggestionTable
  | option id _ | dropdown id => .dropdown id
  | toggle id => .dropdownToggle id
  | elsewhere => .elsewhere

/-- What is attached to the first region that contains the cell. -/
def findAt (x y : Nat) (regions : List (Rect × α)) : Option α :=
  (regions.find? (·.1.contains x y)).map (·.2)

namespace Regions

/-- The character column of a cell in the input box. -/
def inputColumn (r : Regions) (x : Nat) : Nat :=
  r.inputScroll + match r.inputText with
    | none => 0
    | some text => min (x - text.x) text.width

/-- What the list of options has at a cell. -/
def dropdownHit? (r : Regions) (x y : Nat) : Option Hit :=
  match r.dropdown with
  | some (area, id) =>
      if area.contains x y then
        match findAt x y r.options with
        | some number => some (.option id number)
        | none => some (.dropdown id)
      else none
  | none => none

/-- What a cell belongs to. -/
def hit (r : Regions) (x y : Nat) : Hit :=
  match r.dropdownHit? x y with
  | some h => h
  | none =>
      match findAt x y r.toggles with
      | some id => .toggle id
      | none =>
          if r.input.any (·.contains x y) then .input (r.inputColumn x)
          else if r.table.any (·.contains x y) then
            match findAt x y r.tableRows with
            | some number => .tableRow number
            | none => .table
          else .elsewhere

end Regions
end FormulaPad.Widget
