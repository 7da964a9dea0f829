import FormulaPad.Editor.Line
import FormulaPad.Evaluation
import FormulaPad.Store
import FormulaPad.View
import FormulaPad.Window

/-!
# FormulaPad.Editor.Basic

The editor of a formula: an input line over a store, a table of suggestions
that opens while one types, and the dropdowns of the chips.

The text of the line becomes the formula with every change. A formula may also
be loaded behind an empty line; backspace then takes segments off it. Only one
dropdown is open at a time, and the table and the dropdowns close when the
pointer goes down outside of them.
-/

namespace FormulaPad

/-- What is under the pointer. -/
inductive PointerTarget where
  | input
  | suggestionTable
  | dropdown (id : Text)
  | dropdownToggle (id : Text)
  | elsewhere
  deriving DecidableEq, Repr

namespace PointerTarget

/-- The target belongs to the dropdown. -/
def isOf (id : Text) : PointerTarget → Bool
  | .dropdown other | .dropdownToggle other => other == id
  | _ => false

/-- The table stays open for these targets. -/
def keepsTable : PointerTarget → Bool
  | .input | .suggestionTable => true
  | _ => false

end PointerTarget

structure Editor where
  store : Store := {}
  line : Line := .empty
  tableOpen : Bool := false
  /-- The highlighted row of the table; a row beyond the last one stands for the last. -/
  tableRow : Nat := 0
  openDropdown : Option Text := none
  /-- The highlighted option of the open dropdown. -/
  optionRow : Nat := 0

namespace Editor

/-- An editor over a store, with an empty line. -/
def ofStore (store : Store) : Editor := { store := store }

/-! ## What is shown -/

def view (e : Editor) (suggestions : Option (List Suggestion)) : View :=
  .build e.store.formula e.store.tags suggestions e.openDropdown

/-- The result of the formula; an empty formula has none. -/
def banner? (e : Editor) : Option Text := Evaluation.banner? e.store.formula e.store.tags

/-! ## Typing -/

/-- Put a formula behind an empty line. -/
def load (e : Editor) (formula : Text) : Editor :=
  { e with store := e.store.setFormula formula, line := .empty }

/-- The line has changed: its text becomes the formula, and the table opens. -/
def changeLine (e : Editor) (line : Line) : Editor :=
  { e with store := e.store.setFormula line.text, line := line, tableOpen := true, tableRow := 0 }

/-- The line has been given a new text and a caret. -/
def changeInput (e : Editor) (text : Text) (caret : Nat) : Editor :=
  e.changeLine (.ofTextAt text caret)

def insertText (e : Editor) (t : Text) : Editor := e.changeLine (e.line.insert t)

def insertChar (e : Editor) (c : Char) : Editor := e.insertText [c]

/-- Delete backwards. With an empty line the last segment of the formula goes and the rest
becomes the line; a word before the caret goes as a whole and is bound to an empty value;
otherwise one character goes. -/
def backspace (e : Editor) : Editor :=
  if e.line.text = [] then
    if e.store.formula = [] then e
    else
      let rest := Formula.removeLastSegment e.store.formula
      { e with store := e.store.setFormula rest, line := .ofText rest }
  else
    match h : Formula.trailingWord? e.line.before with
    | some word =>
        let line := e.line.replaceBefore word [] (Formula.suffix_of_trailingWord? h)
        { e with store := (e.store.setFormula line.text).setTag word [], line := line }
    | none =>
        match e.line.eraseLast? with
        | none => e
        | some line => e.changeLine line

/-- Delete the character after the caret. -/
def deleteForward (e : Editor) : Editor :=
  match e.line.delete? with
  | none => e
  | some line => e.changeLine line

/-! ## Moving the caret -/

def setCaret (e : Editor) (caret : Nat) : Editor := { e with line := e.line.moveTo caret }

def setColumn (e : Editor) (column : Nat) : Editor := { e with line := e.line.moveToColumn column }

def left (e : Editor) : Editor := { e with line := e.line.left }

def right (e : Editor) : Editor := { e with line := e.line.right }

def home (e : Editor) : Editor := { e with line := e.line.home }

def toEnd (e : Editor) : Editor := { e with line := e.line.toEnd }

/-! ## The table of suggestions -/

/-- The line with the name put in at the caret: after an operator or at the start it is
inserted, after a word it replaces the word, elsewhere there is no place for it. -/
def placeName? (line : Line) (name : Text) : Option Line :=
  if line.before = [] ∨ Formula.endsWithOperator line.before then
    some (line.replaceBefore [] name (List.nil_suffix))
  else
    match h : Formula.trailingWord? line.before with
    | none => none
    | some word => some (line.replaceBefore word name (Formula.suffix_of_trailingWord? h))

/-- Put the name of a suggestion in and bind its value to it; the table closes. -/
def selectSuggestion (e : Editor) (s : Suggestion) : Editor :=
  match placeName? e.line s.name with
  | none => { e with tableOpen := false }
  | some line =>
      { e with
        store := (e.store.setFormula line.text).setTag s.name s.valueText
        line := line
        tableOpen := false }

def escape (e : Editor) : Editor := { e with tableOpen := false }

/-- Take the highlighted row of the table. -/
def enter (e : Editor) (suggestions : List Suggestion) : Editor :=
  if e.tableOpen then
    match suggestions[Window.rowOf e.tableRow suggestions.length]? with
    | none => e
    | some s => e.selectSuggestion s
  else e

def highlightNextRow (e : Editor) (rows : Nat) : Editor :=
  { e with tableRow := Window.nextRow e.tableRow rows }

def highlightPrevRow (e : Editor) : Editor := { e with tableRow := e.tableRow - 1 }

/-! ## Dropdowns -/

/-- Open a dropdown, or close it if it is open. -/
def toggleDropdown (e : Editor) (id : Text) : Editor :=
  if e.openDropdown = some id then { e with openDropdown := none }
  else { e with openDropdown := some id, optionRow := 0 }

def closeDropdown (e : Editor) : Editor := { e with openDropdown := none }

/-- The dropdowns of the formula in order. -/
def dropdownIds (e : Editor) : List Text :=
  (Formula.tokenize e.store.formula).filterMap Formula.Token.dropdownId?

/-- The neighbour in a list of the one that is open, on the way through it; before the first and
after the last there is none open. -/
def neighbour? (ids : List Text) (current : Option Text) (forward : Bool) : Option Text :=
  match current.bind fun id => ids.findIdx? (· = id), forward with
  | none, true => ids.head?
  | none, false => ids.getLast?
  | some i, true => ids[i + 1]?
  | some 0, false => none
  | some (i + 1), false => ids[i]?

/-- Open the dropdown of the next chip, or of the previous one. -/
def cycleDropdown (e : Editor) (forward : Bool) : Editor :=
  match e.dropdownIds with
  | [] => { e with openDropdown := none }
  | ids => { e with openDropdown := neighbour? ids e.openDropdown forward, optionRow := 0 }

theorem neighbour?_nil (current : Option Text) (forward : Bool) :
    neighbour? [] current forward = none := by
  cases current <;> cases forward <;> rfl

/-- Cycling goes to a neighbour and highlights the first option, unless there are no dropdowns, and
leaves everything else as it is. -/
theorem cycleDropdown_eq (e : Editor) (forward : Bool) :
    e.cycleDropdown forward =
      { e with
        openDropdown := neighbour? e.dropdownIds e.openDropdown forward
        optionRow := if e.dropdownIds = [] then e.optionRow else 0 } := by
  rw [cycleDropdown]
  split
  · next hnil => rw [hnil, neighbour?_nil, if_pos rfl]
  · next hne => rw [if_neg hne]

/-- Bind a value to a tag and close the dropdown. -/
def selectTagValue (e : Editor) (tag value : Text) : Editor :=
  { e with store := e.store.setTag tag value, openDropdown := none }

def highlightNextOption (e : Editor) (options : Nat) : Editor :=
  { e with optionRow := Window.nextRow e.optionRow options }

def highlightPrevOption (e : Editor) : Editor := { e with optionRow := e.optionRow - 1 }

/-- Take the highlighted option of the open dropdown. -/
def selectHighlightedOption (e : Editor) (suggestions : List Suggestion) : Editor :=
  match (e.view (some suggestions)).openChip? with
  | none => e
  | some chip =>
      match chip.options[e.optionRow]? with
      | none => e
      | some option => e.selectTagValue chip.name option.value

/-! ## Pointer and direct writes -/

/-- The pointer goes down: what it is outside of closes. -/
def pointerDown (e : Editor) (target : PointerTarget) : Editor :=
  { e with
    tableOpen := e.tableOpen && PointerTarget.keepsTable target
    openDropdown := e.openDropdown.filter (PointerTarget.isOf · target) }

/-- Write to the store behind the line. -/
def writeStore (e : Editor) (f : Store → Store) : Editor := { e with store := f e.store }

end Editor
end FormulaPad
