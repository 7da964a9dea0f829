import FormulaPad.Editor.Basic

/-!
# FormulaPad.Proofs.Editor.Operation

The operations of the editor as data, so that statements about every sequence
of them can be made.

Writes to the store behind the line are operations too, with any function on
stores.
-/

namespace FormulaPad.Editor

/-- What can be done with an editor, with all arguments. -/
inductive Operation where
  | changeInput (text : Text) (caret : Nat)
  | insertChar (c : Char)
  | insertText (t : Text)
  | backspace
  | deleteForward
  | setCaret (caret : Nat)
  | setColumn (column : Nat)
  | left
  | right
  | home
  | toEnd
  | load (formula : Text)
  | escape
  | enter (suggestions : List Suggestion)
  | highlightNextRow (rows : Nat)
  | highlightPrevRow
  | selectSuggestion (s : Suggestion)
  | toggleDropdown (id : Text)
  | closeDropdown
  | cycleDropdown (forward : Bool)
  | selectTagValue (tag value : Text)
  | highlightNextOption (options : Nat)
  | highlightPrevOption
  | selectHighlightedOption (suggestions : List Suggestion)
  | pointerDown (target : PointerTarget)
  | writeStore (f : Store → Store)

/-- The editor after an operation. -/
def perform (e : Editor) : Operation → Editor
  | .changeInput text caret => e.changeInput text caret
  | .insertChar c => e.insertChar c
  | .insertText t => e.insertText t
  | .backspace => e.backspace
  | .deleteForward => e.deleteForward
  | .setCaret caret => e.setCaret caret
  | .setColumn column => e.setColumn column
  | .left => e.left
  | .right => e.right
  | .home => e.home
  | .toEnd => e.toEnd
  | .load formula => e.load formula
  | .escape => e.escape
  | .enter suggestions => e.enter suggestions
  | .highlightNextRow rows => e.highlightNextRow rows
  | .highlightPrevRow => e.highlightPrevRow
  | .selectSuggestion s => e.selectSuggestion s
  | .toggleDropdown id => e.toggleDropdown id
  | .closeDropdown => e.closeDropdown
  | .cycleDropdown forward => e.cycleDropdown forward
  | .selectTagValue tag value => e.selectTagValue tag value
  | .highlightNextOption options => e.highlightNextOption options
  | .highlightPrevOption => e.highlightPrevOption
  | .selectHighlightedOption suggestions => e.selectHighlightedOption suggestions
  | .pointerDown target => e.pointerDown target
  | .writeStore f => e.writeStore f

/-- The editor after one operation after another. -/
def run (e : Editor) : List Operation → Editor
  | [] => e
  | op :: ops => run (e.perform op) ops

end FormulaPad.Editor
