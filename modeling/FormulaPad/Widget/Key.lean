import FormulaPad.Text.Basic

/-!
# FormulaPad.Widget.Key

Keys and what they do in the widget.
-/

namespace FormulaPad.Widget

inductive KeyCode where
  | char (c : Char)
  | backspace
  | delete
  | left
  | right
  | home
  | finish
  | escape
  | up
  | down
  | enter
  | tab
  | backTab
  /-- Any other key. -/
  | other
  deriving DecidableEq, Repr

structure KeyEvent where
  code : KeyCode
  /-- The control key is held down. -/
  control : Bool := false
  /-- The key is let go. -/
  released : Bool := false
  deriving DecidableEq, Repr

/-- What a key does. -/
inductive KeyAction where
  | insert (c : Char)
  | backspace
  | delete
  | left
  | right
  | home
  | finish
  | escape
  | up
  | down
  | enter
  | nextDropdown
  | prevDropdown
  | quit
  deriving DecidableEq, Repr

/-- The action of a key that goes down, if it has one. With the control key held down, characters
do nothing but for two that end the program. -/
def KeyEvent.action? (e : KeyEvent) : Option KeyAction :=
  if e.released then none
  else
    match e.code with
    | .char c =>
        if e.control then if c = 'c' ∨ c = 'q' then some .quit else none else some (.insert c)
    | .backspace => some .backspace
    | .delete => some .delete
    | .left => some .left
    | .right => some .right
    | .home => some .home
    | .finish => some .finish
    | .escape => some .escape
    | .up => some .up
    | .down => some .down
    | .enter => some .enter
    | .tab => some .nextDropdown
    | .backTab => some .prevDropdown
    | .other => none

end FormulaPad.Widget
