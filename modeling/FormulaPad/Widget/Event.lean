import FormulaPad.Widget.App

/-!
# FormulaPad.Widget.Event

What the terminal reports, and the messages that come of it.
-/

namespace FormulaPad.Widget

inductive Event where
  | key (e : KeyEvent)
  /-- The left button goes down on a cell. -/
  | leftButtonDown (column row : Nat)
  | resize (width height : Nat)
  /-- Anything else: other buttons, moves, the focus, pasted text. -/
  | other

def Event.message? : Event → Option Message
  | key e => e.action?.map .keyPress
  | leftButtonDown column row => some (.pointerDown column row)
  | resize width height => some (.resize width height)
  | other => none

/-- Handle the message of an event, if there is one. -/
def App.handleEvent (a : App) (now : Nat) (e : Event) : App :=
  match e.message? with
  | none => a
  | some m => a.handle now m

end FormulaPad.Widget
