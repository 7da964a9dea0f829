import FormulaPad.Suggestion.Cache
import FormulaPad.Widget.Key
import FormulaPad.Widget.Screen

/-!
# FormulaPad.Widget.App

The widget as a state that messages change.

The widget follows its store: every change is posted to the queue as a message
and counted when it is handled. Suggestions are fetched in the background; a
fetch that ends posts its list, and while one is under way no other is started.
When the kept list has gone stale, typing starts a fetch. Messages are handled
in the order in which they were posted.
-/

namespace FormulaPad.Widget

/-! ## Messages and state -/

inductive Message where
  | suggestionsLoaded (suggestions : List Suggestion)
  | storeChanged (change : Change)
  | keyPress (action : KeyAction)
  | pointerDown (column row : Nat)
  | resize (width height : Nat)
  | tick
  | quit

structure App where
  editor : Editor
  /-- The subscription of the widget to the store. -/
  subscription : Nat
  /-- The suggestions, once they are there. -/
  suggestions : Option (List Suggestion)
  /-- The regions of the last drawn screen. -/
  regions : Regions := {}
  /-- The number of store changes seen. -/
  revision : Nat := 0
  width : Nat := 80
  height : Nat := 24
  quitting : Bool := false
  /-- Messages that are posted and not yet handled, the oldest first. -/
  queue : List Message := []
  cache : Option Cache
  fetchPending : Bool := false
  /-- The number of fetches under way. -/
  fetchesRunning : Nat := 0

namespace App

/-- A widget around an editor. Without a cache there are no suggestions to wait for. -/
def start (editor : Editor) (cache : Option Cache) : App :=
  let (id, store) := editor.store.subscribe
  { editor := { editor with store := store }
    subscription := id
    suggestions := if cache.isNone then some [] else none
    cache := cache }

/-- The editor, no longer followed. -/
def finish (a : App) : Editor :=
  { a.editor with store := (a.editor.store.unsubscribe a.subscription).2 }

/-! ## Posting and editing -/

def post (a : App) (m : Message) : App := { a with queue := a.queue ++ [m] }

/-- Change the editor, and post the store changes that come of it. -/
def edit (a : App) (f : Editor → Editor) : App :=
  let editor := f a.editor
  let (changes, store) := editor.store.collect a.subscription
  { a with
    editor := { editor with store := store }
    queue := a.queue ++ changes.map .storeChanged }

/-! ## Fetching -/

/-- Start a fetch, unless one is under way. -/
def startFetch (a : App) : App :=
  if a.fetchPending || a.cache.isNone then a
  else { a with fetchPending := true, fetchesRunning := a.fetchesRunning + 1 }

/-- A fetch that is under way ends: its list is posted. -/
def completeFetch (a : App) (now : Nat) : App :=
  match a.cache with
  | none => a
  | some cache =>
      if a.fetchesRunning = 0 then a
      else
        let (ss, cache) := cache.getAt now
        { a with
          cache := some cache
          fetchesRunning := a.fetchesRunning - 1
          queue := a.queue ++ [.suggestionsLoaded ss] }

/-- A list is kept, but it is no longer fresh. -/
def isStale (a : App) (now : Nat) : Bool :=
  a.cache.any fun c => c.peek?.isSome && !c.isFreshAt now

def refreshIfStale (a : App) (now : Nat) : App := if a.isStale now then a.startFetch else a

/-! ## Keys -/

/-- The suggestions that are there. -/
def loaded (a : App) : List Suggestion := a.suggestions.getD []

/-- The number of options of the open chip. -/
def openOptionCount (a : App) : Nat :=
  match (a.editor.view (some a.loaded)).openChip? with
  | none => 0
  | some chip => chip.options.length

/-- What a key does to the editor. While a dropdown is open, it has the arrows and the enter key. -/
def keyEdit (a : App) (e : Editor) : KeyAction → Editor
  | .insert c => e.insertChar c
  | .backspace => e.backspace
  | .delete => e.deleteForward
  | .left => e.left
  | .right => e.right
  | .home => e.home
  | .finish => e.toEnd
  | .escape => e.escape
  | .up => if e.openDropdown.isSome then e.highlightPrevOption else e.highlightPrevRow
  | .down =>
      if e.openDropdown.isSome then e.highlightNextOption a.openOptionCount
      else e.highlightNextRow a.loaded.length
  | .enter =>
      if e.openDropdown.isSome then e.selectHighlightedOption a.loaded else e.enter a.loaded
  | .nextDropdown => e.cycleDropdown true
  | .prevDropdown => e.cycleDropdown false
  | .quit => e

def handleKey (a : App) (now : Nat) (action : KeyAction) : App :=
  let b := a.edit (a.keyEdit · action)
  match action with
  | .insert _ => b.refreshIfStale now
  | .quit => { b with quitting := true }
  | _ => b

/-! ## Pointer -/

/-- Do what the pointer is on. -/
def activate (suggestions : List Suggestion) (e : Editor) : Hit → Editor
  | .input column => e.setColumn column
  | .tableRow number =>
      match suggestions[number]? with
      | some s => e.selectSuggestion s
      | none => e
  | .option id number =>
      match (e.view (some suggestions)).chip? id with
      | none => e
      | some chip =>
          match chip.options[number]? with
          | some o => e.selectTagValue chip.name o.value
          | none => e
  | .toggle id => e.toggleDropdown id
  | .table | .dropdown _ | .elsewhere => e

/-- The pointer goes down on a cell: first close what it is outside of, then do what it is on. -/
def handlePointer (a : App) (column row : Nat) : App :=
  let hit := a.regions.hit column row
  a.edit fun e => activate a.loaded (e.pointerDown hit.target) hit

/-! ## Messages -/

def handle (a : App) (now : Nat) : Message → App
  | .suggestionsLoaded ss => { a with suggestions := some ss, fetchPending := false }
  | .storeChanged _ => { a with revision := a.revision + 1 }
  | .keyPress action => a.handleKey now action
  | .pointerDown column row => a.handlePointer column row
  | .resize width height => { a with width := width, height := height }
  | .tick => a
  | .quit => { a with quitting := true }

/-- Handle the messages of a list. -/
def handleAll (a : App) (now : Nat) (ms : List Message) : App :=
  ms.foldl (fun a m => a.handle now m) a

/-- Handle all messages that are in the queue now. -/
def drain (a : App) (now : Nat) : App := handleAll { a with queue := [] } now a.queue

/-- Handle all messages. Those posted meanwhile are store changes, which post nothing more. -/
def update (a : App) (now : Nat) : App := (a.drain now).drain now

/-! ## Drawing -/

/-- The screen as it is drawn with this layout. -/
def frame (a : App) (l : Layout) : Frame := draw l a.width a.height a.editor a.suggestions

/-- Draw, and keep the regions. -/
def render (a : App) (l : Layout) : App := { a with regions := (a.frame l).regions }

end App
end FormulaPad.Widget
