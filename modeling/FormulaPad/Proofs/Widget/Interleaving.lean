import FormulaPad.Proofs.Editor.Writes
import FormulaPad.Proofs.Suggestion.Freshness
import FormulaPad.Proofs.Widget.Highlight

/-!
# FormulaPad.Proofs.Widget.Interleaving

The widget among those who work with it at the same time.

Messages are posted to its queue and handled one by one; between two of them the
host may write to the store, start a fetch, use the cache or draw, and fetches
end. A `Step` is one of these, and a run is any sequence of steps.

Main statements:

* `handle_withQueue` — a message is handled without a look at the queue, and only
  adds to its end;
* `update_eq_iterate` — an update handles the oldest message until there is none,
  though it is computed in two rounds;
* `edit_keyEdit`, `handlePointer_eq` — messages reach the editor by operations of the editor.
-/

namespace FormulaPad.Widget.App

/-! ## Steps -/

/-- Take the oldest message from the queue and handle it. -/
def next (a : App) (now : Nat) : App :=
  match a.queue with
  | [] => a
  | m :: rest => { a with queue := rest }.handle now m

/-- A fetch that is under way ends with a list that it has got at some time before. -/
def endFetch (a : App) (ss : List Suggestion) : App :=
  if a.fetchesRunning = 0 then a
  else { a with fetchesRunning := a.fetchesRunning - 1, queue := a.queue ++ [.suggestionsLoaded ss] }

/-- Somebody who shares the cache does something with it, such as a fetch that reads it. -/
def useCache (a : App) (op : Cache.Operation) : App :=
  { a with cache := a.cache.map (·.perform op) }

/-- What can happen to the widget, however those who work with it take turns. -/
inductive Step where
  /-- A message is handled at once, past the queue. -/
  | handle (now : Nat) (m : Message)
  | post (m : Message)
  | next (now : Nat)
  | update (now : Nat)
  /-- The host writes to the store. -/
  | write (op : Store.Operation)
  | startFetch
  | completeFetch (now : Nat)
  | endFetch (ss : List Suggestion)
  | useCache (op : Cache.Operation)
  /-- The screen is drawn, in whatever layout. -/
  | render (l : Layout)

/-- The widget after a step. -/
def advance (a : App) : Step → App
  | .handle now m => a.handle now m
  | .post m => a.post m
  | .next now => a.next now
  | .update now => a.update now
  | .write op => a.edit (·.writeStore (·.perform op))
  | .startFetch => a.startFetch
  | .completeFetch now => a.completeFetch now
  | .endFetch ss => a.endFetch ss
  | .useCache op => a.useCache op
  | .render l => a.render l

/-- The widget after one step after another. -/
def run (a : App) (steps : List Step) : App := steps.foldl advance a

theorem run_append (a : App) (steps more : List Step) :
    a.run (steps ++ more) = (a.run steps).run more := List.foldl_append

/-- A fetch that ends as a whole, if there is one, reads the cache and then posts what it has got. -/
theorem completeFetch_eq (a : App) (now : Nat) :
    a.completeFetch now = a ∨
      ∃ ss, a.completeFetch now = (a.useCache (.getAt now)).endFetch ss := by
  unfold completeFetch
  split
  · exact .inl rfl
  · next cache hcache =>
      split
      · exact .inl rfl
      · next hrunning =>
          refine .inr ⟨(cache.getAt now).1, ?_⟩
          unfold endFetch useCache
          rw [if_neg hrunning, hcache]
          rfl

/-! ## The queue -/

/-- The widget with these messages in its queue. -/
def withQueue (a : App) (q : List Message) : App := { a with queue := q }

variable {a : App} {now : Nat} {m : Message} {q : List Message}

theorem withQueue_queue (a : App) : a.withQueue a.queue = a := rfl

theorem edit_withQueue (a : App) (q : List Message) (f : Editor → Editor) :
    (a.withQueue q).edit f =
      ((a.withQueue []).edit f).withQueue (q ++ ((a.withQueue []).edit f).queue) := rfl

theorem refreshIfStale_withQueue (a : App) (q : List Message) (now : Nat) :
    (a.withQueue q).refreshIfStale now = (a.refreshIfStale now).withQueue q := by
  unfold refreshIfStale startFetch isStale withQueue
  dsimp only
  repeat' split
  all_goals rfl

theorem queue_refreshIfStale (a : App) (now : Nat) : (a.refreshIfStale now).queue = a.queue := by
  unfold refreshIfStale startFetch
  repeat' split
  all_goals rfl

/-- To handle a message, the queue is not looked at, and all that happens to it is that messages are
posted. -/
theorem handle_withQueue (a : App) (q : List Message) (now : Nat) (m : Message) :
    (a.withQueue q).handle now m =
      ((a.withQueue []).handle now m).withQueue (q ++ ((a.withQueue []).handle now m).queue) := by
  cases m with
  | keyPress action =>
      cases action with
      | insert c =>
          show ((a.withQueue q).edit (·.insertChar c)).refreshIfStale now = _
          have hqueue := queue_refreshIfStale ((a.withQueue []).edit (·.insertChar c)) now
          rw [edit_withQueue, refreshIfStale_withQueue, ← hqueue]
          rfl
      | _ => rfl
  | pointerDown column row => rfl
  | suggestionsLoaded | storeChanged | resize | tick | quit =>
      show _ = App.withQueue _ (q ++ [])
      rw [List.append_nil]
      rfl

/-- The oldest messages are handled first, and what is posted meanwhile waits behind the others. -/
theorem iterate_next_withQueue (a : App) (now : Nat) (ms q : List Message) :
    (·.next now)^[ms.length] (a.withQueue (ms ++ q)) = (a.withQueue q).handleAll now ms := by
  induction ms generalizing a q with
  | nil => rfl
  | cons m ms ih =>
      have hnext : (a.withQueue (m :: ms ++ q)).next now = (a.withQueue (ms ++ q)).handle now m := rfl
      rw [List.length_cons, Function.iterate_succ_apply, hnext, handle_withQueue, List.append_assoc,
        ih, handleAll, handleAll, List.foldl_cons, ← handle_withQueue]

theorem drain_eq_iterate (a : App) (now : Nat) :
    a.drain now = (·.next now)^[a.queue.length] a := by
  have hnext := iterate_next_withQueue a now a.queue []
  rwa [List.append_nil, withQueue_queue, eq_comm] at hnext

/-- What is posted while a message is handled are store changes. -/
theorem queue_handle (a : App) (now : Nat) (m : Message) :
    ∃ changes : List Change, (a.handle now m).queue = a.queue ++ changes.map .storeChanged := by
  cases m with
  | keyPress action =>
      cases action with
      | insert c => exact ⟨_, queue_refreshIfStale (a.edit (·.insertChar c)) now⟩
      | _ => exact ⟨_, rfl⟩
  | pointerDown column row => exact ⟨_, rfl⟩
  | suggestionsLoaded | storeChanged | resize | tick | quit => exact ⟨[], (List.append_nil _).symm⟩

theorem queue_handleAll (a : App) (now : Nat) (ms : List Message) :
    ∃ changes : List Change, (a.handleAll now ms).queue = a.queue ++ changes.map .storeChanged := by
  induction ms generalizing a with
  | nil => exact ⟨[], (List.append_nil _).symm⟩
  | cons m ms ih =>
      obtain ⟨first, hfirst⟩ := queue_handle a now m
      obtain ⟨rest, hrest⟩ := ih (a.handle now m)
      refine ⟨first ++ rest, hrest.trans ?_⟩
      rw [hfirst, List.append_assoc, List.map_append]

/-- Store changes post nothing when they are handled. -/
theorem queue_handleAll_storeChanged (a : App) (now : Nat) (changes : List Change) :
    (a.handleAll now (changes.map .storeChanged)).queue = a.queue := by
  induction changes generalizing a with
  | nil => rfl
  | cons change changes ih => exact ih (a.handle now (.storeChanged change))

/-- Two rounds are enough to handle all messages. -/
theorem queue_update (a : App) (now : Nat) : (a.update now).queue = [] := by
  obtain ⟨changes, hchanges⟩ := queue_handleAll (a.withQueue []) now a.queue
  have hdrain : (a.drain now).queue = changes.map .storeChanged := hchanges
  show (((a.drain now).withQueue []).handleAll now (a.drain now).queue).queue = []
  rw [hdrain]
  exact queue_handleAll_storeChanged _ now changes

/-- The number of messages that an update handles. -/
def updateLength (a : App) (now : Nat) : Nat := a.queue.length + (a.drain now).queue.length

/-- An update handles the oldest message time and again, until there is none. -/
theorem update_eq_iterate (a : App) (now : Nat) :
    a.update now = (·.next now)^[a.updateLength now] a := by
  unfold update updateLength
  rw [Nat.add_comm, Function.iterate_add_apply, ← drain_eq_iterate, ← drain_eq_iterate]

/-- What handling the oldest message keeps, an update keeps. -/
theorem update_induction {P : App → Prop} (hnext : ∀ a, P a → P (a.next now)) (h : P a) :
    P (a.update now) := by
  rw [update_eq_iterate]
  exact Function.Iterate.rec P h hnext _

/-! ## What reaches the editor -/

/-- What a key does to the editor, as an operation of it. -/
def keyOperations (a : App) : KeyAction → List Editor.Operation
  | .insert c => [.insertChar c]
  | .backspace => [.backspace]
  | .delete => [.deleteForward]
  | .left => [.left]
  | .right => [.right]
  | .home => [.home]
  | .finish => [.toEnd]
  | .escape => [.escape]
  | .up => if a.editor.openDropdown.isSome then [.highlightPrevOption] else [.highlightPrevRow]
  | .down =>
      if a.editor.openDropdown.isSome then [.highlightNextOption a.openOptionCount]
      else [.highlightNextRow a.loaded.length]
  | .enter =>
      if a.editor.openDropdown.isSome then [.selectHighlightedOption a.loaded]
      else [.enter a.loaded]
  | .nextDropdown => [.cycleDropdown true]
  | .prevDropdown => [.cycleDropdown false]
  | .quit => []

/-- What is done with what the pointer is on. -/
def hitOperations (suggestions : List Suggestion) (e : Editor) : Hit → List Editor.Operation
  | .input column => [.setColumn column]
  | .tableRow number => suggestions[number]?.toList.map .selectSuggestion
  | .option id number =>
      match (e.view (some suggestions)).chip? id with
      | none => []
      | some chip => chip.options[number]?.toList.map fun o => .selectTagValue chip.name o.value
  | .toggle id => [.toggleDropdown id]
  | .table | .dropdown _ | .elsewhere => []

/-- The operations of the editor that a message comes to. -/
def operations (a : App) : Message → List Editor.Operation
  | .keyPress action => a.keyOperations action
  | .pointerDown column row =>
      let hit := a.regions.hit column row
      .pointerDown hit.target ::
        hitOperations a.loaded (a.editor.pointerDown hit.target) hit
  | .suggestionsLoaded _ | .storeChanged _ | .resize _ _ | .tick | .quit => []

theorem keyEdit_eq_run (a : App) (action : KeyAction) :
    a.keyEdit a.editor action = a.editor.run (a.keyOperations action) := by
  unfold keyEdit keyOperations
  cases action with
  | up | down | enter => dsimp only; split <;> rfl
  | _ => rfl

theorem activate_eq_run (suggestions : List Suggestion) (e : Editor) (hit : Hit) :
    activate suggestions e hit = e.run (hitOperations suggestions e hit) := by
  unfold activate hitOperations
  cases hit with
  | tableRow number => dsimp only; cases suggestions[number]? <;> rfl
  | option id number =>
      dsimp only
      cases (e.view (some suggestions)).chip? id with
      | none => rfl
      | some chip => dsimp only; cases chip.options[number]? <;> rfl
  | _ => rfl

theorem isOrdinary_keyOperations (a : App) (action : KeyAction) :
    ∀ op ∈ a.keyOperations action, op.isOrdinary = true := by
  unfold keyOperations
  cases action with
  | up | down | enter => dsimp only; split <;> simp [Editor.Operation.isOrdinary]
  | _ => simp [Editor.Operation.isOrdinary]

theorem isOrdinary_hitOperations (suggestions : List Suggestion) (e : Editor) (hit : Hit) :
    ∀ op ∈ hitOperations suggestions e hit, op.isOrdinary = true := by
  unfold hitOperations
  cases hit with
  | option id number => dsimp only; split <;> simp [Editor.Operation.isOrdinary]
  | _ => simp [Editor.Operation.isOrdinary]

/-- The operations that messages come to write to the store only as the editor does. -/
theorem isOrdinary_operations (a : App) (m : Message) :
    ∀ op ∈ a.operations m, op.isOrdinary = true := by
  cases m with
  | keyPress action => exact isOrdinary_keyOperations a action
  | pointerDown column row =>
      exact List.forall_mem_cons.2 ⟨rfl, isOrdinary_hitOperations _ _ _⟩
  | _ => simp [operations]

/-- A key edits by its operations, and only after that it may start a fetch or quit. -/
theorem edit_keyEdit (a : App) (action : KeyAction) :
    a.edit (a.keyEdit · action) = a.edit (·.run (a.operations (.keyPress action))) :=
  edit_congr (keyEdit_eq_run a action)

/-- The pointer edits by its operations. -/
theorem handlePointer_eq (a : App) (column row : Nat) :
    a.handlePointer column row = a.edit (·.run (a.operations (.pointerDown column row))) := by
  unfold handlePointer
  apply edit_congr
  exact activate_eq_run _ _ _

end FormulaPad.Widget.App
