import FormulaPad.Proofs.Widget.Interleaving

/-!
# FormulaPad.Proofs.Widget.Revision

The store changes that a widget counts.

A change of the store is posted to the queue, and counted when it is taken from
there. `runWrites` lists all that is written to the store in a run, by keys, by the
pointer and by the host, whether or not it changes anything; what it alters is
counted or waits to be counted, and nothing else is.

Main statements: `accounts_advance` (what one step adds to the account) and
`accounts_run` (the account of a whole run).
-/

namespace FormulaPad.Widget

/-- The store change that a message tells of. -/
def Message.change? : Message → Option Change
  | .storeChanged change => some change
  | _ => none

namespace App

/-! ## What is written in a run -/

/-- The store changes that wait in the queue, the oldest first. -/
def queuedChanges (a : App) : List Change := a.queue.filterMap Message.change?

/-- What is written to the store when a message is handled. -/
def messageWrites (a : App) (m : Message) : List Store.Operation :=
  a.editor.runWrites (a.operations m)

/-- What is written when the oldest message is handled. -/
def nextWrites (a : App) : List Store.Operation := a.queue.head?.toList.flatMap a.messageWrites

/-- What is written while the oldest message is handled so many times. -/
def iterateWrites (a : App) (now : Nat) : Nat → List Store.Operation
  | 0 => []
  | n + 1 => a.nextWrites ++ (a.next now).iterateWrites now n

/-- What is written in a step. -/
def stepWrites (a : App) : Step → List Store.Operation
  | .handle _ m => a.messageWrites m
  | .next _ => a.nextWrites
  | .update now => a.iterateWrites now (a.updateLength now)
  | .write op => [op]
  | .post _ | .startFetch | .completeFetch _ | .endFetch _ | .useCache _ | .render _ => []

/-- What is written in a run. -/
def runWrites (a : App) : List Step → List Store.Operation
  | [] => []
  | step :: steps => a.stepWrites step ++ (a.advance step).runWrites steps

/-- The step tells of no store change from elsewhere, and the host does no more with the store than to
write to it. -/
def Step.bringsNoChange : Step → Bool
  | .handle _ m | .post m => m.change?.isNone
  | .write op => op.isWrite
  | _ => true

/-! ## The account -/

/-- These changes have been counted, but for the latest, which wait to be. -/
structure Counts (log : List Change) (a : App) : Prop where
  counted : a.revision + a.queuedChanges.length = log.length
  latest : a.queuedChanges <:+ log

/-- The widget follows its store, which is the given one after these writes, and has accounted for all
that they have changed. -/
structure Accounts (s : Store) (writes : List Store.Operation) (log : List Change) (a : App) :
    Prop where
  follows : a.editor.store.follows a.subscription = true
  collected : a.editor.store.received a.subscription = []
  snapshot_eq : a.editor.store.snapshot = (s.run writes).snapshot
  altered : Store.Altered s writes log
  counts : Counts log a

variable {s : Store} {writes : List Store.Operation} {log : List Change} {a : App} {now : Nat}
  {m : Message}

theorem filterMap_change?_storeChanged (changes : List Change) :
    (changes.map Message.storeChanged).filterMap Message.change? = changes := by
  simp [List.filterMap_map, Function.comp_def, Message.change?]

/-- What is posted for the store is appended to the account. -/
theorem Counts.post (h : Counts log a) (changes : List Change) :
    Counts (log ++ changes) (a.withQueue (a.queue ++ changes.map .storeChanged)) := by
  have hqueued : (a.withQueue (a.queue ++ changes.map .storeChanged)).queuedChanges =
      a.queuedChanges ++ changes := by
    unfold queuedChanges withQueue
    rw [List.filterMap_append, filterMap_change?_storeChanged]
  constructor
  · show a.revision + _ = _
    rw [hqueued, List.length_append, List.length_append, ← Nat.add_assoc, h.counted]
  · obtain ⟨seen, hseen⟩ := h.latest
    exact ⟨seen, by rw [hqueued, ← hseen, List.append_assoc]⟩

/-- What the account is about is the store, the queue and the count. -/
theorem Accounts.congr {b : App} (h : Accounts s writes log a) (hstore : b.editor.store = a.editor.store)
    (hsubscription : b.subscription = a.subscription) (hrevision : b.revision = a.revision)
    (hqueued : b.queuedChanges = a.queuedChanges) : Accounts s writes log b where
  follows := by rw [hstore, hsubscription]; exact h.follows
  collected := by rw [hstore, hsubscription]; exact h.collected
  snapshot_eq := by rw [hstore]; exact h.snapshot_eq
  altered := h.altered
  counts := ⟨by rw [hrevision, hqueued]; exact h.counts.counted, hqueued ▸ h.counts.latest⟩

/-- To edit by operations of the editor adds what these write to the account. -/
theorem Accounts.edit {f : Editor → Editor} {more : List Store.Operation}
    (h : Accounts s writes log a) (hf : (f a.editor).store = a.editor.store.run more)
    (hmore : ∀ op ∈ more, op.isWrite = true) :
    ∃ log', Accounts s (writes ++ more) (log ++ log') (a.edit f) := by
  obtain ⟨log', haltered, hlog⟩ := Store.exists_log_collect h.follows h.collected hmore
  refine ⟨log', ?follows, ?collected, ?snapshot_eq, ?altered, ?counts⟩
  case follows =>
      show Store.follows ((f a.editor).store.collect a.subscription).2 _ = true
      rw [Store.follows_collect, hf, Store.follows_run hmore]
      exact h.follows
  case collected => exact Store.received_collect ..
  case snapshot_eq =>
      show Store.snapshot ((f a.editor).store.collect a.subscription).2 = _
      rw [Store.snapshot_collect, hf, Store.run_append]
      exact Store.snapshot_run_congr hmore h.snapshot_eq
  case altered => exact h.altered.append (haltered.congr hmore h.snapshot_eq)
  case counts =>
      have hqueue : (a.edit f).queue = a.queue ++ log'.map .storeChanged := by
        rw [← hlog, ← hf]
        rfl
      have hpost := h.counts.post log'
      exact ⟨by rw [← hpost.counted, queuedChanges, hqueue]; rfl,
        by rw [queuedChanges, hqueue]; exact hpost.latest⟩

/-! ## Steps -/

/-- A message that is posted by others leaves the account alone. -/
theorem Accounts.post (h : Accounts s writes log a) (hm : m.change? = none) :
    Accounts s writes log (a.post m) := by
  refine h.congr rfl rfl rfl ?_
  unfold queuedChanges App.post
  simp [hm]

theorem Accounts.startFetch (h : Accounts s writes log a) : Accounts s writes log a.startFetch := by
  unfold App.startFetch
  split
  · exact h
  · exact h.congr rfl rfl rfl rfl

theorem Accounts.refreshIfStale (h : Accounts s writes log a) :
    Accounts s writes log (a.refreshIfStale now) := by
  unfold App.refreshIfStale
  split
  · exact h.startFetch
  · exact h

theorem Accounts.endFetch (h : Accounts s writes log a) (ss : List Suggestion) :
    Accounts s writes log (a.endFetch ss) := by
  unfold App.endFetch
  split
  · exact h
  · exact (h.post (m := .suggestionsLoaded ss) rfl).congr rfl rfl rfl rfl

theorem Accounts.completeFetch (h : Accounts s writes log a) :
    Accounts s writes log (a.completeFetch now) := by
  rcases completeFetch_eq a now with hsame | ⟨ss, hend⟩
  · rwa [hsame]
  · rw [hend]
    have hread : Accounts s writes log (a.useCache (.getAt now)) := h.congr rfl rfl rfl rfl
    exact hread.endFetch ss

/-- What is written when a message is handled goes to the account. -/
theorem Accounts.handle (h : Accounts s writes log a) (hm : m.change? = none) :
    ∃ log', Accounts s (writes ++ a.messageWrites m) (log ++ log') (a.handle now m) := by
  have hordinary := isOrdinary_operations a m
  have hedit : ∃ log', Accounts s (writes ++ a.messageWrites m) (log ++ log')
      (a.edit (·.run (a.operations m))) :=
    h.edit (Editor.store_run hordinary) Editor.isWrite_runWrites
  cases m with
  | keyPress action =>
      rw [← edit_keyEdit] at hedit
      obtain ⟨log', hlog'⟩ := hedit
      refine ⟨log', ?_⟩
      cases action with
      | insert c => exact hlog'.refreshIfStale
      | quit => exact hlog'.congr rfl rfl rfl rfl
      | _ => exact hlog'
  | pointerDown column row => rwa [← handlePointer_eq] at hedit
  | storeChanged change => cases hm
  | suggestionsLoaded | resize | tick | quit =>
      refine ⟨[], ?_⟩
      rw [messageWrites, operations, Editor.runWrites, List.append_nil, List.append_nil]
      exact h.congr rfl rfl rfl rfl

/-- A store change that is taken from the queue is counted. -/
theorem Accounts.next (h : Accounts s writes log a) (now : Nat) :
    ∃ log', Accounts s (writes ++ a.nextWrites) (log ++ log') (a.next now) := by
  unfold App.next nextWrites
  split
  · next hqueue =>
      refine ⟨[], ?_⟩
      simpa [hqueue] using h
  · next m rest hqueue =>
      have hwrites : a.queue.head?.toList.flatMap a.messageWrites = a.messageWrites m := by
        simp [hqueue]
      have hqueued : a.queuedChanges = m.change?.toList ++ rest.filterMap Message.change? := by
        rw [queuedChanges, hqueue, List.filterMap_cons]
        cases m.change? <;> rfl
      rw [hwrites]
      cases hm : m.change? with
      | none =>
          rw [hm] at hqueued
          have hrest : Accounts s writes log { a with queue := rest } :=
            h.congr rfl rfl rfl hqueued.symm
          exact hrest.handle hm
      | some change =>
          rw [hm] at hqueued
          cases m with
          | storeChanged c =>
              refine ⟨[], ?_⟩
              rw [messageWrites, operations, Editor.runWrites, List.append_nil, List.append_nil]
              refine ⟨h.follows, h.collected, h.snapshot_eq, h.altered, ?counted, ?latest⟩
              case counted =>
                  have hcounted := h.counts.counted
                  rw [hqueued] at hcounted
                  simp only [Option.toList_some, List.singleton_append, List.length_cons] at hcounted
                  show a.revision + 1 + (rest.filterMap Message.change?).length = log.length
                  omega
              case latest =>
                  have hlatest := h.counts.latest
                  rw [hqueued] at hlatest
                  exact (List.suffix_cons ..).trans hlatest
          | _ => cases hm

theorem Accounts.iterate (h : Accounts s writes log a) (n : Nat) :
    ∃ log', Accounts s (writes ++ a.iterateWrites now n) (log ++ log') ((·.next now)^[n] a) := by
  induction n generalizing a writes log with
  | zero => exact ⟨[], by simpa [iterateWrites] using h⟩
  | succ n ih =>
      obtain ⟨first, hfirst⟩ := h.next now
      obtain ⟨rest, hrest⟩ := ih hfirst
      refine ⟨first ++ rest, ?_⟩
      rw [iterateWrites, ← List.append_assoc, ← List.append_assoc]
      exact hrest

/-- Whatever step comes next, what it writes goes to the account. -/
theorem accounts_advance {step : Step} (hstep : step.bringsNoChange = true)
    (h : Accounts s writes log a) :
    ∃ log', Accounts s (writes ++ a.stepWrites step) (log ++ log') (a.advance step) := by
  have hquiet {b : App} (hb : Accounts s writes log b) :
      ∃ log', Accounts s (writes ++ []) (log ++ log') b := ⟨[], by simpa using hb⟩
  cases step with
  | handle now m => exact h.handle (Option.isNone_iff_eq_none.1 hstep)
  | post m => exact hquiet (h.post (Option.isNone_iff_eq_none.1 hstep))
  | next now => exact h.next now
  | update now =>
      show ∃ log', Accounts s _ (log ++ log') (a.update now)
      rw [update_eq_iterate]
      exact h.iterate _
  | write op =>
      exact h.edit (f := (·.writeStore (·.perform op))) rfl (List.forall_mem_singleton.2 hstep)
  | startFetch => exact hquiet h.startFetch
  | completeFetch now => exact hquiet h.completeFetch
  | endFetch ss => exact hquiet (h.endFetch ss)
  | useCache op | render => exact hquiet (h.congr rfl rfl rfl rfl)

/-! ## Runs -/

theorem Accounts.run {steps : List Step} (h : Accounts s writes log a)
    (hsteps : ∀ step ∈ steps, step.bringsNoChange = true) :
    ∃ log', Accounts s (writes ++ a.runWrites steps) (log ++ log') (a.run steps) := by
  induction steps generalizing a writes log with
  | nil => exact ⟨[], by simpa [runWrites, App.run] using h⟩
  | cons step steps ih =>
      obtain ⟨hstep, hrest⟩ := List.forall_mem_cons.1 hsteps
      obtain ⟨first, hfirst⟩ := accounts_advance hstep h
      obtain ⟨rest, hlast⟩ := ih hfirst hrest
      refine ⟨first ++ rest, ?_⟩
      rw [runWrites, ← List.append_assoc, ← List.append_assoc]
      exact hlast

theorem runWrites_append (a : App) (steps more : List Step) :
    a.runWrites (steps ++ more) = a.runWrites steps ++ (a.run steps).runWrites more := by
  induction steps generalizing a with
  | nil => rfl
  | cons step steps ih =>
      rw [List.cons_append, runWrites, ih, runWrites, List.append_assoc]
      rfl

/-- A new widget has followed its store from the start, and nothing has changed yet. -/
theorem accounts_start (editor : Editor) (cache : Option Cache) :
    Accounts editor.store [] [] (start editor cache) where
  follows := by
    show editor.store.subscribe.2.follows editor.store.subscribe.1 = true
    simp [Store.follows_subscribe]
  collected := by
    show editor.store.subscribe.2.received editor.store.subscribe.1 = []
    simp [Store.received, Store.subscribe]
  snapshot_eq := rfl
  altered := .nil _
  counts := ⟨rfl, List.suffix_refl _⟩

/-- However keys, the pointer, writes of the host, messages and updates take turns, a widget has counted
the changes that there have been since its start, but for the latest, which wait in the queue in their
order; right after an update it has counted them all. -/
theorem accounts_run (editor : Editor) (cache : Option Cache) (steps : List Step)
    (h : ∀ step ∈ steps, step.bringsNoChange = true) :
    let a := start editor cache
    ∃ log, Store.Altered editor.store (a.runWrites steps) log ∧
      (a.run steps).editor.store.snapshot = (editor.store.run (a.runWrites steps)).snapshot ∧
      Counts log (a.run steps) ∧
      ∀ now, ∃ more,
        Store.Altered editor.store (a.runWrites (steps ++ [.update now])) (log ++ more) ∧
        (a.run (steps ++ [.update now])).revision = (log ++ more).length := by
  intro a
  obtain ⟨log, hlog⟩ := (accounts_start editor cache).run h
  simp only [List.nil_append] at hlog
  refine ⟨log, hlog.altered, hlog.snapshot_eq, hlog.counts, fun now => ?_⟩
  obtain ⟨more, hmore⟩ : ∃ more, Accounts editor.store
      (a.runWrites steps ++ (a.run steps).stepWrites (.update now)) (log ++ more)
      ((a.run steps).advance (.update now)) := accounts_advance rfl hlog
  rw [run_append, runWrites_append, runWrites, runWrites, List.append_nil]
  refine ⟨more, hmore.altered, ?_⟩
  have hcounted := hmore.counts.counted
  have hempty : ((a.run steps).advance (.update now)).queuedChanges = [] := by
    unfold queuedChanges advance
    rw [queue_update]
    rfl
  rwa [hempty] at hcounted

/-- The host binds a value twice, which is one change; a key that is taken from the queue adds another
one behind it, and both are counted by the update. -/
theorem accounts_run_boundTwice :
    let steps : List Step :=
      [.write (.setTag ['a'] ['1']), .write (.setTag ['a'] ['1']), .post (.keyPress (.insert 'x'))]
    (∀ step ∈ steps, step.bringsNoChange = true) ∧
      ∃ log, Counts log ((start {} none).run steps) ∧ log = [.tag ['a'] ['1']] ∧
        ((start {} none).run (steps ++ [.update 0])).revision = 2 := by
  intro steps
  have hsteps : ∀ step ∈ steps, step.bringsNoChange = true := by decide
  obtain ⟨log, -, -, hcounts, -⟩ := accounts_run {} none steps hsteps
  refine ⟨hsteps, log, hcounts, ?_, by decide +kernel⟩
  have hqueued : ((start {} none).run steps).queuedChanges = [.tag ['a'] ['1']] := by decide +kernel
  have hlatest := hcounts.latest
  rw [hqueued] at hlatest
  refine (hlatest.eq_of_length ?_).symm
  rw [← hcounts.counted, hqueued]
  decide +kernel

end App
end FormulaPad.Widget
