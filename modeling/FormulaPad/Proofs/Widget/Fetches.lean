import FormulaPad.Proofs.Widget.Interleaving

/-!
# FormulaPad.Proofs.Widget.Fetches

The fetches of a widget and the lists that they post.

A fetch that is outstanding is either under way, or its list waits in the queue.
There is one just while the widget takes a fetch to be pending, so there is never
a second one, and none is forgotten.

Main statements: `tracksFetches_advance` (what one step keeps) and
`tracksFetches_run` (a whole run, with the lists that stay).
-/

namespace FormulaPad.Widget

/-- The message brings a list of suggestions. -/
def Message.isLoaded : Message → Bool
  | .suggestionsLoaded _ => true
  | _ => false

namespace App

/-! ## Outstanding fetches -/

/-- The number of lists that wait in the queue. -/
def waitingLists (a : App) : Nat := a.queue.countP Message.isLoaded

/-- The fetches under way, and those that have ended and whose list has not been taken. -/
def outstanding (a : App) : Nat := a.fetchesRunning + a.waitingLists

/-- A fetch is outstanding just while one is taken to be pending, and then there is only one. -/
def TracksFetches (a : App) : Prop := a.outstanding = if a.fetchPending then 1 else 0

/-- The step brings no list from elsewhere: those of fetches come by the queue. -/
def Step.bringsNoList : Step → Bool
  | .handle _ m | .post m => !m.isLoaded
  | _ => true

variable {a : App} {now : Nat} {m : Message}

/-! ## What one step does -/

theorem countP_isLoaded_storeChanged (changes : List Change) :
    (changes.map Message.storeChanged).countP Message.isLoaded = 0 := by
  simp [List.countP_map, Message.isLoaded]

/-- Messages that are posted during an edit are no lists, so nothing is outstanding by it. -/
theorem tracksFetches_edit {f : Editor → Editor} (h : a.TracksFetches) :
    (a.edit f).TracksFetches := by
  unfold TracksFetches outstanding waitingLists edit
  dsimp only
  rw [List.countP_append, countP_isLoaded_storeChanged, Nat.add_zero]
  exact h

/-- A fetch is started only if none is pending. -/
theorem tracksFetches_startFetch (h : a.TracksFetches) : a.startFetch.TracksFetches := by
  unfold startFetch
  split
  · exact h
  · next hidle =>
      have hpending : a.fetchPending = false := by simp_all
      have hnone : a.fetchesRunning + a.waitingLists = 0 := by
        simpa [TracksFetches, outstanding, hpending] using h
      show a.fetchesRunning + 1 + a.waitingLists = 1
      omega

theorem tracksFetches_refreshIfStale (h : a.TracksFetches) :
    (a.refreshIfStale now).TracksFetches := by
  unfold refreshIfStale
  split
  · exact tracksFetches_startFetch h
  · exact h

/-- A fetch that ends leaves its list in its place. -/
theorem tracksFetches_endFetch {ss : List Suggestion} (h : a.TracksFetches) :
    (a.endFetch ss).TracksFetches := by
  unfold endFetch
  split
  · exact h
  · next hrunning =>
      have hsame : a.fetchesRunning - 1 +
          (a.queue ++ [Message.suggestionsLoaded ss]).countP Message.isLoaded = a.outstanding := by
        have hlist : [Message.suggestionsLoaded ss].countP Message.isLoaded = 1 := rfl
        rw [List.countP_append, hlist, outstanding, waitingLists]
        omega
      exact hsame.trans h

theorem tracksFetches_completeFetch (h : a.TracksFetches) :
    (a.completeFetch now).TracksFetches := by
  rcases completeFetch_eq a now with hsame | ⟨ss, hend⟩
  · rwa [hsame]
  · rw [hend]
    exact tracksFetches_endFetch h

theorem tracksFetches_handle (hm : m.isLoaded = false) (h : a.TracksFetches) :
    (a.handle now m).TracksFetches := by
  cases m with
  | suggestionsLoaded ss => cases hm
  | keyPress action =>
      have hedit : (a.edit (a.keyEdit · action)).TracksFetches := tracksFetches_edit h
      cases action with
      | insert c => exact tracksFetches_refreshIfStale hedit
      | _ => exact hedit
  | pointerDown column row => exact tracksFetches_edit h
  | storeChanged | resize | tick | quit => exact h

/-- When a list is taken from the queue, no fetch is outstanding any more, and none is pending. -/
theorem tracksFetches_next (h : a.TracksFetches) : (a.next now).TracksFetches := by
  unfold next
  split
  · exact h
  · next m rest hqueue =>
      have hcount : a.waitingLists = rest.countP Message.isLoaded + if m.isLoaded then 1 else 0 := by
        rw [waitingLists, hqueue, List.countP_cons]
      cases hm : m.isLoaded with
      | false =>
          rw [hm] at hcount
          refine tracksFetches_handle hm ?_
          unfold TracksFetches outstanding at h ⊢
          rwa [hcount] at h
      | true =>
          cases m with
          | suggestionsLoaded ss =>
              have hone : a.outstanding ≤ 1 := by
                rw [h]
                split <;> omega
              show a.fetchesRunning + rest.countP Message.isLoaded = 0
              rw [outstanding, hcount, hm, if_pos rfl] at hone
              omega
          | _ => cases hm

/-- Whatever step comes next, the fetches outstanding are those that are taken to be pending. -/
theorem tracksFetches_advance {step : Step} (hstep : step.bringsNoList = true)
    (h : a.TracksFetches) : (a.advance step).TracksFetches := by
  cases step with
  | handle now m => exact tracksFetches_handle (by simpa [Step.bringsNoList] using hstep) h
  | post m =>
      have hm : m.isLoaded = false := by simpa [Step.bringsNoList] using hstep
      unfold TracksFetches outstanding waitingLists advance post
      dsimp only
      rw [List.countP_append, List.countP_singleton, hm]
      exact h
  | next now => exact tracksFetches_next h
  | update now => exact update_induction (fun _ => tracksFetches_next) h
  | write op => exact tracksFetches_edit h
  | startFetch => exact tracksFetches_startFetch h
  | completeFetch now => exact tracksFetches_completeFetch h
  | endFetch ss => exact tracksFetches_endFetch h
  | useCache op | render => exact h

/-! ## The list that is there -/

theorem isSome_suggestions_handle (h : a.suggestions.isSome = true) :
    (a.handle now m).suggestions.isSome = true := by
  cases m with
  | keyPress action =>
      cases action with
      | insert c =>
          show ((a.edit (·.insertChar c)).refreshIfStale now).suggestions.isSome = true
          unfold refreshIfStale startFetch
          repeat' split
          all_goals exact h
      | _ => exact h
  | suggestionsLoaded ss => rfl
  | pointerDown | storeChanged | resize | tick | quit => exact h

theorem isSome_suggestions_next (h : a.suggestions.isSome = true) :
    (a.next now).suggestions.isSome = true := by
  unfold next
  split
  · exact h
  · exact isSome_suggestions_handle h

/-- Once there is a list, there always is one. -/
theorem isSome_suggestions_advance {step : Step} (h : a.suggestions.isSome = true) :
    (a.advance step).suggestions.isSome = true := by
  cases step with
  | handle now m => exact isSome_suggestions_handle h
  | next now => exact isSome_suggestions_next h
  | update now =>
      exact update_induction (P := (·.suggestions.isSome = true))
        (fun _ => isSome_suggestions_next) h
  | startFetch =>
      show a.startFetch.suggestions.isSome = true
      unfold startFetch
      split <;> exact h
  | completeFetch now =>
      show (a.completeFetch now).suggestions.isSome = true
      unfold completeFetch
      repeat' split
      all_goals exact h
  | endFetch ss =>
      show (a.endFetch ss).suggestions.isSome = true
      unfold endFetch
      split <;> exact h
  | post | write | useCache | render => exact h

/-! ## Runs -/

theorem tracksFetches_start (editor : Editor) (cache : Option Cache) :
    (start editor cache).TracksFetches := rfl

theorem tracksFetches_of_run {steps : List Step} (hsteps : ∀ step ∈ steps, step.bringsNoList = true)
    (h : a.TracksFetches) : (a.run steps).TracksFetches := by
  induction steps generalizing a with
  | nil => exact h
  | cons step steps ih =>
      obtain ⟨hstep, hrest⟩ := List.forall_mem_cons.1 hsteps
      exact ih hrest (tracksFetches_advance hstep h)

theorem isSome_suggestions_run {steps : List Step} (h : a.suggestions.isSome = true) :
    (a.run steps).suggestions.isSome = true := by
  induction steps generalizing a with
  | nil => exact h
  | cons step steps ih => exact ih (isSome_suggestions_advance h)

/-- However fetches, keys, messages and updates take turns, the fetches under way and the lists that
wait to be taken are together one while a fetch is pending, and none otherwise; and a widget that has
a list keeps having one. -/
theorem tracksFetches_run (editor : Editor) (cache : Option Cache) (steps : List Step)
    (h : ∀ step ∈ steps, step.bringsNoList = true) :
    ((start editor cache).run steps).TracksFetches ∧
      ∀ more : List Step, ((start editor cache).run steps).suggestions.isSome = true →
        ((start editor cache).run (steps ++ more)).suggestions.isSome = true := by
  refine ⟨tracksFetches_of_run h (tracksFetches_start editor cache), fun more hsome => ?_⟩
  rw [run_append]
  exact isSome_suggestions_run hsome

/-- A fetch that is asked for twice, whose list is read early and comes late, and one that typing
starts when the list has gone stale. -/
theorem tracksFetches_run_refreshed :
    let cache : Cache := .start ⟨2⟩ fun _ => .ok []
    let steps : List Step :=
      [.startFetch, .startFetch, .useCache (.getAt 0), .post .tick, .endFetch [], .update 1,
        .post (.keyPress (.insert 'a')), .next 5]
    (∀ step ∈ steps, step.bringsNoList = true) ∧ ((start {} (some cache)).run steps).TracksFetches ∧
      ((start {} (some cache)).run steps).fetchesRunning = 1 := by
  intro cache steps
  have hsteps : ∀ step ∈ steps, step.bringsNoList = true := by
    simp [steps, Step.bringsNoList, Message.isLoaded]
  exact ⟨hsteps, (tracksFetches_run {} (some cache) steps hsteps).1, by decide +kernel⟩

end App
end FormulaPad.Widget
