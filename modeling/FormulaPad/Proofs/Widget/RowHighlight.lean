import FormulaPad.Proofs.Panel.Windows
import FormulaPad.Proofs.Widget.Interleaving

/-!
# FormulaPad.Proofs.Widget.RowHighlight

The highlighted row of the table and the arrow keys.

The highlight is a number that is kept while the list changes under it, and a
number beyond the list is drawn as the last row. The down key starts from the row
that is drawn, the up key from the number that is kept. So the up key moves what
is drawn just while the number is that of a row, or there is one row at most.

Main statements: `highlights_iff` (which row is drawn as highlighted),
`movesHighlight_iff` (when both keys move it), `rowInRange_perform_iff` (only a
list that is loaded can leave the number behind) and `movesHighlight_run_iff` (in
which runs the keys always move what is drawn).
-/

namespace FormulaPad

open Terminal

/-! ## Moving between rows -/

namespace Window

variable {highlight count : Nat}

/-- One row further down is one row further down from where the highlight is drawn. -/
theorem rowOf_nextRow (h : 0 < count) :
    rowOf (nextRow highlight count) count = min (rowOf highlight count + 1) (count - 1) := by
  simp only [rowOf, nextRow, if_neg (Nat.ne_of_gt h)]
  omega

/-- A number less is one row up from there only if the highlight is the number of a row. -/
theorem rowOf_pred_iff :
    rowOf (highlight - 1) count = rowOf highlight count - 1 ↔ highlight < count ∨ count ≤ 1 := by
  simp only [rowOf]
  omega

end Window

/-! ## What is drawn -/

namespace Panel

/-- On the screen, the area has room for a row of the table. -/
structure HasRow (g : Grid) (area : Rect) : Prop where
  holds : g.Holds area
  room : 0 < tableRoom (boxed.inner area)
  width : 0 < (boxed.inner area).width

/-- In the table that is drawn, this row is in view and is the highlighted one. -/
def HighlightsRow (g : Grid) (area : Rect) (suggestions : Option (List Suggestion))
    (highlight row : Nat) : Prop :=
  ∃ region, (region, row) ∈ tableRegions area (suggestions.getD []) highlight ∧
    (drawTable g area suggestions highlight).DrawnIn region .selected

/-- Where a row has room, the one that the highlight stands for is drawn as highlighted, and no
other. -/
theorem highlightsRow_iff {g : Grid} {area : Rect} {suggestions : List Suggestion}
    {highlight row : Nat} (h : HasRow g area) (hne : suggestions ≠ []) :
    HighlightsRow g area (some suggestions) highlight row ↔
      row = Window.rowOf highlight suggestions.length := by
  have hmarks : MarksRow (drawTable g area (some suggestions) highlight)
      (tableRegions area suggestions highlight) (Window.rowOf highlight suggestions.length) :=
    marksRow_of_drawnIn fun _ _ => drawnIn_tableRegions h.holds h.room h.width
  constructor
  · intro hrow
    obtain ⟨region, hmem, hdrawn⟩ := hrow
    exact (hmarks region row hmem).1 hdrawn
  · intro hrow
    subst hrow
    obtain ⟨region, hmem⟩ :=
      (showsRows_tableRegions highlight h.holds.inRange.bottom_le h.room hne).exists_region
    exact ⟨region, hmem, (hmarks region _ hmem).2 rfl⟩

end Panel

/-! ## The highlight within a list -/

namespace Editor

variable {e e' : Editor} {rows : Nat}

/-- While the table is open, the highlight is the number of a row of a list of this length; if there
is one row at most, any number will do. -/
def RowWithin (e : Editor) (rows : Nat) : Prop :=
  e.tableOpen = true → e.tableRow < rows ∨ rows ≤ 1

theorem rowWithin_of_first (h : e.tableRow = 0) : e.RowWithin rows := by
  intro _
  omega

theorem rowWithin_of_closed (h : e.tableOpen = false) : e.RowWithin rows := by
  intro hopen
  rw [h] at hopen
  cases hopen

/-- The highlight may move up, and the table may close. -/
theorem RowWithin.of_le (h : e.RowWithin rows)
    (hopen : e'.tableOpen = true → e.tableOpen = true) (hrow : e'.tableRow ≤ e.tableRow) :
    e'.RowWithin rows := by
  intro hopen'
  have hwithin := h (hopen hopen')
  omega

/-- Typing puts the highlight on the first row. -/
theorem rowWithin_changeLine (e : Editor) (line : Line) : (e.changeLine line).RowWithin rows :=
  rowWithin_of_first rfl

theorem RowWithin.backspace (h : e.RowWithin rows) : e.backspace.RowWithin rows := by
  fun_cases Editor.backspace e with
  | case1 => exact h
  | case2 | case3 => exact h.of_le id (Nat.le_refl _)
  | case4 => exact h
  | case5 => exact rowWithin_changeLine _ _

theorem RowWithin.deleteForward (h : e.RowWithin rows) : e.deleteForward.RowWithin rows := by
  fun_cases Editor.deleteForward e with
  | case1 => exact h
  | case2 => exact rowWithin_changeLine _ _

theorem rowWithin_selectSuggestion (e : Editor) (s : Suggestion) :
    (e.selectSuggestion s).RowWithin rows := by
  rw [selectSuggestion]
  split
  · exact rowWithin_of_closed rfl
  · exact rowWithin_of_closed rfl

theorem RowWithin.enter (h : e.RowWithin rows) (suggestions : List Suggestion) :
    (e.enter suggestions).RowWithin rows := by
  fun_cases Editor.enter e suggestions with
  | case1 | case3 => exact h
  | case2 => exact rowWithin_selectSuggestion _ _

theorem rowWithin_highlightNextRow (e : Editor) : (e.highlightNextRow rows).RowWithin rows := by
  intro _
  show Window.nextRow e.tableRow rows < rows ∨ rows ≤ 1
  cases Nat.eq_zero_or_pos rows with
  | inl hzero => exact .inr (by omega)
  | inr hpos => exact .inl (Window.nextRow_lt _ hpos)

theorem RowWithin.selectHighlightedOption (h : e.RowWithin rows) (suggestions : List Suggestion) :
    (e.selectHighlightedOption suggestions).RowWithin rows := by
  fun_cases Editor.selectHighlightedOption e suggestions with
  | case1 | case2 => exact h
  | case3 => exact h.of_le id (Nat.le_refl _)

theorem RowWithin.toggleDropdown (h : e.RowWithin rows) (id : Text) :
    (e.toggleDropdown id).RowWithin rows := by
  rw [Editor.toggleDropdown]
  split
  · exact h
  · exact h

theorem RowWithin.cycleDropdown (h : e.RowWithin rows) (forward : Bool) :
    (e.cycleDropdown forward).RowWithin rows := by
  rw [Editor.cycleDropdown_eq]
  exact h

theorem RowWithin.pointerDown (h : e.RowWithin rows) (target : PointerTarget) :
    (e.pointerDown target).RowWithin rows :=
  h.of_le (fun hopen => (Bool.and_eq_true_iff.1 hopen).1) (Nat.le_refl _)

/-- All that is done with an editor keeps the highlight within the list, if it moves down along this
list. -/
theorem RowWithin.perform (h : e.RowWithin rows) {op : Operation}
    (hop : ∀ n, op = .highlightNextRow n → n = rows) : (e.perform op).RowWithin rows := by
  cases op with
  | changeInput | insertChar | insertText => exact rowWithin_changeLine _ _
  | backspace => exact h.backspace
  | deleteForward => exact h.deleteForward
  | setCaret | setColumn | left | right | home | toEnd | load => exact h
  | escape => exact rowWithin_of_closed rfl
  | enter suggestions => exact h.enter suggestions
  | highlightNextRow n => exact hop n rfl ▸ rowWithin_highlightNextRow e
  | highlightPrevRow => exact h.of_le id (Nat.sub_le ..)
  | selectSuggestion s => exact rowWithin_selectSuggestion e s
  | toggleDropdown id => exact h.toggleDropdown id
  | cycleDropdown forward => exact h.cycleDropdown forward
  | selectHighlightedOption suggestions => exact h.selectHighlightedOption suggestions
  | pointerDown target => exact h.pointerDown target
  | closeDropdown | selectTagValue | writeStore => exact h
  | highlightNextOption | highlightPrevOption => exact h

theorem RowWithin.run {ops : List Operation} (h : e.RowWithin rows)
    (hops : ∀ op ∈ ops, ∀ n, op = .highlightNextRow n → n = rows) : (e.run ops).RowWithin rows := by
  induction ops generalizing e with
  | nil => exact h
  | cons op ops ih =>
      exact ih (h.perform (hops op List.mem_cons_self))
        fun other hother => hops other (List.mem_cons_of_mem op hother)

end Editor

namespace Widget.App

variable {a : App}

/-- While the table is open, the highlight of the widget is the number of a row of its list. -/
def RowInRange (a : App) : Prop := a.editor.RowWithin a.loaded.length

/-! ## Keeping the highlight -/

theorem editor_refreshIfStale (a : App) (now : Nat) : (a.refreshIfStale now).editor = a.editor := by
  unfold refreshIfStale startFetch
  split
  · split <;> rfl
  · rfl

theorem suggestions_refreshIfStale (a : App) (now : Nat) :
    (a.refreshIfStale now).suggestions = a.suggestions := by
  unfold refreshIfStale startFetch
  split
  · split <;> rfl
  · rfl

/-- Keys move down along the list of the widget, and the pointer moves down nowhere. -/
theorem rows_of_mem_operations {m : Message} {op : Editor.Operation} (hop : op ∈ a.operations m)
    (n : Nat) (h : op = .highlightNextRow n) : n = a.loaded.length := by
  subst h
  cases m with
  | keyPress action =>
      rw [operations] at hop
      cases action with
      | down =>
          rw [keyOperations] at hop
          split at hop
          · simp at hop
          · simpa using hop
      | up | enter =>
          rw [keyOperations] at hop
          split at hop <;> simp at hop
      | _ => simp [keyOperations] at hop
  | pointerDown column row =>
      rw [operations] at hop
      cases List.mem_cons.1 hop with
      | inl hfirst => cases hfirst
      | inr hrest =>
          unfold hitOperations at hrest
          split at hrest
          case h_3 =>
            split at hrest <;> simp at hrest
          all_goals simp at hrest
  | _ => cases hop

theorem rowInRange_edit_run {m : Message} (h : a.RowInRange) :
    (a.edit (·.run (a.operations m))).RowInRange :=
  have hrun : (a.editor.run (a.operations m)).RowWithin a.loaded.length :=
    Editor.RowWithin.run h fun _ hop => rows_of_mem_operations hop
  hrun

/-- Only other suggestions can leave the highlight behind. -/
theorem rowInRange_handle (h : a.RowInRange) {now : Nat} {m : Message}
    (hm : ∀ ss, m ≠ .suggestionsLoaded ss) : (a.handle now m).RowInRange := by
  cases m with
  | suggestionsLoaded ss => exact absurd rfl (hm ss)
  | keyPress action =>
      have hedit : (a.edit (a.keyEdit · action)).RowInRange := by
        rw [edit_keyEdit]
        exact rowInRange_edit_run h
      cases action with
      | insert c =>
          show ((a.edit (·.insertChar c)).refreshIfStale now).RowInRange
          rw [RowInRange, loaded, editor_refreshIfStale, suggestions_refreshIfStale]
          exact hedit
      | _ => exact hedit
  | pointerDown column row =>
      show (a.handlePointer column row).RowInRange
      rw [handlePointer_eq]
      exact rowInRange_edit_run h
  | storeChanged | resize | tick | quit => exact h

/-- A list that is loaded while the table is open reaches to the highlight, or has one row at
most. -/
def KeepsRow (a : App) : Operation → Prop
  | .message _ (.suggestionsLoaded ss) => a.editor.RowWithin ss.length
  | _ => True

/-- The highlight stays within the list but for lists that end before it. -/
theorem rowInRange_perform_iff (h : a.RowInRange) {op : Operation} :
    (a.perform op).RowInRange ↔ KeepsRow a op := by
  cases op with
  | message now m =>
      cases m with
      | suggestionsLoaded ss => exact Iff.rfl
      | _ => exact iff_of_true (rowInRange_handle h fun _ heq => by cases heq) trivial
  | writeStore f => exact iff_of_true h trivial
  | render => exact iff_of_true h trivial

/-! ## The arrow keys -/

/-- The table is drawn, and this row of it is highlighted. -/
def Highlights (a : App) (g : Grid) (area : Rect) (row : Nat) : Prop :=
  a.editor.tableOpen = true ∧ Panel.HighlightsRow g area a.suggestions a.editor.tableRow row

/-- While the table is open, no dropdown is, and there are suggestions: wherever the table is drawn
with room for a row, one row is highlighted; the down key highlights the next one, or keeps the
last one, and the up key highlights the one before, or keeps the first one. -/
def MovesHighlight (a : App) : Prop :=
  a.editor.tableOpen = true → a.editor.openDropdown = none → a.loaded ≠ [] →
    ∀ (now : Nat) (g : Grid) (area : Rect), Panel.HasRow g area →
      ∃ row, (∀ r, a.Highlights g area r ↔ r = row) ∧
        (∀ r, (a.handle now (.keyPress .down)).Highlights g area r ↔
          r = min (row + 1) (a.loaded.length - 1)) ∧
        ∀ r, (a.handle now (.keyPress .up)).Highlights g area r ↔ r = row - 1

section Keys

variable {g : Grid} {area : Rect} {row : Nat} {f : Editor → Editor}

theorem highlights_iff (hopen : a.editor.tableOpen = true) (hne : a.loaded ≠ [])
    (h : Panel.HasRow g area) :
    a.Highlights g area row ↔ row = Window.rowOf a.editor.tableRow a.loaded.length := by
  have hsome : a.suggestions = some a.loaded := by
    cases hs : a.suggestions with
    | none => exact absurd (by rw [loaded, hs]; rfl) hne
    | some ss => rw [loaded, hs]; rfl
  rw [Highlights, hsome, Panel.highlightsRow_iff h hne, and_iff_right hopen]

/-- A change of the editor leaves the list as it is. -/
theorem highlights_edit_iff (hopen : (f a.editor).tableOpen = true) (hne : a.loaded ≠ [])
    (h : Panel.HasRow g area) :
    (a.edit f).Highlights g area row ↔
      row = Window.rowOf (f a.editor).tableRow a.loaded.length :=
  highlights_iff (a := a.edit f) hopen hne h

/-- Without an open dropdown, the arrow keys change the number of the row. -/
theorem handle_down (hclosed : a.editor.openDropdown = none) (now : Nat) :
    a.handle now (.keyPress .down) = a.edit (·.highlightNextRow a.loaded.length) :=
  edit_congr (f := (a.keyEdit · .down)) (by rw [keyEdit, hclosed]; rfl)

theorem handle_up (hclosed : a.editor.openDropdown = none) (now : Nat) :
    a.handle now (.keyPress .up) = a.edit (·.highlightPrevRow) :=
  edit_congr (f := (a.keyEdit · .up)) (by rw [keyEdit, hclosed]; rfl)

end Keys

/-- Both keys move the row that is drawn as highlighted just while the highlight is the number of a
row, or there is one row at most. -/
theorem movesHighlight_iff :
    MovesHighlight a ↔ (a.editor.openDropdown = none → a.RowInRange) := by
  constructor
  · intro h hclosed hopen
    by_cases hne : a.loaded = []
    · exact .inr (by simp [hne])
    · -- a table with room for one row
      have harea : Panel.HasRow (.blank 3 4) ⟨0, 0, 3, 4⟩ :=
        ⟨Grid.holds_blank (by decide) (by decide) (by decide) (by decide), by decide, by decide⟩
      obtain ⟨row, hrow, -, hup⟩ := h hopen hclosed hne 0 _ _ harea
      obtain rfl := (highlights_iff hopen hne harea).1 ((hrow row).2 rfl)
      rw [handle_up hclosed] at hup
      have hpred := (highlights_edit_iff hopen hne harea).1 ((hup _).2 rfl)
      exact Window.rowOf_pred_iff.1 hpred.symm
  · intro h hopen hclosed hne now g area harea
    refine ⟨_, fun r => highlights_iff hopen hne harea, fun r => ?_, fun r => ?_⟩
    · rw [handle_down hclosed, highlights_edit_iff hopen hne harea,
        ← Window.rowOf_nextRow (List.length_pos_iff.2 hne)]
      rfl
    · rw [handle_up hclosed, highlights_edit_iff hopen hne harea,
        ← Window.rowOf_pred_iff.2 (h hclosed hopen)]
      rfl

/-! ## Runs -/

/-- The widget with its dropdown closed. -/
def withoutDropdown (a : App) : App := { a with editor := a.editor.closeDropdown }

/-- A dropdown that is open has the arrow keys; behind it the highlight is kept, so that they move
it again once the dropdown is closed. -/
theorem movesHighlight_and_iff :
    a.MovesHighlight ∧ a.withoutDropdown.MovesHighlight ↔ a.RowInRange := by
  rw [movesHighlight_iff, movesHighlight_iff]
  exact ⟨fun h => h.2 rfl, fun h => ⟨fun _ => h, fun _ => h⟩⟩

theorem rowInRange_start (store : Store) (cache : Option Cache) :
    (start (.ofStore store) cache).RowInRange :=
  Editor.rowWithin_of_first rfl

/-- From a new widget on, the arrow keys always move the row that is drawn as highlighted, and would
after an open dropdown is closed, exactly if no list that is loaded while the table is open ends
before the highlight, unless it has one row at most. -/
theorem movesHighlight_run_iff (store : Store) (cache : Option Cache) (ops : List Operation) :
    HoldsAlong perform (fun a => a.MovesHighlight ∧ a.withoutDropdown.MovesHighlight)
        (start (.ofStore store) cache) ops ↔
      EveryStep perform KeepsRow (start (.ofStore store) cache) ops := by
  refine holdsAlong_iff (fun h _ => ?_) (movesHighlight_and_iff.2 (rowInRange_start store cache))
    (everyStep_of_forall fun _ _ => trivial)
  rw [movesHighlight_and_iff, rowInRange_perform_iff (movesHighlight_and_iff.1 h)]

/-- Six suggestions become three while the highlight is on the last of the six; the up key leaves
the last of the three highlighted. -/
theorem not_movesHighlight_shortened :
    let suggestions (n : Nat) : List Suggestion := (List.range n).map fun i =>
      ⟨Text.ofNat i, "rate".toList, "c".toList, .number (.integer i)⟩
    ¬ HoldsAlong perform MovesHighlight (start (.ofStore {}) none)
      ([.message 0 (.suggestionsLoaded (suggestions 6)), .message 0 (.keyPress (.insert 'a'))] ++
        List.replicate 5 (.message 0 (.keyPress .down)) ++
        [.message 0 (.suggestionsLoaded (suggestions 3))]) := by
  intro suggestions h
  have hrow := movesHighlight_iff.1 h.last (by decide) (by decide)
  revert hrow
  decide

end Widget.App
end FormulaPad
