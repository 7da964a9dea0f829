import FormulaPad.Proofs.Editor.Dropdowns
import FormulaPad.Widget.App

/-!
# FormulaPad.Proofs.Widget.Highlight

The highlighted option and the enter key.

The highlight is a number, and it is kept while the options change under it.
Where the options are drawn, a number beyond the last option stands for the last
one; where an option is taken, it stands for none. So the enter key takes what is
drawn as highlighted just while the number is that of an option.

Main statements: `drawsHighlighted_iff` (which option is drawn as highlighted),
`entersHighlighted_iff` (when the enter key takes it), `inRange_perform_iff`
(what keeps the highlight within the options) and `entersHighlighted_run_iff` (in
which runs the enter key always takes what is drawn).
-/

namespace FormulaPad

/-! ## What is drawn -/

namespace Panel

open Terminal

/-- On one of its lines, the list of options shows this option as the highlighted one. -/
def DrawsHighlighted (area : Rect) (chip : Chip) (highlight : Nat) (o : ChipOption) : Prop :=
  ∃ line number : Nat,
    (optionRows (boxed.inner area) chip highlight)[line]? = some (o, number) ∧
      (optionLines (boxed.inner area) chip highlight)[line]? =
        some (Span.lines ⟨optionLabel o, .selected⟩)

theorem optionLabel_ne_nil (o : ChipOption) : optionLabel o ≠ [] := by
  rw [optionLabel]
  cases o.selected <;> exact List.cons_ne_nil _ _

/-- The line of an option is that of a highlighted row only for the row that the highlight stands
for. -/
theorem lines_rowStyle_eq_selected_iff {o : ChipOption} {highlight count number : Nat} :
    Span.lines ⟨optionLabel o, rowStyle highlight count number⟩ =
      Span.lines ⟨optionLabel o, .selected⟩ ↔ number = Window.rowOf highlight count := by
  constructor
  · intro h
    have hstyle := Span.style_of_lines_eq (optionLabel_ne_nil o) h
    rw [rowStyle] at hstyle
    split at hstyle
    · assumption
    · exact absurd hstyle.symm Style.selected_ne_text
  · intro h
    rw [rowStyle, if_pos h]

/-- If there is room for an option at all, the one that the highlight stands for is drawn as
highlighted, and no other. -/
theorem drawsHighlighted_iff {area : Rect} {chip : Chip} {highlight : Nat} {o : ChipOption} :
    DrawsHighlighted area chip highlight o ↔
      0 < (boxed.inner area).height ∧
        chip.options[Window.rowOf highlight chip.options.length]? = some o := by
  constructor
  · rintro ⟨line, number, hrow, hline⟩
    rw [optionLines, List.getElem?_map, hrow] at hline
    obtain rfl := lines_rowStyle_eq_selected_iff.1 (Option.some.inj hline)
    rw [optionRows, Window.getElem?_rows] at hrow
    split at hrow
    · next hroom =>
        obtain ⟨other, hget, heq⟩ := Option.map_eq_some_iff.1 hrow
        obtain ⟨rfl, hnumber⟩ := Prod.mk.inj heq
        exact ⟨Nat.zero_lt_of_lt hroom, hnumber ▸ hget⟩
    · cases hrow
  · rintro ⟨hroom, hget⟩
    -- the line that the row is on, counted from the first row in view
    let first := Window.start (Window.rowOf highlight chip.options.length) (boxed.inner area).height
    let line := Window.rowOf highlight chip.options.length - first
    have hline : first + line = Window.rowOf highlight chip.options.length :=
      Nat.add_sub_cancel' (Window.start_le ..)
    have hlt : line < (boxed.inner area).height :=
      Nat.sub_lt_left_of_lt_add (Window.start_le ..) (Window.lt_start_add hroom)
    have hrow : (optionRows (boxed.inner area) chip highlight)[line]? =
        some (o, Window.rowOf highlight chip.options.length) := by
      rw [optionRows, Window.getElem?_rows, if_pos hlt]
      show (chip.options[first + line]?).map (·, first + line) = _
      rw [hline, hget, Option.map_some]
    refine ⟨line, _, hrow, ?_⟩
    rw [optionLines, List.getElem?_map, hrow]
    exact congrArg some (lines_rowStyle_eq_selected_iff.2 rfl)

end Panel

/-! ## The highlight within the options -/

namespace Editor

variable {e e' : Editor} {suggestions : Option (List Suggestion)}

/-- The highlight is the number of an option of the open chip, if this has any. -/
def HighlightInRange (e : Editor) (suggestions : Option (List Suggestion)) : Prop :=
  ∀ chip, (e.view suggestions).openChip? = some chip → chip.options ≠ [] →
    e.optionRow < chip.options.length

theorem inRange_of_closed (h : e.openDropdown = none) : e.HighlightInRange suggestions := by
  intro chip hopen
  rw [(View.of_openChip?_build hopen).2] at h
  cases h

theorem inRange_of_first (h : e.optionRow = 0) : e.HighlightInRange suggestions := by
  intro chip _ hoptions
  rw [h]
  exact List.length_pos_iff.2 hoptions

/-- In the same view the highlight may move up. -/
theorem HighlightInRange.of_le (h : e.HighlightInRange suggestions)
    (hview : e'.view suggestions = e.view suggestions) (hrow : e'.optionRow ≤ e.optionRow) :
    e'.HighlightInRange suggestions := by
  intro chip hopen hoptions
  exact Nat.lt_of_le_of_lt hrow (h chip (hview ▸ hopen) hoptions)

theorem inRange_toggleDropdown (e : Editor) (id : Text) :
    (e.toggleDropdown id).HighlightInRange suggestions := by
  rw [toggleDropdown]
  split
  · exact inRange_of_closed rfl
  · exact inRange_of_first rfl

theorem inRange_cycleDropdown (e : Editor) (forward : Bool) :
    (e.cycleDropdown forward).HighlightInRange suggestions := by
  rw [cycleDropdown]
  split
  · exact inRange_of_closed rfl
  · exact inRange_of_first rfl

/-- The highlight moves down no further than to the last option. -/
theorem inRange_highlightNextOption {options : Nat}
    (h : ∀ chip, (e.view suggestions).openChip? = some chip → chip.options.length = options) :
    (e.highlightNextOption options).HighlightInRange suggestions := by
  intro chip hopen hoptions
  have hlength := h chip hopen
  show Window.nextRow e.optionRow options < chip.options.length
  rw [hlength]
  exact Window.nextRow_lt _ (hlength ▸ List.length_pos_iff.2 hoptions)

theorem HighlightInRange.selectHighlightedOption (h : e.HighlightInRange suggestions)
    (list : List Suggestion) : (e.selectHighlightedOption list).HighlightInRange suggestions := by
  rw [Editor.selectHighlightedOption]
  split
  · exact h
  · split
    · exact h
    · exact inRange_of_closed rfl

/-- The pointer closes the dropdown or leaves it as it is. -/
theorem HighlightInRange.pointerDown (h : e.HighlightInRange suggestions)
    (target : PointerTarget) : (e.pointerDown target).HighlightInRange suggestions := by
  cases hopen : (e.pointerDown target).openDropdown with
  | none => exact inRange_of_closed hopen
  | some id =>
      have hsame : e.openDropdown = some id := (Option.filter_eq_some_iff.1 hopen).1
      refine h.of_le ?_ (Nat.le_refl _)
      rw [view, view, hopen, hsame]
      rfl

end Editor

namespace Widget.App

variable {a : App} {suggestions : Option (List Suggestion)}

/-! ## Changing the editor -/

/-- The highlight of the widget is the number of an option. -/
def InRange (a : App) : Prop := a.editor.HighlightInRange a.suggestions

theorem content_edit (a : App) (f : Editor → Editor) :
    (a.edit f).editor.store.content = (f a.editor).store.content :=
  Store.content_collect ..

theorem view_edit (a : App) (f : Editor → Editor) :
    (a.edit f).editor.view suggestions = (f a.editor).view suggestions := by
  rw [Editor.view, Editor.view, Store.formula, Store.tags, content_edit]
  rfl

/-- What a change comes to is all that matters of it. -/
theorem edit_congr {f g : Editor → Editor} (h : f a.editor = g a.editor) : a.edit f = a.edit g := by
  rw [edit, h]
  rfl

theorem inRange_edit {f : Editor → Editor} (h : (f a.editor).HighlightInRange a.suggestions) :
    (a.edit f).InRange :=
  h.of_le (view_edit a f) (Nat.le_refl _)

/-- Suggestions that are not there yet offer as much as none. -/
theorem view_loaded (a : App) (e : Editor) : e.view (some a.loaded) = e.view a.suggestions := by
  rw [loaded]
  cases a.suggestions <;> rfl

theorem openOptionCount_of_open {chip : Chip}
    (h : (a.editor.view a.suggestions).openChip? = some chip) :
    chip.options.length = a.openOptionCount := by
  rw [openOptionCount, view_loaded, h]

/-! ## Operations -/

/-- What can happen to the widget: a message is handled, the store is written to behind it, or the
screen is drawn, in whatever layout. Fetches only post messages. -/
inductive Operation where
  | message (now : Nat) (m : Message)
  | writeStore (f : Store → Store)
  | render (l : Layout)

def perform (a : App) : Operation → App
  | .message now m => a.handle now m
  | .writeStore f => a.edit (·.writeStore f)
  | .render l => a.render l

/-- The operation may give the open chip other options. -/
def Operation.changesOptions : Operation → Bool
  | .message _ (.keyPress (.insert _)) | .message _ (.keyPress .backspace) => true
  | .message _ (.keyPress .delete) | .message _ (.suggestionsLoaded _) => true
  | .writeStore _ => true
  | _ => false

/-- If the operation may give the open chip other options, the highlight is the number of one. -/
def KeepsHighlight (a : App) (op : Operation) : Prop :=
  op.changesOptions = true → (a.perform op).InRange

/-- All other keys keep the highlight within the options. -/
theorem inRange_keyEdit (h : a.InRange) {now : Nat} {action : KeyAction}
    (haction : (Operation.message now (.keyPress action)).changesOptions = false) :
    (a.keyEdit a.editor action).HighlightInRange a.suggestions := by
  cases action with
  | insert | backspace | delete => cases haction
  | left | right | home | finish | escape | quit => exact h.of_le rfl (Nat.le_refl _)
  | up =>
      rw [keyEdit]
      split
      · exact h.of_le rfl (Nat.sub_le ..)
      · exact h.of_le rfl (Nat.le_refl _)
  | down =>
      rw [keyEdit]
      split
      · exact Editor.inRange_highlightNextOption fun _ => openOptionCount_of_open
      · exact h.of_le rfl (Nat.le_refl _)
  | enter =>
      rw [keyEdit]
      split
      · exact h.selectHighlightedOption a.loaded
      · next hclosed =>
          refine Editor.inRange_of_closed ?_
          rw [Editor.openDropdown_enter]
          simpa using hclosed
  | nextDropdown => exact Editor.inRange_cycleDropdown _ true
  | prevDropdown => exact Editor.inRange_cycleDropdown _ false

theorem inRange_handleKey (h : a.InRange) {now : Nat} {action : KeyAction}
    (haction : (Operation.message now (.keyPress action)).changesOptions = false) :
    (a.handleKey now action).InRange := by
  have hedit : (a.edit (a.keyEdit · action)).InRange := inRange_edit (inRange_keyEdit h haction)
  cases action with
  | insert | backspace | delete => cases haction
  | _ => exact hedit

/-- The pointer keeps it there too, whatever it is on. -/
theorem inRange_activate (h : a.InRange) (hit : Hit) :
    (activate a.loaded (a.editor.pointerDown hit.target) hit).HighlightInRange a.suggestions := by
  have hdown := h.pointerDown hit.target
  cases hit with
  | input column => exact hdown.of_le rfl (Nat.le_refl _)
  | table | dropdown id | elsewhere => exact hdown
  | toggle id => exact Editor.inRange_toggleDropdown _ id
  | tableRow number =>
      rw [activate]
      split
      · refine Editor.inRange_of_closed ?_
        rw [Editor.openDropdown_selectSuggestion]
        exact Option.filter_eq_none_iff.2 fun _ _ => by simp [Hit.target, PointerTarget.isOf]
      · exact hdown
  | option id number =>
      rw [activate]
      split
      · exact hdown
      · split
        · exact Editor.inRange_of_closed rfl
        · exact hdown

theorem inRange_handlePointer (h : a.InRange) (column row : Nat) :
    (a.handlePointer column row).InRange :=
  inRange_edit (inRange_activate h (a.regions.hit column row))

/-- The highlight stays within the options but for operations that leave fewer of them. -/
theorem inRange_perform_iff {op : Operation} (h : a.InRange) :
    (a.perform op).InRange ↔ KeepsHighlight a op := by
  refine ⟨fun hnext _ => hnext, fun hkeeps => ?_⟩
  cases hchanges : op.changesOptions with
  | true => exact hkeeps hchanges
  | false =>
      cases op with
      | message now m =>
          cases m with
          | keyPress action => exact inRange_handleKey h hchanges
          | pointerDown column row => exact inRange_handlePointer h column row
          | suggestionsLoaded => cases hchanges
          | storeChanged | resize | tick | quit => exact h
      | writeStore f => cases hchanges
      | render => exact h

/-! ## The enter key -/

/-- From one state to the other a value has been bound to a tag and the dropdown has been closed;
the formula and the other tags are as they were. -/
structure TakesValue (a b : App) (tag value : Text) : Prop where
  closed : b.editor.openDropdown = none
  formula_eq : b.editor.store.formula = a.editor.store.formula
  get?_eq : ∀ other, b.editor.store.tags.get? other =
    if other = tag then some value else a.editor.store.tags.get? other

/-- Wherever the options of the open chip are drawn with room for one, one of them is drawn as
highlighted, and the enter key takes it. -/
def EntersHighlighted (a : App) : Prop :=
  ∀ chip area, (a.editor.view a.suggestions).openChip? = some chip → chip.options ≠ [] →
    0 < (Panel.boxed.inner area).height →
      ∃ drawn, (∀ o, Panel.DrawsHighlighted area chip a.editor.optionRow o ↔ o = drawn) ∧
        ∀ now, TakesValue a (a.handle now (.keyPress .enter)) chip.name drawn.value

theorem takesValue_edit {f : Editor → Editor} {tag value : Text}
    (hclosed : (f a.editor).openDropdown = none)
    (hstore : (f a.editor).store = a.editor.store.setTag tag value) :
    TakesValue a (a.edit f) tag value := by
  refine ⟨hclosed, ?_, fun other => ?_⟩
  · rw [Store.formula, content_edit, hstore]
    exact Store.formula_setTag ..
  · rw [Store.tags, content_edit, hstore]
    exact Store.get?_setTag ..

theorem takesValue_edit_selectTagValue (a : App) (tag value : Text) :
    TakesValue a (a.edit (·.selectTagValue tag value)) tag value :=
  takesValue_edit rfl rfl

/-- While a chip is open, the enter key takes the option with the number of the highlight. -/
theorem keyEdit_enter {chip : Chip} (h : (a.editor.view a.suggestions).openChip? = some chip) :
    a.keyEdit a.editor .enter =
      chip.options[a.editor.optionRow]?.elim a.editor
        fun option => a.editor.selectTagValue chip.name option.value := by
  have hopen : a.editor.openDropdown.isSome = true := by
    rw [(View.of_openChip?_build h).2]
    rfl
  rw [keyEdit, if_pos hopen, Editor.selectHighlightedOption, view_loaded, h]
  dsimp only
  cases chip.options[a.editor.optionRow]? <;> rfl

/-- The enter key takes the option that is drawn as highlighted just while the highlight is the
number of an option. -/
theorem entersHighlighted_iff : EntersHighlighted a ↔ a.InRange := by
  constructor
  · intro h chip hopen hoptions
    refine Nat.lt_of_not_le fun hbeyond => ?_
    obtain ⟨drawn, -, htakes⟩ := h chip ⟨0, 0, 3, 3⟩ hopen hoptions (by decide)
    have hnothing : a.keyEdit a.editor .enter = a.editor := by
      rw [keyEdit_enter hopen, List.getElem?_eq_none hbeyond, Option.elim_none]
    have hclosed : (a.keyEdit a.editor .enter).openDropdown = none := (htakes 0).closed
    rw [hnothing, (View.of_openChip?_build hopen).2] at hclosed
    cases hclosed
  · intro h chip area hopen hoptions hroom
    have hlt := h chip hopen hoptions
    have hget := List.getElem?_eq_getElem hlt
    refine ⟨chip.options[a.editor.optionRow], fun o => ?_, fun now => ?_⟩
    · rw [Panel.drawsHighlighted_iff, Window.rowOf_of_lt hlt, hget, Option.some_inj]
      exact ⟨fun h => h.2.symm, fun h => ⟨hroom, h.symm⟩⟩
    · have hkey : a.keyEdit a.editor .enter =
          a.editor.selectTagValue chip.name chip.options[a.editor.optionRow].value := by
        rw [keyEdit_enter hopen, hget, Option.elim_some]
      show TakesValue a (a.edit (a.keyEdit · .enter)) _ _
      rw [edit_congr (g := (·.selectTagValue _ _)) hkey]
      exact takesValue_edit_selectTagValue ..

/-! ## Runs -/

theorem inRange_start (store : Store) (cache : Option Cache) :
    (start (.ofStore store) cache).InRange :=
  Editor.inRange_of_closed rfl

/-- From a new widget on, the enter key always takes the option that is drawn as highlighted exactly
if the highlight never exceeds the options that typing, deleting, other suggestions or a write to
the store leave. -/
theorem entersHighlighted_run_iff (store : Store) (cache : Option Cache) (ops : List Operation) :
    HoldsAlong perform EntersHighlighted (start (.ofStore store) cache) ops ↔
      EveryStep perform KeepsHighlight (start (.ofStore store) cache) ops := by
  refine holdsAlong_iff (fun h _ => ?_) (entersHighlighted_iff.2 (inRange_start store cache))
    (everyStep_of_forall fun _ _ => trivial)
  rw [entersHighlighted_iff, inRange_perform_iff (entersHighlighted_iff.1 h)]

/-- Typed on, a name with two values becomes one with a single value; the highlight on the second
stays, and the enter key does nothing. -/
theorem not_entersHighlighted_typedOn :
    let suggestion (id name : String) (value : Int) : Suggestion :=
      ⟨id.toList, name.toList, "c".toList, .number (.integer value)⟩
    ¬ HoldsAlong perform EntersHighlighted (start (.ofStore {}) none)
      [.message 0 (.suggestionsLoaded
          [suggestion "1" "ab" 1, suggestion "2" "ab" 2, suggestion "3" "abc" 3]),
        .message 0 (.keyPress (.insert 'a')), .message 0 (.keyPress (.insert 'b')),
        .message 0 (.keyPress .nextDropdown), .message 0 (.keyPress .down),
        .message 0 (.keyPress (.insert 'c'))] := by
  intro suggestion h
  have hrow := entersHighlighted_iff.1 h.last
    ⟨0, "abc".toList, none, true, [⟨"3".toList, "3".toList, false⟩]⟩ (by decide +kernel)
    (List.cons_ne_nil _ _)
  revert hrow
  decide +kernel

end Widget.App
end FormulaPad
