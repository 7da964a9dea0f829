import FormulaPad.Proofs.Editor.Operation
import FormulaPad.Proofs.Store.Inbox

/-!
# FormulaPad.Proofs.Editor.Writes

What the operations of the editor write to its store.

`writes` lists the writes of an operation in their order, whether or not they
change anything; `store_perform` says that they are all that the operation does
to the store, so that what is known of histories of stores applies to editors.
-/

namespace FormulaPad.Editor

/-! ## The writes of one operation -/

/-- The text of a new line becomes the formula. -/
def lineWrites (line? : Option Line) : List Store.Operation :=
  line?.toList.map fun line => .setFormula line.text

/-- Deleting backwards takes a segment off the formula, or a word off the line, which is bound to the
empty value, or a character off the line. -/
def backspaceWrites (e : Editor) : List Store.Operation :=
  if e.line.text = [] then
    if e.store.formula = [] then [] else [.setFormula (Formula.removeLastSegment e.store.formula)]
  else
    match Formula.trailingWord? e.line.before with
    | some word => [.setFormula e.backspace.line.text, .setTag word []]
    | none => lineWrites e.line.eraseLast?

/-- The name of a suggestion is put into the formula, and its value is bound to it. -/
def suggestionWrites (e : Editor) (s : Suggestion) : List Store.Operation :=
  match placeName? e.line s.name with
  | none => []
  | some line => [.setFormula line.text, .setTag s.name s.valueText]

/-- The value of an option of the open chip is bound to its name. -/
def optionWrites (e : Editor) (suggestions : List Suggestion) : List Store.Operation :=
  match (e.view (some suggestions)).openChip? with
  | none => []
  | some chip => chip.options[e.optionRow]?.toList.map fun option => .setTag chip.name option.value

/-- What an operation writes, but for a write to the store behind the line, which is any function. -/
def writes (e : Editor) : Operation → List Store.Operation
  | .changeInput text caret => lineWrites (some (.ofTextAt text caret))
  | .insertChar c => lineWrites (some (e.line.insert [c]))
  | .insertText t => lineWrites (some (e.line.insert t))
  | .backspace => e.backspaceWrites
  | .deleteForward => lineWrites e.line.delete?
  | .load formula => [.setFormula formula]
  | .enter suggestions =>
      if e.tableOpen then
        match suggestions[Window.rowOf e.tableRow suggestions.length]? with
        | none => []
        | some s => e.suggestionWrites s
      else []
  | .selectSuggestion s => e.suggestionWrites s
  | .selectTagValue tag value => [.setTag tag value]
  | .selectHighlightedOption suggestions => e.optionWrites suggestions
  | _ => []

/-- The operation reaches the store only by its writes. -/
def Operation.isOrdinary : Operation → Bool
  | .writeStore _ => false
  | _ => true

variable {e : Editor} {op : Operation}

theorem store_changeLine (e : Editor) (line? : Option Line) :
    (match line? with
      | none => e
      | some line => e.changeLine line).store = e.store.run (lineWrites line?) := by
  cases line? <;> rfl

theorem store_backspace (e : Editor) : e.backspace.store = e.store.run e.backspaceWrites := by
  unfold backspaceWrites
  by_cases hline : e.line.text = []
  · unfold backspace
    rw [if_pos hline, if_pos hline]
    by_cases hformula : e.store.formula = []
    · rw [if_pos hformula, if_pos hformula]; rfl
    · rw [if_neg hformula, if_neg hformula]; rfl
  · rw [if_neg hline]
    cases hword : Formula.trailingWord? e.line.before with
    | some word =>
        have hback : e.backspace.store =
            (e.store.setFormula e.backspace.line.text).setTag word [] := by
          unfold backspace
          rw [if_neg hline]
          split
          · next other hother =>
              obtain rfl : word = other := Option.some.inj (hword.symm.trans hother)
              rfl
          · next hnone => cases hword.symm.trans hnone
        exact hback
    | none =>
        unfold backspace
        rw [if_neg hline]
        split
        · next word hother => cases hother.symm.trans hword
        · exact store_changeLine e e.line.eraseLast?

theorem store_selectSuggestion (e : Editor) (s : Suggestion) :
    (e.selectSuggestion s).store = e.store.run (e.suggestionWrites s) := by
  unfold selectSuggestion suggestionWrites
  cases placeName? e.line s.name <;> rfl

/-- What an operation does to the store is to write what it writes. -/
theorem store_perform (h : op.isOrdinary = true) :
    (e.perform op).store = e.store.run (e.writes op) := by
  cases op with
  | backspace => exact store_backspace e
  | deleteForward => exact store_changeLine e e.line.delete?
  | selectSuggestion s => exact store_selectSuggestion e s
  | enter suggestions =>
      simp only [perform, enter, writes]
      split
      · cases suggestions[Window.rowOf e.tableRow suggestions.length]? with
        | none => rfl
        | some s => exact store_selectSuggestion e s
      · rfl
  | selectHighlightedOption suggestions =>
      simp only [perform, selectHighlightedOption, writes, optionWrites]
      cases (e.view (some suggestions)).openChip? with
      | none => rfl
      | some chip =>
          dsimp only
          cases chip.options[e.optionRow]? <;> rfl
  | toggleDropdown id =>
      simp only [perform, toggleDropdown]
      split <;> rfl
  | cycleDropdown forward =>
      rw [perform, cycleDropdown_eq]
      rfl
  | writeStore f => cases h
  | _ => rfl

theorem isWrite_lineWrites {line? : Option Line} :
    ∀ write ∈ lineWrites line?, write.isWrite = true := by
  cases line? <;> simp [lineWrites, Store.Operation.isWrite, Store.Operation.change?]

theorem isWrite_suggestionWrites {s : Suggestion} :
    ∀ write ∈ e.suggestionWrites s, write.isWrite = true := by
  unfold suggestionWrites
  split <;> simp [Store.Operation.isWrite, Store.Operation.change?]

/-- An operation of the editor neither starts nor ends a subscription. -/
theorem isWrite_writes : ∀ write ∈ e.writes op, write.isWrite = true := by
  cases op with
  | changeInput | insertChar | insertText | deleteForward => exact isWrite_lineWrites
  | backspace =>
      simp only [writes, backspaceWrites]
      split
      · split <;> simp [Store.Operation.isWrite, Store.Operation.change?]
      · split
        · simp [Store.Operation.isWrite, Store.Operation.change?]
        · exact isWrite_lineWrites
  | selectSuggestion s => exact isWrite_suggestionWrites
  | enter suggestions =>
      simp only [writes]
      split
      · split
        · simp
        · exact isWrite_suggestionWrites
      · simp
  | selectHighlightedOption suggestions =>
      simp only [writes, optionWrites]
      split <;> simp [Store.Operation.isWrite, Store.Operation.change?]
  | _ => simp [writes, Store.Operation.isWrite, Store.Operation.change?]

/-! ## The writes of a run -/

/-- What one operation after another writes. -/
def runWrites (e : Editor) : List Operation → List Store.Operation
  | [] => []
  | op :: ops => e.writes op ++ (e.perform op).runWrites ops

theorem store_run {ops : List Operation} (h : ∀ op ∈ ops, op.isOrdinary = true) :
    (e.run ops).store = e.store.run (e.runWrites ops) := by
  induction ops generalizing e with
  | nil => rfl
  | cons op ops ih =>
      have hfirst := store_perform (e := e) (h op List.mem_cons_self)
      rw [run, ih fun op hop => h op (List.mem_cons_of_mem _ hop), runWrites, Store.run_append,
        hfirst]

theorem isWrite_runWrites {ops : List Operation} :
    ∀ write ∈ e.runWrites ops, write.isWrite = true := by
  induction ops generalizing e with
  | nil => simp [runWrites]
  | cons op ops ih =>
      intro write hwrite
      cases List.mem_append.1 hwrite with
      | inl hfirst => exact isWrite_writes write hfirst
      | inr hrest => exact ih write hrest

end FormulaPad.Editor
