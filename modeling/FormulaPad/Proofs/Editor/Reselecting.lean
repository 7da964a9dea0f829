import FormulaPad.Proofs.Editor.Placing
import FormulaPad.Proofs.Editor.Writes

/-!
# FormulaPad.Proofs.Editor.Reselecting

A suggestion that is selected a second time.

A name is put where no word ends, so that nothing before it belongs to the same
word. If it is a word itself, it is what ends before the caret afterwards, and put
in once more it takes its own place. Main statements: `eq_of_placeName?` (where
the name goes the second time), `isSettled_selectSuggestion` (a selection leaves
nothing for the same selection to do) and `selectsOnce_of_isWord`.
-/

namespace FormulaPad.Editor

open Formula Text

variable {e : Editor} {s : Suggestion} {line placed : Line} {lead name after : Text}

/-! ## Where the name goes -/

/-- A name is put behind a text where no word ends. -/
theorem exists_lead_of_placeName? (h : placeName? line name = some placed) :
    ∃ lead, trailingWord lead = [] ∧ placed = .ofSplit (lead ++ name) line.after := by
  rw [placeName?_eq] at h
  split at h
  case isTrue hstart =>
      have hlead := trailingWord_of_endsAtOperator (endsAtOperator_iff.2 hstart)
      exact ⟨line.before, hlead, (Option.some.inj h).symm⟩
  case isFalse =>
      split at h
      case isTrue => cases h
      case isFalse =>
          have hlead := trailingWord_beforeWord line.before
          exact ⟨beforeWord line.before, hlead, (Option.some.inj h).symm⟩

/-- A word that stands where no other ends takes its own place. -/
theorem eq_of_placeName? (hlead : trailingWord lead = []) (hname : ∀ c ∈ name, isWordChar c = true)
    (h : placeName? (.ofSplit (lead ++ name) after) name = some placed) :
    placed = .ofSplit (lead ++ name) after := by
  have hword : trailingWord (lead ++ name) = name := by
    rw [trailingWord_append_of_eq_nil hlead, trailingWord_of_isWord hname]
  rw [placeName?_eq, Line.before_ofSplit, Line.after_ofSplit] at h
  split at h
  case isTrue hstart =>
      -- a name is inserted behind itself only if it is empty, as no word ends with an operator
      have hnil : name = [] :=
        hword.symm.trans (trailingWord_of_endsAtOperator (endsAtOperator_iff.2 hstart))
      rw [hnil] at h ⊢
      rw [← Option.some.inj h, List.append_nil (lead ++ [])]
  case isFalse =>
      split at h
      case isTrue => cases h
      case isFalse =>
          have hsplit := beforeWord_append_trailingWord (lead ++ name)
          rw [hword] at hsplit
          rw [← Option.some.inj h, hsplit]

/-! ## Nothing left to do -/

/-- There is nothing for the selection of the suggestion to do: the table is closed, and the name
has no place in the line or stands in its place already, stored and with its value. -/
structure IsSettled (e : Editor) (s : Suggestion) : Prop where
  tableOpen_eq : e.tableOpen = false
  placed : ∀ line ∈ placeName? e.line s.name,
    line = e.line ∧ e.store.formula = line.text ∧ e.store.tags.get? s.name = some s.valueText

/-- A selection with nothing to do writes nothing that is not stored yet. -/
theorem IsSettled.perform_eq (h : IsSettled e s) :
    ∀ write ∈ e.suggestionWrites s, e.store.perform write = e.store := by
  unfold suggestionWrites
  cases hplace : placeName? e.line s.name with
  | none => exact fun write hwrite => nomatch hwrite
  | some line =>
      intro write hwrite
      obtain ⟨-, hformula, hvalue⟩ := h.placed line hplace
      rcases List.mem_pair.1 hwrite with rfl | rfl
      · exact if_pos hformula.symm
      · exact if_pos hvalue

theorem IsSettled.selectSuggestion_eq (h : IsSettled e s) : e.selectSuggestion s = e := by
  have hrun := Store.run_eq_self h.perform_eq
  unfold suggestionWrites at hrun
  unfold selectSuggestion
  cases hplace : placeName? e.line s.name with
  | none => rw [← h.tableOpen_eq]
  | some line =>
      rw [hplace] at hrun
      show { e with
        store := e.store.run [.setFormula line.text, .setTag s.name s.valueText]
        line := line
        tableOpen := false } = e
      rw [hrun, (h.placed line hplace).1, ← h.tableOpen_eq]

/-- After the selection of a word there is nothing for the same selection to do. -/
theorem isSettled_selectSuggestion (hname : ∀ c ∈ s.name, isWordChar c = true) :
    IsSettled (e.selectSuggestion s) s := by
  cases hplace : placeName? e.line s.name with
  | none =>
      have hclosed : e.selectSuggestion s = { e with tableOpen := false } := by
        rw [selectSuggestion, hplace]
      rw [hclosed]
      refine ⟨rfl, fun line hagain => ?_⟩
      cases hplace.symm.trans hagain
  | some placed =>
      have hline := line_selectSuggestion hplace
      refine ⟨by rw [selectSuggestion, hplace], fun line hagain => ?_⟩
      have hsame : line = placed := by
        obtain ⟨lead, hlead, rfl⟩ := exists_lead_of_placeName? hplace
        rw [hline] at hagain
        exact eq_of_placeName? hlead hname hagain
      rw [hsame]
      exact ⟨hline.symm, formula_selectSuggestion hplace, get?_selectSuggestion hplace⟩

/-! ## Main statement -/

/-- Selecting the suggestion once more makes no difference. -/
structure SelectsOnce (e : Editor) (s : Suggestion) : Prop where
  /-- The line with its caret, the store and the table are what they were, and all else. -/
  same : (e.selectSuggestion s).selectSuggestion s = e.selectSuggestion s
  /-- Nothing that is written the second time is a change. -/
  alters_nothing :
    Store.Altered (e.selectSuggestion s).store ((e.selectSuggestion s).suggestionWrites s) []
  received_eq : ∀ id, ((e.selectSuggestion s).selectSuggestion s).store.received id =
    (e.selectSuggestion s).store.received id

/-- **A suggestion whose name is a word can be selected any number of times**: from the second time
on nothing changes, and nobody who follows the store is told anything. -/
theorem selectsOnce_of_isWord (hname : ∀ c ∈ s.name, isWordChar c = true) : SelectsOnce e s := by
  have hsettled : IsSettled (e.selectSuggestion s) s := isSettled_selectSuggestion hname
  constructor
  case same => exact hsettled.selectSuggestion_eq
  case alters_nothing => exact Store.altered_nil hsettled.perform_eq
  case received_eq => exact fun id => by rw [hsettled.selectSuggestion_eq]

/-- The word before the caret starts right behind a letter that belongs to no word, and the name
takes its place there; the one follower is told of two changes, and then of none. -/
theorem selectsOnce_of_isWord_adjacent :
    let e : Editor :=
      { store := (Store.subscribe {}).2, line := .ofSplit "2*né ta".toList "x+1".toList }
    let s : Suggestion := ⟨"1".toList, "tax 1".toList, [], .text "7".toList⟩
    (∀ c ∈ s.name, isWordChar c = true) ∧
      (e.selectSuggestion s).line = .ofSplit "2*nétax 1".toList "x+1".toList ∧
      (e.selectSuggestion s).store.received 0 =
        [.formula "2*nétax 1x+1".toList, .tag "tax 1".toList "7".toList] ∧
      SelectsOnce e s := by
  intro e s
  have hname : ∀ c ∈ s.name, isWordChar c = true := List.all_eq_true.1 (by decide)
  have hplace : (e.selectSuggestion s).line = .ofSplit "2*nétax 1".toList "x+1".toList :=
    Line.ext (by decide +kernel) (by decide +kernel)
  exact ⟨hname, hplace, by decide +kernel, selectsOnce_of_isWord hname⟩

/-- Of a name that is no word only the last part gives way to it. -/
example :
    let s : Suggestion := ⟨"1".toList, "%a".toList, [], .text "7".toList⟩
    ((selectSuggestion {} s).selectSuggestion s).line.text = "%%a".toList := by decide +kernel

end FormulaPad.Editor
